import DiagramAssist.Number.Binary64

/-! # JSON values

Messages are JSON. An integer that fits a 64-bit word, signed or unsigned, is kept as it is; every
other number is a binary64 value. Members of an object are kept in the order they were written, and
a repeated name stands for its last value.
-/

namespace DiagramAssist

inductive Json where
  | null
  | bool (value : Bool)
  | integer (value : Int)
  | real (value : Binary64)
  | string (value : String)
  | array (elements : List Json)
  | object (members : List (String × Json))

namespace Json

instance : Inhabited Json := ⟨.null⟩

/-- Puts a member where its name belongs in the order of names, unless the name is there already. -/
def insertMember (name : String) (value : Json) : List (String × Json) → List (String × Json)
  | [] => [(name, value)]
  | (other, kept) :: rest =>
    if name = other then (other, kept) :: rest
    else if name < other then (name, value) :: (other, kept) :: rest
    else (other, kept) :: insertMember name value rest

mutual

/-- The value with the members of every object in the order of their names, a repeated name having
its last value only. -/
def settled : Json → Json
  | .array elements => .array (settledAll elements)
  | .object members => .object (settledMembers members)
  | value => value

def settledAll : List Json → List Json
  | [] => []
  | value :: rest => settled value :: settledAll rest

def settledMembers : List (String × Json) → List (String × Json)
  | [] => []
  | (name, value) :: rest => insertMember name (settled value) (settledMembers rest)

end

/-- The last value of a name. -/
def lookup (members : List (String × Json)) (name : String) : Option Json :=
  (members.reverse.find? (·.1 == name)).map (·.2)

/-- The member of an object, if the value is an object that has it. -/
def member? (value : Json) (name : String) : Option Json :=
  match value with
  | .object members => lookup members name
  | _ => none

/-- The greatest unsigned 64-bit integer. -/
def maxUnsigned : Int := Int.pow 2 64 - 1

/-- The least signed 64-bit integer. -/
def minSigned : Int := -(Int.pow 2 63)

def nat (value : Nat) : Json :=
  .integer (Int.ofNat value)

def ofString? : Option String → Json
  | some value => .string value
  | none => .null

end Json

end DiagramAssist
