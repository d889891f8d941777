/-! # TOML values

A TOML document is a table of tables. A table remembers how it came to be, because that decides what
a later part of the document may still do to it: a table is opened by one header only, a dotted key
adds to tables that no header has opened, after which none may, and an inline table is complete.
-/

namespace DiagramAssist

/-- How a table came to be. -/
inductive TableOrigin where
  | header
  /-- By a header of a table inside it. -/
  | implied
  /-- By a dotted key that leads into it. -/
  | dotted
  | inline
deriving DecidableEq, Inhabited

/-- A TOML value. The values of fractions and of dates and times are not kept. -/
inductive Toml where
  | string (value : String)
  | integer (value : Int)
  | bool (value : Bool)
  | fraction
  | moment
  /-- An array, which is open when its elements are tables under headers. -/
  | array (isOpen : Bool) (elements : List Toml)
  | table (origin : TableOrigin) (members : List (String × Toml))

namespace Toml

instance : Inhabited Toml := ⟨.table .header []⟩

/-- The members of a table. -/
abbrev Members : Type :=
  List (String × Toml)

def put (key : String) (value : Toml) : Members → Members
  | [] => [(key, value)]
  | (other, old) :: rest =>
    if other = key then (key, value) :: rest else (other, old) :: put key value rest

/-- How a table on the way of a path counts from then on, if the path may enter it. A dotted path
does not enter a table that has a header, and no path enters an inline table. -/
def enter? (isDotted : Bool) : TableOrigin → Option TableOrigin
  | .header => if isDotted then none else some .header
  | .implied => some (if isDotted then .dotted else .implied)
  | .dotted => some .dotted
  | .inline => none

/-- Changes the table at a path, making the tables on the way. A path inside an open array goes on
in its last table, unless the path is dotted. -/
def modifyAt (isDotted : Bool) (change : TableOrigin → Members → Option (TableOrigin × Members)) :
    (path : List String) → TableOrigin → Members → Option (TableOrigin × Members)
  | [], origin, members => change origin members
  | key :: path, origin, members => do
    let child ← match members.lookup key with
      | none => do
        let (origin, members) ←
          modifyAt isDotted change path (if isDotted then .dotted else .implied) []
        pure (Toml.table origin members)
      | some (.table origin members) => do
        let (origin, members) ← modifyAt isDotted change path (← enter? isDotted origin) members
        pure (Toml.table origin members)
      | some (.array true elements) =>
        match isDotted, elements.getLast? with
        | false, some (.table origin members) => do
          let (origin, members) ← modifyAt isDotted change path origin members
          pure (Toml.array true (elements.dropLast ++ [.table origin members]))
        | _, _ => none
      | _ => none
    return (origin, put key child members)

/-- Splits a path before its last key. -/
def splitLast? (path : List String) : Option (List String × String) :=
  path.getLast?.map fun key => (path.dropLast, key)

/-- Adds a member under a dotted key. A key has one value. -/
def insert? (path : List String) (value : Toml) (origin : TableOrigin) (members : Members) :
    Option (TableOrigin × Members) := do
  let (path, key) ← splitLast? path
  modifyAt true (fun origin members =>
    if (members.lookup key).isSome then none
    else some (origin, members ++ [(key, value)])) path origin members

/-- Opens the table of a header. -/
def openTable? (path : List String) (root : Members) : Option Members := do
  let (path, key) ← splitLast? path
  let (_, root) ← modifyAt false (fun origin members =>
    match members.lookup key with
    | none => some (origin, put key (.table .header []) members)
    | some (.table .implied inner) => some (origin, put key (.table .header inner) members)
    | _ => none) path .header root
  return root

/-- Opens a new table of an open array. -/
def openElement? (path : List String) (root : Members) : Option Members := do
  let (path, key) ← splitLast? path
  let (_, root) ← modifyAt false (fun origin members =>
    match members.lookup key with
    | none => some (origin, put key (.array true [.table .header []]) members)
    | some (.array true elements) =>
      some (origin, put key (.array true (elements ++ [.table .header []])) members)
    | _ => none) path .header root
  return root

/-- Adds a member to the table that was opened last. -/
def assign? (current path : List String) (value : Toml) (root : Members) : Option Members := do
  let (_, root) ← modifyAt false (insert? path value) current .header root
  return root

end Toml

end DiagramAssist
