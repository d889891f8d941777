import DiagramAssist.Completion
import DiagramAssist.Config
import DiagramAssist.Json.Reader
import DiagramAssist.Payload

/-! # Reading messages

Records are read off JSON values. A record is an object, whose unknown members are ignored, or the
array of its fields in order; fields with a default may be missing. The values that are present are
read first, in the order of the members, and only then is a missing field noticed.
-/

namespace DiagramAssist

/-- Why a JSON value is not the message that was wanted. -/
inductive DecodeError where
  | missingField (name : String)
  | mismatch
deriving DecidableEq, Inhabited

def DecodeError.message : DecodeError → String
  | .missingField name => "missing field `" ++ name ++ "`"
  | .mismatch => "invalid value"

abbrev Decoder (α : Type) : Type :=
  Json → Except DecodeError α

namespace Decoder

variable {α : Type}

def string : Decoder String
  | .string value => .ok value
  | _ => .error .mismatch

def bool : Decoder Bool
  | .bool value => .ok value
  | _ => .error .mismatch

def natUpTo (limit : Nat) : Decoder Nat
  | .integer value => if 0 ≤ value && value.toNat ≤ limit then .ok value.toNat else .error .mismatch
  | _ => .error .mismatch

/-- An unsigned 32-bit integer. -/
def word32 : Decoder Nat :=
  natUpTo (Nat.pow 2 32 - 1)

/-- An unsigned 64-bit integer. -/
def word64 : Decoder Nat :=
  natUpTo (Nat.pow 2 64 - 1)

def nullable (decode : Decoder α) : Decoder (Option α)
  | .null => .ok none
  | value => (decode value).map some

def list (decode : Decoder α) : Decoder (List α)
  | .array elements => elements.mapM decode
  | _ => .error .mismatch

/-- A word out of a closed set; it may also be written as the only member of an object, with the
value `null`. -/
def word (ofWord? : String → Option α) : Decoder α
  | .string name => (ofWord? name).elim (.error .mismatch) .ok
  | .object [(name, .null)] => (ofWord? name).elim (.error .mismatch) .ok
  | _ => .error .mismatch

end Decoder

structure Field (α : Type) where
  name : String
  decode : Decoder α
  /-- The value of the field when it is missing, if it may be. -/
  absent : Option α

namespace Field

variable {α : Type}

def required (name : String) (decode : Decoder α) : Field α :=
  ⟨name, decode, none⟩

def defaulted (name : String) (decode : Decoder α) (absent : α) : Field α :=
  ⟨name, decode, some absent⟩

def optional (name : String) (decode : Decoder α) : Field (Option α) :=
  ⟨name, .nullable decode, some none⟩

/-- The field's value among the members of an object. -/
def get (field : Field α) (members : List (String × Json)) : Except DecodeError α :=
  match Json.lookup members field.name, field.absent with
  | some value, _ => field.decode value
  | none, some absent => .ok absent
  | none, none => .error (.missingField field.name)

/-- The field's value in an array of fields. -/
def getAt (field : Field α) (elements : List Json) (index : Nat) : Except DecodeError α :=
  match elements[index]?, field.absent with
  | some value, _ => field.decode value
  | none, some absent => .ok absent
  | none, none => .error .mismatch

def check (field : Field α) : String × Decoder Unit :=
  (field.name, fun value => (field.decode value).map fun _ => ())

end Field

/-- Reads the known members of an object in their order; none may be repeated. -/
def checkMembers (checks : List (String × Decoder Unit)) :
    List (String × Json) → Except DecodeError Unit
  | [] => .ok ()
  | (name, value) :: rest =>
    match checks.lookup name with
    | none => checkMembers checks rest
    | some decode => do
      decode value
      if rest.any (·.1 == name) then .error .mismatch
      checkMembers checks rest

/-- Refuses an array with more elements than a record has fields. -/
def checkLength (elements : List Json) (fields : Nat) : Except DecodeError Unit :=
  if fields < elements.length then .error .mismatch else .ok ()

namespace Decoder

variable {α β γ δ ε : Type}

def record1 (make : α → β) (a : Field α) : Decoder β
  | .object members => do
    checkMembers [a.check] members
    return make (← a.get members)
  | .array elements => do
    let first ← a.getAt elements 0
    checkLength elements 1
    return make first
  | _ => .error .mismatch

def record2 (make : α → β → γ) (a : Field α) (b : Field β) : Decoder γ
  | .object members => do
    checkMembers [a.check, b.check] members
    return make (← a.get members) (← b.get members)
  | .array elements => do
    let first ← a.getAt elements 0
    let second ← b.getAt elements 1
    checkLength elements 2
    return make first second
  | _ => .error .mismatch

def record3 (make : α → β → γ → δ) (a : Field α) (b : Field β) (c : Field γ) : Decoder δ
  | .object members => do
    checkMembers [a.check, b.check, c.check] members
    return make (← a.get members) (← b.get members) (← c.get members)
  | .array elements => do
    let first ← a.getAt elements 0
    let second ← b.getAt elements 1
    let third ← c.getAt elements 2
    checkLength elements 3
    return make first second third
  | _ => .error .mismatch

def record4 (make : α → β → γ → δ → ε) (a : Field α) (b : Field β) (c : Field γ) (d : Field δ) :
    Decoder ε
  | .object members => do
    checkMembers [a.check, b.check, c.check, d.check] members
    return make (← a.get members) (← b.get members) (← c.get members) (← d.get members)
  | .array elements => do
    let first ← a.getAt elements 0
    let second ← b.getAt elements 1
    let third ← c.getAt elements 2
    let fourth ← d.getAt elements 3
    checkLength elements 4
    return make first second third fourth
  | _ => .error .mismatch

end Decoder

def Position.decode : Decoder Position :=
  .record2 Position.mk (.required "line" .word32) (.required "character" .word32)

def Range.decode : Decoder Range :=
  .record2 Range.mk (.required "start" Position.decode) (.required "end" Position.decode)

def Item.decode : Decoder Item :=
  .record4 Item.mk (.required "kind" (.word ItemKind.ofWord?)) (.required "insertText" .string)
    (.required "label" .string) (.required "range" Range.decode)

def Filter.decode : Decoder Filter :=
  .record4 Filter.mk (.optional "prefix" .string)
    (.optional "kinds" (.list (.word ItemKind.ofWord?)))
    (.defaulted "excludeIdentifiers" .bool false) (.defaulted "globalVariablesOnly" .bool false)

def Payload.ofJson : Decoder Payload :=
  .record2 Payload.mk (.required "content" .string)
    (.defaulted "encoding" (.word Encoding.ofWord?) .utf8)

def LibraryEntry.decode : Decoder LibraryEntry :=
  .record2 LibraryEntry.mk (.required "path" .string) (.required "url" .string)

def LibraryEntry.parseListing (text : String) : Except DecodeError (List LibraryEntry) :=
  match Json.parseShaped? (.list (.record ["path", "url"])) text with
  | some value => Decoder.list LibraryEntry.decode value
  | none => .error .mismatch

/-- The settings of an engine: a section on fetching and one on the standard library. -/
def Config.decode : Decoder Config :=
  .record2 Config.mk
    (.defaulted "fetch" (.record1 id (.defaulted "timeout_ms" .word64 Config.standard.timeoutMs))
      Config.standard.timeoutMs)
    (.defaulted "stdlib" (.record1 id (.defaulted "extension" .string Config.standard.extension))
      Config.standard.extension)

end DiagramAssist
