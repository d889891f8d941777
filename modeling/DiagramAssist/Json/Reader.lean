import DiagramAssist.Json.Pass

/-! # Reading JSON text

A strict reader: no trailing commas, no leading zeros, no bare control characters, no lone
surrogates, and nothing but blanks behind the value. Arrays and objects may be nested 127 levels
deep. A reader that wants only some members of an object says so by a shape; the other members are
passed over.
-/

namespace DiagramAssist.Json

/-- Which parts of a value are wanted. -/
inductive Shape where
  /-- The whole value. -/
  | whole
  /-- The members of an object that have one of the names. -/
  | record (fields : List String)
  /-- The wanted parts of the elements of an array. -/
  | list (element : Shape)
deriving Inhabited

end DiagramAssist.Json

namespace DiagramAssist.Json.Text

/-- The elements of a nonempty array behind its bracket, at most `bound` of them. -/
def elements (value : List Char → Option (Json × List Char)) :
    (bound : Nat) → List Char → Option (List Json × List Char)
  | 0, _ => none
  | bound + 1, text => do
    let (first, rest) ← value text
    match skip rest with
    | ',' :: rest =>
      let (later, rest) ← elements value bound (skip rest)
      return (first :: later, rest)
    | ']' :: rest => return ([first], rest)
    | _ => none

/-- The members of a nonempty object behind its brace, at most `bound` of them. How a value is read
depends on the name; a value that is not wanted is left out. -/
def members (value : String → List Char → Option (Option Json × List Char)) :
    (bound : Nat) → List Char → Option (List (String × Json) × List Char)
  | 0, _ => none
  | bound + 1, text => do
    let '"' :: rest := text | none
    let (name, rest) ← stringRest none rest
    let ':' :: rest := skip rest | none
    let name := String.ofList name
    let (first, rest) ← value name (skip rest)
    let found := first.toList.map fun first => (name, first)
    match skip rest with
    | ',' :: rest =>
      let (later, rest) ← members value bound (skip rest)
      return (found ++ later, rest)
    | '}' :: rest => return (found, rest)
    | _ => none

/-- A number at the start of a text. -/
def number (text : List Char) : Option (Json × List Char) := do
  let (numeral, rest) ← Numeral.read? text
  return (← numeral.value?, rest)

/-- A value that starts the text and is nested less than `depth` levels deep. -/
def value : (depth : Nat) → List Char → Option (Json × List Char)
  | _, [] => none
  | _, 'n' :: 'u' :: 'l' :: 'l' :: rest => some (.null, rest)
  | _, 't' :: 'r' :: 'u' :: 'e' :: rest => some (.bool true, rest)
  | _, 'f' :: 'a' :: 'l' :: 's' :: 'e' :: rest => some (.bool false, rest)
  | _, '"' :: rest =>
    (stringRest none rest).map fun (taken, rest) => (.string (String.ofList taken), rest)
  | 0, text => number text
  | depth + 1, '[' :: rest =>
    match skip rest with
    | ']' :: rest => some (.array [], rest)
    | rest =>
      (elements (value depth) rest.length rest).map fun (found, rest) => (.array found, rest)
  | depth + 1, '{' :: rest =>
    match skip rest with
    | '}' :: rest => some (.object [], rest)
    | rest =>
      let kept := fun _ text => (value depth text).map fun (found, rest) => (some found, rest)
      (members kept rest.length rest).map fun (found, rest) => (.object found, rest)
  | _, text => number text

/-- A value of which only what the shape names is wanted. -/
def shaped : Shape → (depth : Nat) → List Char → Option (Json × List Char)
  | .record fields, depth + 1, '{' :: rest =>
    match skip rest with
    | '}' :: rest => some (.object [], rest)
    | rest =>
      let kept := fun name text =>
        if fields.contains name then (value depth text).map fun (found, rest) => (some found, rest)
        else (pass text).map fun rest => (none, rest)
      (members kept rest.length rest).map fun (found, rest) => (.object found, rest)
  | .list element, depth + 1, '[' :: rest =>
    match skip rest with
    | ']' :: rest => some (.array [], rest)
    | rest =>
      (elements (shaped element depth) rest.length rest).map fun (found, rest) =>
        (.array found, rest)
  | _, depth, text => value depth text

end DiagramAssist.Json.Text

namespace DiagramAssist.Json

/-- How deep arrays and objects may be nested. -/
def maxDepth : Nat := 127

/-- Reads what is wanted of a JSON text. -/
def parseShaped? (shape : Shape) (text : String) : Option Json := do
  let (value, rest) ← Text.shaped shape maxDepth (Text.skip text.toList)
  if (Text.skip rest).isEmpty then some value else none

def parse? (text : String) : Option Json :=
  parseShaped? .whole text

end DiagramAssist.Json
