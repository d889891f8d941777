import DiagramAssist.Json.Lexical
import DiagramAssist.Json.Numeral

/-! # Passing over JSON values

A value that nobody wants is passed over. It has to be written correctly, but it is never built, so
neither the size of its numbers nor its surrogates nor its depth matter.
-/

namespace DiagramAssist.Json.Text

/-- What a value can stand in. -/
inductive Container where
  | array
  | object
deriving DecidableEq, Inhabited

/-- Passes over the name of a member and the colon. -/
def passName (text : List Char) : Option (List Char) :=
  match skip text with
  | '"' :: rest =>
    match (passString rest).map skip with
    | some (':' :: rest) => some rest
    | _ => none
  | _ => none

/-- Passes over a value that holds no other values. -/
def passScalar : List Char → Option (List Char)
  | 'n' :: 'u' :: 'l' :: 'l' :: rest => some rest
  | 't' :: 'r' :: 'u' :: 'e' :: rest => some rest
  | 'f' :: 'a' :: 'l' :: 's' :: 'e' :: rest => some rest
  | '"' :: rest => passString rest
  | text => (Numeral.read? text).map (·.2)

/-- Passes over the rest of the containers `opened`, the innermost first, in at most `bound` steps.
A value comes next, unless one has just `ended`. -/
def passRest : (bound : Nat) → (ended : Bool) → (opened : List Container) → List Char →
    Option (List Char)
  | _, true, [], text => some text
  | 0, _, _, _ => none
  | bound + 1, true, inner :: outer, text =>
    match inner, skip text with
    | .array, ',' :: rest => passRest bound false (inner :: outer) rest
    | .array, ']' :: rest => passRest bound true outer rest
    | .object, ',' :: rest =>
      match passName rest with
      | some rest => passRest bound false (inner :: outer) rest
      | none => none
    | .object, '}' :: rest => passRest bound true outer rest
    | _, _ => none
  | bound + 1, false, opened, text =>
    match skip text with
    | '[' :: rest =>
      match skip rest with
      | ']' :: rest => passRest bound true opened rest
      | rest => passRest bound false (.array :: opened) rest
    | '{' :: rest =>
      match skip rest with
      | '}' :: rest => passRest bound true opened rest
      | rest =>
        match passName rest with
        | some rest => passRest bound false (.object :: opened) rest
        | none => none
    | text =>
      match passScalar text with
      | some rest => passRest bound true opened rest
      | none => none

/-- Passes over a value. Every step takes a character, so the length of the text bounds them. -/
def pass (text : List Char) : Option (List Char) :=
  passRest (text.length + 1) false [] text

end DiagramAssist.Json.Text
