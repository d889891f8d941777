/-! # Blanks and strings of JSON

What separates the parts of a JSON text, and how strings are written. A string has no bare control
characters and no lone surrogates.
-/

namespace DiagramAssist.Json.Text

/-- JSON's own white space. -/
def isBlank (c : Char) : Bool :=
  c == ' ' || c == '\n' || c == '\t' || c == '\r'

/-- Drops leading blanks. -/
def skip (text : List Char) : List Char :=
  text.dropWhile isBlank

def hexDigit? (c : Char) : Option Nat :=
  if '0' ≤ c && c ≤ '9' then some (c.toNat - '0'.toNat)
  else if 'a' ≤ c && c ≤ 'f' then some (c.toNat - 'a'.toNat + 10)
  else if 'A' ≤ c && c ≤ 'F' then some (c.toNat - 'A'.toNat + 10)
  else none

/-- The code unit written by four hexadecimal digits. -/
def codeUnit? (a b c d : Char) : Option Nat := do
  return (((← hexDigit? a) * 16 + (← hexDigit? b)) * 16 + (← hexDigit? c)) * 16 + (← hexDigit? d)

/-- The character of a short escape. -/
def shortEscape? : Char → Option Char
  | '"' => some '"'
  | '\\' => some '\\'
  | '/' => some '/'
  | 'b' => some '\x08'
  | 'f' => some '\x0c'
  | 'n' => some '\n'
  | 'r' => some '\r'
  | 't' => some '\t'
  | _ => none

/-- Puts a character before a string that has been read. -/
def push (c : Char) : Option (List Char × List Char) → Option (List Char × List Char) :=
  Option.map fun (taken, rest) => (c :: taken, rest)

/-- The character of a pair of surrogates. -/
def joinSurrogates (high low : Nat) : Char :=
  Char.ofNat (0x10000 + (high - 0xD800) * 0x400 + (low - 0xDC00))

/-- The rest of a string behind its opening quote, and what follows the closing one. `pending` is a
leading surrogate that waits for its partner. -/
def stringRest : (pending : Option Nat) → List Char → Option (List Char × List Char)
  | _, [] => none
  | pending, '\\' :: 'u' :: a :: b :: c :: d :: rest =>
    match codeUnit? a b c d, pending with
    | none, _ => none
    | some unit, none =>
      if 0xD800 ≤ unit && unit ≤ 0xDBFF then stringRest (some unit) rest
      else if 0xDC00 ≤ unit && unit ≤ 0xDFFF then none
      else push (Char.ofNat unit) (stringRest none rest)
    | some unit, some high =>
      if 0xDC00 ≤ unit && unit ≤ 0xDFFF then
        push (joinSurrogates high unit) (stringRest none rest)
      else none
  | some _, _ => none
  | none, '"' :: rest => some ([], rest)
  | none, '\\' :: c :: rest =>
    match shortEscape? c with
    | none => none
    | some character => push character (stringRest none rest)
  | none, c :: rest => if c.toNat < 0x20 then none else push c (stringRest none rest)

/-- Passes over the rest of a string behind its opening quote. Surrogates are not looked at. -/
def passString : List Char → Option (List Char)
  | [] => none
  | '\\' :: 'u' :: a :: b :: c :: d :: rest =>
    if (codeUnit? a b c d).isSome then passString rest else none
  | '"' :: rest => some rest
  | '\\' :: c :: rest => if (shortEscape? c).isSome then passString rest else none
  | c :: rest => if c.toNat < 0x20 then none else passString rest

end DiagramAssist.Json.Text
