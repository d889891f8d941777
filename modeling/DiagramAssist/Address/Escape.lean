import DiagramAssist.Text.Utf8

/-! # Percent escapes

An address is written in ASCII. Characters outside ASCII, control characters and the characters of a
set that depends on the part of the address are replaced by the escapes of their UTF-8 bytes.
-/

namespace DiagramAssist.Address

/-- A text, character by character. -/
abbrev Chars : Type :=
  List Char

/-- Control characters and everything outside ASCII; escaped in every part. -/
def isControl (c : Char) : Bool :=
  c.toNat < 0x20 || 0x7F ≤ c.toNat

/-- What is escaped in a query. An address of a special scheme escapes the apostrophe too. -/
def escapedInQuery (special : Bool) (c : Char) : Bool :=
  isControl c || c == ' ' || c == '"' || c == '#' || c == '<' || c == '>' ||
    (special && c == '\'')

def escapedInFragment (c : Char) : Bool :=
  isControl c || c == ' ' || c == '"' || c == '<' || c == '>' || c == '`'

def escapedInPath (c : Char) : Bool :=
  escapedInFragment c || c == '#' || c == '?' || c == '\x7b' || c == '\x7d'

/-- What is escaped in a single segment, where separators and the escape sign are text. -/
def escapedInSegment (c : Char) : Bool :=
  escapedInPath c || c == '/' || c == '%' || c == '\\'

/-- What is escaped in a user name or password. -/
def escapedInUser (c : Char) : Bool :=
  escapedInPath c || c == '/' || c == ':' || c == ';' || c == '=' || c == '@' || c == '[' ||
    c == '\\' || c == ']' || c == '^' || c == '|'

/-- The upper-case hexadecimal digit of a number below sixteen. -/
def hexDigit (value : Nat) : Char :=
  "0123456789ABCDEF".toList.getD value '0'

def escapeByte (byte : UInt8) : Chars :=
  ['%', hexDigit (byte.toNat / 16), hexDigit (byte.toNat % 16)]

def escape (escaped : Char → Bool) (text : Chars) : Chars :=
  text.flatMap fun c => if escaped c then (String.utf8EncodeChar c).flatMap escapeByte else [c]

def hexValue? (c : Char) : Option Nat :=
  if '0' ≤ c && c ≤ '9' then some (c.toNat - '0'.toNat)
  else if 'a' ≤ c && c ≤ 'f' then some (c.toNat - 'a'.toNat + 10)
  else if 'A' ≤ c && c ≤ 'F' then some (c.toNat - 'A'.toNat + 10)
  else none

/-- The byte of the escape that a character and the text behind it make, if they make one. -/
def escapeValue? (c : Char) (rest : Chars) : Option UInt8 :=
  match c, rest with
  | '%', a :: b :: _ => do
    return UInt8.ofNat ((← hexValue? a) * 16 + (← hexValue? b))
  | _, _ => none

/-- The bytes of a text behind `skip` characters that have been dealt with. -/
def unescapeFrom : (skip : Nat) → Chars → List UInt8
  | _, [] => []
  | skip + 1, _ :: rest => unescapeFrom skip rest
  | 0, c :: rest =>
    match escapeValue? c rest with
    | some byte => byte :: unescapeFrom 2 rest
    | none => String.utf8EncodeChar c ++ unescapeFrom 0 rest

/-- The bytes of a text in which escapes stand for bytes; a `%` without two hexadecimal digits
stands for itself. -/
def unescape (text : Chars) : List UInt8 :=
  unescapeFrom 0 text

/-- The pieces of a text between separators; there is always one. -/
def pieces (separator : Char → Bool) : Chars → List Chars
  | [] => [[]]
  | c :: rest =>
    if separator c then [] :: pieces separator rest
    else
      match pieces separator rest with
      | [] => [[c]]
      | first :: later => (c :: first) :: later

end DiagramAssist.Address
