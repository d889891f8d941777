import DiagramAssist.Text.Assigned
import DiagramAssist.Text.Blank
import DiagramAssist.Text.Mark

/-! # Quoted text

Text between double quotes, for a reader who wants to see every character: quotes and backslashes
are escaped, and a character that has no look of its own is given by its number.
-/

namespace DiagramAssist.Text

/-- Whether a character has no look of its own: it is a control or a separator, means nothing, or
changes the character before it. -/
def isInvisible (c : Char) : Bool :=
  isControl c || !isAssigned c || (isBlank c && c != ' ') || isAttached c

/-- A character by its number, in hexadecimal digits. -/
def escapeNumber (c : Char) : List Char :=
  ['\\', 'u', '\x7b'] ++ Nat.toDigits 16 c.toNat ++ ['\x7d']

def quoteChar (c : Char) : List Char :=
  if c = '"' then ['\\', '"']
  else if c = '\\' then ['\\', '\\']
  else if c = '\t' then ['\\', 't']
  else if c = '\n' then ['\\', 'n']
  else if c = '\r' then ['\\', 'r']
  else if c = '\x00' then ['\\', '0']
  else if isInvisible c then escapeNumber c
  else [c]

/-- The text between quotes. -/
def quote (text : String) : String :=
  String.ofList ('"' :: text.toList.flatMap quoteChar ++ ['"'])

end DiagramAssist.Text
