import DiagramAssist.Text.Measure

/-! # White space

The characters with the Unicode property `White_Space`, and trimming by it. Inside a directive only
spaces and tabs separate words; the wider class is used where a whole text is trimmed.
-/

namespace DiagramAssist.Text

/-- Membership in the Unicode property `White_Space`. -/
def isBlank (c : Char) : Bool :=
  let code := c.toNat
  (0x09 ≤ code && code ≤ 0x0D) || code == 0x20 || code == 0x85 || code == 0xA0 || code == 0x1680 ||
    (0x2000 ≤ code && code ≤ 0x200A) || code == 0x2028 || code == 0x2029 || code == 0x202F ||
    code == 0x205F || code == 0x3000

/-- The ASCII white space that base64 text may be laid out with: no vertical tab. -/
def isAsciiBlank (c : Char) : Bool :=
  c == ' ' || c == '\t' || c == '\n' || c == '\r' || c == '\x0c'

/-- A space or a tab, the only separators inside a line. -/
def isSpace (c : Char) : Bool :=
  c == ' ' || c == '\t'

/-- Drops leading white space. -/
def trimStart (text : List Char) : List Char :=
  text.dropWhile isBlank

/-- Drops trailing white space. -/
def trimEnd (text : List Char) : List Char :=
  (text.reverse.dropWhile isBlank).reverse

/-- Drops white space on both sides. -/
def trim (text : List Char) : List Char :=
  trimEnd (trimStart text)

end DiagramAssist.Text
