import DiagramAssist.Address.Domain.Direction
import DiagramAssist.Address.Domain.Image
import DiagramAssist.Address.Domain.Joiner
import DiagramAssist.Address.Punycode

/-! # Domain names

A domain name is a list of labels. Names that differ only in case, width, font or composition are
the same, and a name is written in ASCII, where a label that holds other characters has an encoded
form. A label in encoded form must mean a label that could have been written out, and must be the
encoded form of that.
-/

namespace DiagramAssist.Address.Domain

/-- The normal form of a text: its characters have been replaced by their images. -/
def normalize? (text : Chars) : Option Chars := do
  return compose (← text.mapM image?).flatten

/-- What the encoded form of a label starts with. -/
def encodedMark : Chars := "xn--".toList

/-- The longest encoded label that is decoded, in characters. -/
def maxEncoded : Nat := 2000

/-- The longest label that is encoded, in characters. -/
def maxLabel : Nat := 1000

/-- The label that an encoded form means. -/
def decode? (body : Chars) : Option Chars := do
  if body.isEmpty || body.getLast? == some '-' || maxEncoded < body.length then none
  let label ← Punycode.decode? body
  if normalize? label == some label && !label.contains '.' then return label else none

/-- A label that may be encoded, as it is written out. -/
def written? (label : Chars) : Option Chars :=
  if encodedMark.isPrefixOf label then decode? (label.drop encodedMark.length) else some label

/-- Whether a label that is written out keeps the rules: it starts with no mark, its joiners stand
where they may, and it is not too long to be encoded. -/
def isProper (label : Chars) : Bool :=
  !label.head?.any Text.isMark && hasFittingJoiners [] label &&
    (label.all (·.toNat < 128) || label.length ≤ maxLabel)

/-- The domain name that a text means, in ASCII; `isForbidden` are the characters that would change
the meaning of the address. -/
def ascii? (isForbidden : Char → Bool) (text : Chars) : Option Chars := do
  let labels := pieces (· == '.') (← normalize? text)
  let written ← labels.mapM written?
  if written.all isProper && isSafeDirection written && !written.any (·.any isForbidden) then
    return ['.'].intercalate (labels.map Punycode.ascii)
  else none

end DiagramAssist.Address.Domain
