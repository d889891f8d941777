/-! # Ranges of code points

A class of characters is given by the ranges of their code points, written as in the tables of the
Unicode standard: hexadecimal numbers, with two dots between the ends of a range and white space
between ranges.
-/

namespace DiagramAssist.Text

/-- The code points from the first to the last, both included. -/
structure CodeRange where
  first : Nat
  last : Nat
deriving DecidableEq, Inhabited

namespace CodeRange

def contains (range : CodeRange) (c : Char) : Bool :=
  range.first ≤ c.toNat && c.toNat ≤ range.last

/-- The value of an upper-case hexadecimal digit. -/
def digitValue (c : Char) : Nat :=
  if c.isDigit then c.toNat - '0'.toNat else c.toNat - 'A'.toNat + 10

/-- The number that hexadecimal digits mean. -/
def number (digits : List Char) : Nat :=
  digits.foldl (fun value c => 16 * value + digitValue c) 0

def words (text : List Char) : List (List Char) :=
  let (word, later) := text.foldr
    (fun c (word, later) => if c.isWhitespace then ([], word :: later) else (c :: word, later))
    ([], [])
  (word :: later).filter fun word => !word.isEmpty

/-- The range that a word means: one code point, or the two ends of a range. -/
def ofWord (word : List Char) : CodeRange :=
  let first := number (word.takeWhile (· != '.'))
  match word.dropWhile (· != '.') with
  | '.' :: '.' :: last => ⟨first, number last⟩
  | _ => ⟨first, first⟩

end CodeRange

abbrev CharClass : Type :=
  List CodeRange

namespace CharClass

def ofTable (table : String) : CharClass :=
  (CodeRange.words table.toList).map CodeRange.ofWord

def contains (ranges : CharClass) (c : Char) : Bool :=
  ranges.any (·.contains c)

end CharClass

end DiagramAssist.Text
