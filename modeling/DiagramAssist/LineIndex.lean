import DiagramAssist.Span

/-! # Lines and columns

The line index of a text turns byte offsets into editor positions and back. Lines and columns count
from zero, columns count UTF-16 code units, and a text that ends with a line feed has a last, empty
line.
-/

namespace DiagramAssist

/-- A line and a column in it. -/
structure Position where
  line : Nat
  character : Nat
deriving DecidableEq, Inhabited

namespace Position

/-- The position as people count, from one. -/
def render (position : Position) : String :=
  toString (position.line + 1) ++ ":" ++ toString (position.character + 1)

/-- The order of positions: by line, then by column. -/
def compare (left right : Position) : Ordering :=
  (Ord.compare left.line right.line).then (Ord.compare left.character right.character)

end Position

/-- The lines of a text, each with the offset of its first byte and without its line feed. -/
structure LineIndex where
  text : List Char
  rows : List (Nat × List Char)

namespace LineIndex

/-- Parts a text at its line feeds. There is always a first part. -/
def partRows : List Char → List Char × List (List Char)
  | [] => ([], [])
  | c :: rest =>
    let (first, later) := partRows rest
    if c = '\n' then ([], first :: later) else (c :: first, later)

/-- Places rows one after the other, a line feed between them. -/
def placeRows : (start : Nat) → List (List Char) → List (Nat × List Char)
  | _, [] => []
  | start, row :: rest => (start, row) :: placeRows (start + Text.byteLength row + 1) rest

def ofText (text : String) : LineIndex :=
  let (first, later) := partRows text.toList
  ⟨text.toList, placeRows 0 (first :: later)⟩

def lineCount (index : LineIndex) : Nat :=
  index.rows.length

/-- The text of a line without its ending. -/
def line? (index : LineIndex) (line : Nat) : Option (List Char) :=
  index.rows[line]?.map fun (_, row) => Text.dropFinalReturn row

/-- The last row that starts at or before an offset, with its number. -/
def rowAt (offset : Nat) : (number : Nat) → (row : Nat × List Char) →
    (later : List (Nat × List Char)) → Nat × Nat × List Char
  | number, row, [] => (number, row)
  | number, row, next :: later =>
    if next.1 ≤ offset then rowAt offset (number + 1) next later else (number, row)

/-- The position of an offset. An offset past the end is taken for the end, and one inside a
character for column zero of its line. -/
def position (index : LineIndex) (offset : Nat) : Position :=
  let offset := min offset (Text.byteLength index.text)
  match index.rows with
  | [] => ⟨0, 0⟩
  | first :: later =>
    let (number, start, row) := rowAt offset 0 first later
    match Text.splitBytes? row (offset - start) with
    | some (before, _) => ⟨number, Text.unitLength before⟩
    | none => ⟨number, 0⟩

/-- The byte distance to the first character that starts at or behind a column, or to the end. -/
def columnOffset : (column : Nat) → List Char → Nat
  | 0, _ => 0
  | _, [] => 0
  | column, c :: rest => c.utf8Size + columnOffset (column - Text.unitSize c) rest

/-- The offset of a position, if its line exists. A column past the end of the line is taken for the
end. -/
def offset? (index : LineIndex) (position : Position) : Option Nat := do
  let (start, row) ← index.rows[position.line]?
  return start + columnOffset position.character (Text.dropFinalReturn row)

end LineIndex

/-- The positions of both ends of a span. -/
def LineIndex.spanPositions (index : LineIndex) (span : Span) : Position × Position :=
  (index.position span.start, index.position span.stop)

end DiagramAssist
