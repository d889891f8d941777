import DiagramAssist.Text.Measure

/-! # Source lines

A document is read line by line. A line is kept apart from its ending, and a carriage return
directly before a line feed, or at the very end of the text, belongs to the ending. Splitting loses
nothing: the lines, put one after the other with their endings, are the text again.
-/

namespace DiagramAssist

inductive Ending where
  | lineFeed
  | returnLineFeed
  /-- A carriage return after which the text ends. It does not complete a directive. -/
  | strayReturn
  /-- The text ends with the line. -/
  | endOfText
deriving DecidableEq, Inhabited

namespace Ending

def chars : Ending → List Char
  | .lineFeed => ['\n']
  | .returnLineFeed => ['\r', '\n']
  | .strayReturn => ['\r']
  | .endOfText => []

/-- Whether a directive may end here. -/
def completes (ending : Ending) : Bool :=
  ending != .strayReturn

end Ending

/-- A line of a document: the offset of its first byte, its text and its ending. -/
structure Line where
  start : Nat
  content : List Char
  ending : Ending
deriving DecidableEq, Inhabited

namespace Line

/-- The line with its ending. -/
def chars (line : Line) : List Char :=
  line.content ++ line.ending.chars

/-- The offset behind the text of the line. -/
def contentStop (line : Line) : Nat :=
  line.start + Text.byteLength line.content

/-- The offset behind the ending, where the next line starts. -/
def stop (line : Line) : Nat :=
  line.contentStop + Text.byteLength line.ending.chars

/-- Parts a text at its line feeds; the flag of a part says that a line feed follows it. Behind a
line feed at the very end there is no further part. -/
def rawLines : List Char → List (List Char × Bool)
  | [] => []
  | '\n' :: rest => ([], true) :: rawLines rest
  | c :: rest =>
    match rawLines rest with
    | [] => [([c], false)]
    | (line, fed) :: later => (c :: line, fed) :: later

/-- Gives a raw line its place, and its carriage return to the ending. -/
def ofRaw (start : Nat) (raw : List Char) (fed : Bool) : Line :=
  let content := Text.dropFinalReturn raw
  let returned := decide (content.length < raw.length)
  { start, content,
    ending := match fed, returned with
      | true, false => .lineFeed
      | true, true => .returnLineFeed
      | false, true => .strayReturn
      | false, false => .endOfText }

/-- Places raw lines one after the other. -/
def placeAll : (start : Nat) → List (List Char × Bool) → List Line
  | _, [] => []
  | start, (raw, fed) :: rest =>
    let line := ofRaw start raw fed
    line :: placeAll line.stop rest

def split (text : List Char) : List Line :=
  placeAll 0 (rawLines text)

end Line

end DiagramAssist
