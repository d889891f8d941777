import DiagramAssist.Grammar.Header
import DiagramAssist.Line

/-! # Blocks

Lines are assembled into statements from the first to the last. The state is the list of statements
finished at the top level and a stack of open blocks; a line closes the innermost block, starts a
new arm of it, opens a further block or is a statement of it. Only the innermost block looks for a
closing directive, so blocks close at their own first one, and a document ends well exactly when no
block is left open.
-/

namespace DiagramAssist.Grammar

def Header.shift (distance : Nat) : Header → Header
  | .callable kind unquoted name parameters =>
    .callable kind unquoted (name.shift distance) (parameters.map (·.shift distance))
  | .branch kind condition => .branch kind (condition.shift distance)
  | .loop condition => .loop (condition.shift distance)
  | .defineLong name parameters =>
    .defineLong (name.shift distance) (parameters.map (·.map (·.shift distance)))

def Reading.shift (distance : Nat) : Reading → Reading
  | .whole statement => .whole (statement.shift distance)
  | .opens start header => .opens (start + distance) (header.shift distance)

/-- Which construct an open block is, with what has been settled of it. -/
inductive OpenBlock where
  | callable (kind : BlockCallable) (unquoted : Bool) (name : Located String)
      (parameters : List Parameter)
  | loop (condition : Expression)
  | consequent (kind : ConditionKind) (condition : Expression)
  /-- A clause that starts at `clauseStart`, behind the consequent and earlier clauses. -/
  | elseIf (kind : ConditionKind) (condition : Expression) (consequent : List Statement)
      (clauses : List ElseIf) (clauseStart : Nat) (clauseCondition : Expression)
  | alternate (kind : ConditionKind) (condition : Expression) (consequent : List Statement)
      (clauses : List ElseIf)
  /-- A block of raw lines, the last one first. -/
  | raw (name : Located String) (parameters : Option (List Parameter)) (bodyStart : Nat)
      (lines : List Line)

/-- An open block: the offset of its directive, what it is, and its statements so far, the last one
first. -/
structure Frame where
  start : Nat
  block : OpenBlock
  body : List Statement

/-- How far a document has been read: the finished statements of the top level, the last one first,
and the open blocks, the innermost first. -/
structure Progress where
  finished : List Statement
  stack : List Frame

/-- Nothing read yet. -/
def Progress.initial : Progress :=
  ⟨[], []⟩

/-- Adds a statement to the innermost block, or to the top level. -/
def Progress.add (statement : Statement) : Progress → Progress
  | ⟨finished, []⟩ => ⟨statement :: finished, []⟩
  | ⟨finished, frame :: outer⟩ =>
    ⟨finished, { frame with body := statement :: frame.body } :: outer⟩

/-- The text of raw lines, the last one first, without the ending of the last one. -/
def rawText : List Line → List Char
  | [] => []
  | last :: earlier => (earlier.reverse.flatMap Line.chars) ++ last.content

/-- The offset behind raw lines that start at `bodyStart`. -/
def rawStop (bodyStart : Nat) : List Line → Nat
  | [] => bodyStart
  | last :: _ => last.contentStop

def openFrame (line : Line) (start : Nat) (header : Header) : Frame :=
  { start, body := [],
    block := match header with
      | .callable kind unquoted name parameters => .callable kind unquoted name parameters
      | .branch kind condition => .consequent kind condition
      | .loop condition => .loop condition
      | .defineLong name parameters => .raw name parameters line.stop [] }

/-- The word that closes a callable. -/
def closer : BlockCallable → String
  | .function => "endfunction"
  | .procedure => "endprocedure"

/-- The directive that a block still waits for at the end of the document. -/
def OpenBlock.awaited : OpenBlock → String
  | .callable .function .. => "`!endfunction`"
  | .callable .procedure .. => "`!endprocedure`"
  | .loop _ => "`!endwhile`"
  | .consequent .. => "`!endif`"
  | .elseIf .. => "`!endif`"
  | .alternate .. => "`!endif`"
  | .raw .. => "`!enddefinelong`"

/-- What a closing word does to a block. -/
inductive Turn where
  /-- The block is this statement. -/
  | closes (statement : Statement)
  /-- The block goes on with a new arm, which is this. -/
  | continues (block : OpenBlock)
  /-- A clause with a condition starts; `settle` takes the condition. -/
  | asks (settle : Expression → OpenBlock)

/-- What a word at the span `word.span` does to a frame, if it is one of its closing words. -/
def Frame.turn? (frame : Frame) (word : Located String) : Option Turn :=
  let body := frame.body.reverse
  let span := Span.between frame.start word.span.stop
  match frame.block with
  | .callable kind unquoted name parameters =>
    if word.value = closer kind then
      some (.closes (.callable kind unquoted name parameters body span))
    else none
  | .loop condition =>
    if word.value = "endwhile" then some (.closes (.loop condition body span)) else none
  | .consequent kind condition =>
    if word.value = "elseif" then
      some (.asks (.elseIf kind condition body [] word.span.start))
    else if word.value = "else" then some (.continues (.alternate kind condition body []))
    else if word.value = "endif" then
      some (.closes (.branch kind condition body [] none span))
    else none
  | .elseIf kind condition consequent clauses clauseStart clauseCondition =>
    let clauses := clauses ++
      [.mk clauseCondition body (.between clauseStart word.span.start)]
    if word.value = "elseif" then
      some (.asks (.elseIf kind condition consequent clauses word.span.start))
    else if word.value = "else" then
      some (.continues (.alternate kind condition consequent clauses))
    else if word.value = "endif" then
      some (.closes (.branch kind condition consequent clauses none span))
    else none
  | .alternate kind condition consequent clauses =>
    if word.value = "endif" then
      some (.closes (.branch kind condition consequent clauses (some body) span))
    else none
  | .raw .. => none

/-- The first value that a clue gives. -/
def firstClue {α : Type} (clues : List Clue) (pick : Clue → Option α) : Option α :=
  clues.findSome? pick

/-- The report of a failure. The fault is the one charged first; running out of text in the middle
of a directive is reported as such. All offsets are those of the failure's cursor. -/
def report (failure : Failure) (atEnd : Bool) : Diagnostic :=
  let charged := (firstClue failure.clues fun
    | .fault fault => some fault
    | _ => none).getD .unexpectedToken
  let fault := if charged = .unexpectedToken && atEnd then .incompleteInput else charged
  let start := firstClue failure.clues fun
    | .start column => some column
    | _ => none
  let help := (firstClue failure.clues fun
    | .help text => some text
    | _ => none).getD fault.advice
  let expected := failure.clues.filterMap fun
    | .expected what => some ("expected " ++ what)
    | _ => none
  let position := failure.stopped.column
  let width := match failure.stopped.rest with
    | c :: _ => if c = '\n' || c = '\r' then 0 else c.utf8Size
    | [] => 0
  let primary : Label := ⟨true, .between position (position + width), fault.description⟩
  let secondary : List Label := match start with
    | some start =>
      if start < position then [⟨false, .between start position, "while parsing this"⟩] else []
    | none => []
  { fault := some fault
    message :=
      if expected.isEmpty then fault.description
      else fault.description ++ ": " ++ " → ".intercalate expected
    labels := primary :: secondary
    help := some help }

def reportOn (line : Line) (failure : Failure) : Diagnostic :=
  (report failure (failure.stopped.rest.isEmpty && line.ending == .endOfText)).shift line.start

/-- Reads a line that is no closing directive of the innermost block. -/
def Progress.readLine (progress : Progress) (line : Line) : Except Diagnostic Progress :=
  match reading line.ending.completes ⟨0, line.content⟩ with
  | .failed failure => .error (reportOn line failure)
  | .read found _ =>
    match found.shift line.start with
    | .whole statement => .ok (progress.add statement)
    | .opens start header =>
      .ok { progress with stack := openFrame line start header :: progress.stack }

/-- The next line of a raw block. -/
def readRaw (finished : List Statement) (frame : Frame) (outer : List Frame)
    (name : Located String) (parameters : Option (List Parameter)) (bodyStart : Nat)
    (lines : List Line) (line : Line) : Progress :=
  if closesRaw line.content then
    let body := ⟨String.ofList (rawText lines), .between bodyStart (rawStop bodyStart lines)⟩
    Progress.add (.defineLong name parameters body (.between frame.start line.contentStop))
      ⟨finished, outer⟩
  else ⟨finished, { frame with block := .raw name parameters bodyStart (line :: lines) } :: outer⟩

/-- The closing word at the start of a line, with the cursor behind it; its span is that in the
document. -/
def closingWord? (line : Line) : Option (Located String × Cursor) :=
  match closingWord ⟨0, line.content⟩ with
  | .read word next => some (word.shift line.start, next)
  | .failed _ => none

/-- Does what a closing word says. The condition of a further clause stands behind the word. -/
def Turn.apply (turn : Turn) (finished : List Statement) (frame : Frame) (outer : List Frame)
    (line : Line) (word : Located String) (behind : Cursor) : Except Diagnostic Progress :=
  match turn with
  | .closes statement => .ok (Progress.add statement ⟨finished, outer⟩)
  | .continues block => .ok ⟨finished, { frame with block, body := [] } :: outer⟩
  | .asks settle =>
    match Reader.directiveRest (word.span.start - line.start) .unexpectedToken
        (conditionRest .holds line.ending.completes) behind with
    | .failed failure => .error (reportOn line failure)
    | .read condition _ =>
      .ok ⟨finished,
        { frame with block := settle (condition.shift line.start), body := [] } :: outer⟩

def Progress.step (progress : Progress) (line : Line) : Except Diagnostic Progress :=
  match progress with
  | ⟨_, []⟩ => progress.readLine line
  | ⟨finished, frame :: outer⟩ =>
    match frame.block with
    | .raw name parameters bodyStart lines =>
      .ok (readRaw finished frame outer name parameters bodyStart lines line)
    | _ =>
      match closingWord? line with
      | none => progress.readLine line
      | some (word, behind) =>
        match frame.turn? word with
        | none => progress.readLine line
        | some turn => turn.apply finished frame outer line word behind

/-- The report of a block that is still open where the document ends. -/
def unterminated (frame : Frame) (stop : Nat) : Diagnostic :=
  report
    { committed := true
      clues := [.expected frame.block.awaited, .fault .unterminatedBlock, .start frame.start]
      stopped := ⟨stop, []⟩ }
    true

/-- The statements of a document of the given length that has been read to its end. -/
def Progress.finish (progress : Progress) (stop : Nat) : Except Diagnostic (List Statement) :=
  match progress.stack with
  | [] => .ok progress.finished.reverse
  | frame :: _ => .error (unterminated frame stop)

def statements (text : List Char) : Except Diagnostic (List Statement) := do
  let progress ← (Line.split text).foldlM Progress.step Progress.initial
  progress.finish (Text.byteLength text)

end DiagramAssist.Grammar
