import DiagramAssist.Diagnostic

/-! # Reading a line

A reader takes a value off the rest of a line. When it fails it says where it stopped and leaves
clues about what it wanted. An ordinary failure lets another alternative be tried; a committed one
ends the reading of the whole document. Alternatives start where the first one started, but the
place of a failure is where the last of them stopped, so a failure carries its own cursor.
-/

namespace DiagramAssist

/-- A place in a line: how many bytes have been read, and what is left. -/
structure Cursor where
  column : Nat
  rest : List Char
deriving DecidableEq, Inhabited

def Cursor.advance (cursor : Cursor) (taken rest : List Char) : Cursor :=
  ⟨cursor.column + Text.byteLength taken, rest⟩

/-- What a failed reader says about itself. -/
inductive Clue where
  | expected (what : String)
  | fault (fault : Fault)
  | help (text : String)
  /-- The column at which the failed construct starts. -/
  | start (column : Nat)
deriving DecidableEq, Inhabited

/-- How a reader failed. The innermost clue comes first. -/
structure Failure where
  committed : Bool
  clues : List Clue
  stopped : Cursor
deriving DecidableEq, Inhabited

inductive Outcome (α : Type) where
  | read (value : α) (next : Cursor)
  | failed (failure : Failure)
deriving DecidableEq

def Reader (α : Type) : Type :=
  Cursor → Outcome α

namespace Reader

variable {α β : Type}

instance : Inhabited (Reader α) := ⟨fun cursor => .failed ⟨false, [], cursor⟩⟩

instance : Monad Reader where
  pure value := fun cursor => .read value cursor
  bind reader next := fun cursor =>
    match reader cursor with
    | .read value after => next value after
    | .failed failure => .failed failure

@[simp] theorem pure_apply (value : α) (cursor : Cursor) :
    (pure value : Reader α) cursor = .read value cursor := rfl

theorem bind_apply (reader : Reader α) (next : α → Reader β) (cursor : Cursor) :
    (reader >>= next) cursor =
      match reader cursor with
      | .read value after => next value after
      | .failed failure => .failed failure := rfl

theorem bind_of_read {reader : Reader α} {next : α → Reader β} {cursor after : Cursor} {value : α}
    (h : reader cursor = .read value after) : (reader >>= next) cursor = next value after := by
  rw [bind_apply, h]

/-- Fails where it stands, without a clue. -/
def reject : Reader α :=
  fun cursor => .failed ⟨false, [], cursor⟩

def column : Reader Nat :=
  fun cursor => .read cursor.column cursor

def remaining : Reader (List Char) :=
  fun cursor => .read cursor.rest cursor

/-- Takes the longest run of characters of a class, which may be empty. -/
def takeWhile (accepts : Char → Bool) : Reader (List Char) :=
  fun cursor =>
    let taken := cursor.rest.takeWhile accepts
    .read taken (cursor.advance taken (cursor.rest.dropWhile accepts))

/-- Takes the longest run of characters of a class, which must not be empty. -/
def takeWhile1 (accepts : Char → Bool) : Reader (List Char) :=
  fun cursor =>
    let taken := cursor.rest.takeWhile accepts
    if taken.isEmpty then .failed ⟨false, [], cursor⟩
    else .read taken (cursor.advance taken (cursor.rest.dropWhile accepts))

/-- Takes one character of a class. -/
def one (accepts : Char → Bool) : Reader Char :=
  fun cursor =>
    match cursor.rest with
    | c :: rest =>
      if accepts c then .read c (cursor.advance [c] rest) else .failed ⟨false, [], cursor⟩
    | [] => .failed ⟨false, [], cursor⟩

def literal (text : String) : Reader Unit :=
  fun cursor =>
    if text.toList.isPrefixOf cursor.rest then
      .read () (cursor.advance text.toList (cursor.rest.drop text.toList.length))
    else .failed ⟨false, [], cursor⟩

def char (c : Char) : Reader Unit := do
  let _ ← one (· == c)

/-- Succeeds, without moving, when no character of the class follows. -/
def notFollowedBy (rejects : Char → Bool) : Reader Unit :=
  fun cursor =>
    match cursor.rest with
    | c :: _ => if rejects c then .failed ⟨false, [], cursor⟩ else .read () cursor
    | [] => .read () cursor

def withClue (clue : Clue) (reader : Reader α) : Reader α :=
  fun cursor =>
    match reader cursor with
    | .failed failure => .failed { failure with clues := failure.clues ++ [clue] }
    | outcome => outcome

/-- Says what the reader stands for. -/
def expecting (what : String) (reader : Reader α) : Reader α :=
  withClue (.expected what) reader

/-- A failure of the reader ends the reading of the document. -/
def commit (reader : Reader α) : Reader α :=
  fun cursor =>
    match reader cursor with
    | .failed failure => .failed { failure with committed := true }
    | outcome => outcome

/-- A failure of the reader, even a committed one, lets the next alternative be tried. -/
def relent (reader : Reader α) : Reader α :=
  fun cursor =>
    match reader cursor with
    | .failed failure => .failed { failure with committed := false }
    | outcome => outcome

/-- The rest of a directive that has been recognised at the column `start`: failing commits, and the
failure is charged to the directive. -/
def directiveRest (start : Nat) (fault : Fault) (reader : Reader α) : Reader α :=
  withClue (.start start) (withClue (.fault fault) (commit reader))

/-- The first reader, or the second one from the same place when the first fails uncommitted. -/
def orElse (first second : Reader α) : Reader α :=
  fun cursor =>
    match first cursor with
    | .failed failure => if failure.committed then .failed failure else second cursor
    | outcome => outcome

/-- The first alternative that does not fail uncommitted. -/
def choose : List (Reader α) → Reader α
  | [] => reject
  | [reader] => reader
  | reader :: rest => orElse reader (choose rest)

/-- The value if the reader succeeds; an uncommitted failure gives nothing and does not move. -/
def optional (reader : Reader α) : Reader (Option α) :=
  fun cursor =>
    match reader cursor with
    | .read value next => .read (some value) next
    | .failed failure => if failure.committed then .failed failure else .read none cursor

/-- Further elements, each behind a separator, at most `bound` of them. -/
def moreSeparated (separator : Reader Unit) (item : Reader α) : (bound : Nat) → Reader (List α)
  | 0 => pure []
  | bound + 1 => do
    match ← optional (do separator; item) with
    | none => return []
    | some value => return value :: (← moreSeparated separator item bound)

/-- Elements with separators between them, possibly none. Every separator takes a character, so the
number of characters left bounds their number. -/
def separated (separator : Reader Unit) (item : Reader α) : Reader (List α) := do
  match ← optional item with
  | none => return []
  | some value => return value :: (← moreSeparated separator item (← remaining).length)

end Reader

end DiagramAssist
