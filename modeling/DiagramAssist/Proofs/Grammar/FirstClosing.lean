import DiagramAssist.Proofs.Grammar.PassThrough
import DiagramAssist.Proofs.Grammar.Reports
import Mathlib.Data.List.TakeWhile

/-! # Blocks close at their own first closing directive

While a block is open, a line that starts with one of its closing words does not become a statement
of the block: it ends the arm that is open. So no arm of a finished block holds an unknown directive
that starts with one of the words that end the arm, although a directive may have such a word where
it ends nothing. The invariant is one of arms (`Arm.IsClean`): a turn of a block settles the arm
that was open and starts an empty one (`Frame.settles_of_turn?`), and any other line is read as a
statement that does not start with a closing word.
-/

namespace DiagramAssist

open Grammar Text

/-! ## Arms -/

/-- A body of a block, with the words of the directives that end it. -/
structure Arm where
  words : List String
  body : List Statement

/-- The words that end an arm of a branch in front of the alternate. -/
def branchWords : List String :=
  ["elseif", "else", "endif"]

/-- The arms of a branch in front of the alternate. -/
def branchArms (consequent : List Statement) (clauses : List ElseIf) : List Arm :=
  ⟨branchWords, consequent⟩ :: clauses.map fun clause => ⟨branchWords, clause.body⟩

theorem branchArms_concat (consequent : List Statement) (clauses : List ElseIf)
    (condition : Expression) (body : List Statement) (span : Span) :
    branchArms consequent (clauses ++ [.mk condition body span]) =
      branchArms consequent clauses ++ [⟨branchWords, body⟩] := by
  rw [branchArms, branchArms, List.map_append, List.cons_append]
  rfl

/-- The arms of a block, each with the words that end it. -/
def Statement.arms : Statement → List Arm
  | .callable kind _ _ _ body _ => [⟨[closer kind], body⟩]
  | .loop _ body _ => [⟨["endwhile"], body⟩]
  | .branch _ _ consequent elseIfs alternate _ =>
    branchArms consequent elseIfs ++ (alternate.map fun body => ⟨["endif"], body⟩).toList
  | _ => []

theorem Statement.map_body_arms (statement : Statement) :
    statement.arms.map Arm.body = statement.bodies := by
  cases statement with
  | branch kind condition consequent elseIfs alternate span =>
    cases alternate <;> simp [arms, branchArms, bodies]
  | _ => rfl

theorem Statement.arms_of_not_isBlock {statement : Statement} (single : statement.isBlock = false) :
    statement.arms = [] := by
  cases statement with
  | callable | loop | branch | defineLong => cases single
  | _ => rfl

/-- The word that an unknown directive starts with: its first name characters. -/
def leadingWord (directive : Located String) : String :=
  String.ofList (directive.value.toList.takeWhile Reader.isNameChar)

/-- No unknown directive directly in the arm starts with a word that ends the arm. -/
def Arm.IsFree (arm : Arm) : Prop :=
  ∀ directive text span, .unknown directive text span ∈ arm.body →
    leadingWord directive ∉ arm.words

/-- The arm is free, and so are the arms of all blocks inside it, at any depth. -/
inductive Arm.IsClean : Arm → Prop where
  | intro {arm : Arm} (free : arm.IsFree)
      (inside : ∀ statement ∈ arm.body, ∀ inner ∈ statement.arms, inner.IsClean) : arm.IsClean

namespace Arm.IsClean

variable {arm : Arm} {words : List String} {body : List Statement} {statement found : Statement}

theorem free (clean : arm.IsClean) : arm.IsFree :=
  match clean with
  | .intro free _ => free

theorem empty (words : List String) : IsClean ⟨words, []⟩ :=
  .intro nofun nofun

/-- One more statement at the end of an arm. -/
theorem concat (clean : IsClean ⟨words, body⟩)
    (apart : ∀ directive text span, statement = .unknown directive text span →
      leadingWord directive ∉ words)
    (inside : ∀ inner ∈ statement.arms, inner.IsClean) : IsClean ⟨words, body ++ [statement]⟩ := by
  obtain ⟨free, earlier⟩ := clean
  refine .intro ?_ ?_
  · intro directive text span member
    rcases List.mem_append.mp member with before | last
    · exact free directive text span before
    · exact apart directive text span (List.mem_singleton.mp last).symm
  · exact List.forall_mem_append.mpr ⟨earlier, by simpa using inside⟩

/-- The arms of every statement that a walk meets in a clean arm are clean. -/
theorem of_walkAll {enters : Node → Bool} (clean : arm.IsClean)
    (member : .statement found ∈ Statement.walkAll enters arm.body) :
    ∀ inner ∈ found.arms, inner.IsClean := by
  induction clean with
  | intro free inside ih =>
    obtain ⟨statement, listed, rfl | ⟨body, below, member⟩⟩ :=
      Statement.exists_of_mem_walkAll member
    · exact inside found listed
    · rw [← Statement.map_body_arms, List.mem_map] at below
      obtain ⟨inner, among, rfl⟩ := below
      exact ih statement listed inner among member

end Arm.IsClean

/-! ## Words of a line -/

section Words

variable {line : Line}

/-- A word behind the mark of a directive is the closing word of the line. -/
theorem Grammar.exists_closingWord?_of_mark {rest : List Char}
    (mark : afterBlanks line.content = '!' :: rest)
    (present : rest.takeWhile Reader.isNameChar ≠ []) :
    ∃ word behind, closingWord? line = some (word, behind) ∧
      word.value = String.ofList (rest.takeWhile Reader.isNameChar) := by
  have tested : afterMark line.content = some rest := by
    rw [afterMark, mark, afterChar, if_pos rfl]
  obtain ⟨start, column, begins⟩ :=
    Reader.follows_directiveStart.takes ⟨0, line.content⟩ rest tested
  let later := Cursor.advance ⟨column, rest⟩ (rest.takeWhile Reader.isNameChar)
    (rest.dropWhile Reader.isNameChar)
  have taken : Reader.takeWhile1 Reader.isNameChar ⟨column, rest⟩ =
      .read (rest.takeWhile Reader.isNameChar) later :=
    if_neg (by simpa using present)
  have read : closingWord ⟨0, line.content⟩ =
      .read ⟨String.ofList (rest.takeWhile Reader.isNameChar), .between start later.column⟩
        later := by
    simp only [closingWord, Reader.bind_eq_read, Reader.column_eq_read, Reader.pure_eq_read]
    exact ⟨start, _, begins, _, _, taken, _, _, ⟨rfl, rfl⟩, rfl, rfl⟩
  refine ⟨_, later, by rw [closingWord?, read], rfl⟩

/-- What an unknown directive starts with is the closing word of its line. -/
theorem Line.Says.exists_closingWord? {directive : Located String} {text : String} {span : Span}
    (told : line.Says (.whole (.unknown directive text span)))
    (present : leadingWord directive ≠ "") :
    ∃ word behind, closingWord? line = some (word, behind) ∧
      word.value = leadingWord directive := by
  obtain ⟨rest, mark, -, name, -⟩ := told.records_unknown
  have same : directive.value.toList.takeWhile Reader.isNameChar =
      rest.takeWhile Reader.isNameChar := by
    rw [name, List.takeWhile_takeWhile]
    congr 1
    funext c
    cases Reader.isNameChar c <;> simp
  rw [leadingWord, same] at present ⊢
  exact exists_closingWord?_of_mark mark fun none => present (by rw [none])

end Words

/-! ## Arms of open blocks -/

namespace Grammar

/-- The words that end the arm of an open block. -/
def OpenBlock.words : OpenBlock → List String
  | .callable kind .. => [closer kind]
  | .loop _ => ["endwhile"]
  | .consequent .. => branchWords
  | .elseIf .. => branchWords
  | .alternate .. => ["endif"]
  | .raw .. => []

/-- The arms in front of the one that is open. -/
def OpenBlock.settled : OpenBlock → List Arm
  | .elseIf _ _ first clauses _ _ => branchArms first clauses
  | .alternate _ _ first clauses => branchArms first clauses
  | _ => []

theorem OpenBlock.ne_empty_of_mem_words {block : OpenBlock} {word : String}
    (member : word ∈ block.words) : word ≠ "" := by
  rintro rfl
  cases block with
  | callable kind unquoted name parameters => cases kind <;> simp [words, closer] at member
  | _ => simp [words, branchWords] at member

/-- The arms of an open block, the one that is open last. -/
def Frame.arms (frame : Frame) : List Arm :=
  frame.block.settled ++ [⟨frame.block.words, frame.body.reverse⟩]

theorem settled_openFrame (line : Line) (start : Nat) (header : Header) :
    (openFrame line start header).block.settled = [] := by
  cases header <;> rfl

/-- The words that turn a block are those that end its open arm. -/
theorem Frame.turn?_eq_none_iff {frame : Frame} {word : Located String} :
    frame.turn? word = none ↔ word.value ∉ frame.block.words := by
  obtain ⟨start, block, body⟩ := frame
  cases block with
  | callable | loop | alternate => simp [turn?, OpenBlock.words]
  | consequent | elseIf =>
    simp only [turn?, OpenBlock.words, branchWords, List.mem_cons, List.not_mem_nil, or_false,
      not_or]
    split
    · simp [*]
    · split
      · simp [*]
      · simp [*]
  | raw name parameters bodyStart lines => simp [turn?, OpenBlock.words]

/-- The arms are those of the block that the turn closes, or are settled in the block that goes on.
-/
def Turn.Settles (arms : List Arm) : Turn → Prop
  | .closes statement => statement.arms = arms
  | .continues block => block.settled = arms
  | .asks settle => ∀ condition, (settle condition).settled = arms

/-- A turn settles the arms of the block. -/
theorem Frame.settles_of_turn? {frame : Frame} {word : Located String} {turn : Turn}
    (found : frame.turn? word = some turn) : turn.Settles frame.arms := by
  obtain ⟨start, block, body⟩ := frame
  cases block with
  | callable | loop | alternate =>
    simp only [turn?, Option.ite_none_right_eq_some, Option.some.injEq] at found
    obtain ⟨-, rfl⟩ := found
    rfl
  | consequent kind condition =>
    simp only [turn?] at found
    split at found
    · cases found
      exact fun _ => rfl
    · split at found
      · cases found
        rfl
      · simp only [Option.ite_none_right_eq_some, Option.some.injEq] at found
        obtain ⟨-, rfl⟩ := found
        rfl
  | elseIf kind condition consequent clauses clauseStart clauseCondition =>
    have settled := branchArms_concat consequent clauses clauseCondition body.reverse
      (.between clauseStart word.span.start)
    simp only [turn?] at found
    split at found
    · cases found
      exact fun _ => settled
    · split at found
      · cases found
        exact settled
      · simp only [Option.ite_none_right_eq_some, Option.some.injEq] at found
        obtain ⟨-, rfl⟩ := found
        rw [Turn.Settles, Statement.arms, settled]
        exact List.append_nil _
  | raw name parameters bodyStart lines => cases found

/-! ## The run of the parser -/

/-- The words that end what is open. -/
def Progress.words : Progress → List String
  | ⟨_, []⟩ => []
  | ⟨_, frame :: _⟩ => frame.block.words

/-- Every arm is clean, finished or open. -/
structure Progress.IsClean (progress : Progress) : Prop where
  finished : Arm.IsClean ⟨[], progress.finished.reverse⟩
  stack : ∀ frame ∈ progress.stack, ∀ arm ∈ frame.arms, arm.IsClean

namespace Progress.IsClean

variable {progress next : Progress} {line : Line}

theorem initial : Progress.initial.IsClean :=
  ⟨.empty [], nofun⟩

/-- One more statement of what is open. -/
theorem add (clean : progress.IsClean) {statement : Statement}
    (apart : ∀ directive text span, statement = .unknown directive text span →
      leadingWord directive ∉ progress.words)
    (inside : ∀ inner ∈ statement.arms, inner.IsClean) : (progress.add statement).IsClean := by
  obtain ⟨finished, _ | ⟨frame, outer⟩⟩ := progress
  · refine ⟨?_, nofun⟩
    simp only [Progress.add, List.reverse_cons]
    exact clean.finished.concat apart inside
  · obtain ⟨here, around⟩ := List.forall_mem_cons.mp clean.stack
    obtain ⟨settled, opened⟩ := List.forall_mem_append.mp here
    refine ⟨clean.finished, List.forall_mem_cons.mpr ⟨?_, around⟩⟩
    refine List.forall_mem_append.mpr ⟨settled, ?_⟩
    rw [List.reverse_cons]
    exact List.forall_mem_singleton.mpr
      ((opened _ (List.mem_singleton_self _)).concat apart inside)

/-- A new arm, or a new block, has no statements yet. -/
theorem opens {finished : List Statement} {outer : List Frame} {frame : Frame}
    (clean : Progress.IsClean ⟨finished, outer⟩)
    (settled : ∀ arm ∈ frame.block.settled, arm.IsClean) (bare : frame.body = []) :
    Progress.IsClean ⟨finished, frame :: outer⟩ := by
  refine ⟨clean.finished, List.forall_mem_cons.mpr ⟨?_, clean.stack⟩⟩
  refine List.forall_mem_append.mpr ⟨settled, List.forall_mem_singleton.mpr ?_⟩
  rw [bare]
  exact .empty _

/-- A line that does not start with a word that ends what is open. -/
theorem readLine (clean : progress.IsClean)
    (goesOn : ∀ word behind, closingWord? line = some (word, behind) →
      word.value ∉ progress.words)
    (read : progress.readLine line = .ok next) : next.IsClean := by
  simp only [Progress.readLine] at read
  split at read
  · cases read
  · next found later outcome =>
    split at read
    · next statement said =>
      cases read
      have told : line.Says (.whole statement) := ⟨found, later, outcome, said⟩
      have bare := Statement.arms_of_not_isBlock told.isBlock
      refine clean.add ?_ (by rw [bare]; exact List.forall_mem_nil _)
      rintro directive text span rfl ends
      have present : leadingWord directive ≠ "" := by
        obtain ⟨finished, _ | ⟨frame, outer⟩⟩ := progress
        · cases ends
        · exact OpenBlock.ne_empty_of_mem_words ends
      obtain ⟨word, behind, closing, same⟩ := told.exists_closingWord? present
      exact goesOn word behind closing (same ▸ ends)
    · next start header said =>
      cases read
      refine clean.opens ?_ rfl
      rw [settled_openFrame]
      exact List.forall_mem_nil _

/-- A line that starts with such a word. -/
theorem apply {finished : List Statement} {frame : Frame} {outer : List Frame}
    {word : Located String} {behind : Cursor} {turn : Turn}
    (clean : Progress.IsClean ⟨finished, frame :: outer⟩) (found : frame.turn? word = some turn)
    (applied : turn.apply finished frame outer line word behind = .ok next) : next.IsClean := by
  have settles := Frame.settles_of_turn? found
  obtain ⟨here, around⟩ := List.forall_mem_cons.mp clean.stack
  have without : Progress.IsClean ⟨finished, outer⟩ := ⟨clean.finished, around⟩
  cases turn with
  | closes statement =>
    cases applied
    have same : statement.arms = frame.arms := settles
    refine without.add ?_ (same ▸ here)
    rintro directive text span rfl
    obtain ⟨-, absurd⟩ := List.nil_eq_append_iff.mp same
    cases absurd
  | continues block =>
    cases applied
    have same : block.settled = frame.arms := settles
    exact without.opens (same ▸ here) rfl
  | asks settle =>
    simp only [Turn.apply] at applied
    split at applied
    · cases applied
    · next condition later read =>
      cases applied
      have same : (settle (condition.shift line.start)).settled = frame.arms := settles _
      exact without.opens (same ▸ here) rfl

/-- A line of a raw block. -/
theorem readRaw {finished : List Statement} {frame : Frame} {outer : List Frame}
    {name : Located String} {parameters : Option (List Parameter)} {bodyStart : Nat}
    {lines : List Line} (clean : Progress.IsClean ⟨finished, frame :: outer⟩)
    (block : frame.block = .raw name parameters bodyStart lines) :
    (readRaw finished frame outer name parameters bodyStart lines line).IsClean := by
  obtain ⟨here, around⟩ := List.forall_mem_cons.mp clean.stack
  have without : Progress.IsClean ⟨finished, outer⟩ := ⟨clean.finished, around⟩
  simp only [Grammar.readRaw]
  split
  · refine without.add ?_ (List.forall_mem_nil _)
    intro directive text span same
    cases same
  · refine ⟨clean.finished, List.forall_mem_cons.mpr ⟨?_, around⟩⟩
    simp only [Frame.arms, block] at here ⊢
    exact here

theorem step (clean : progress.IsClean) (step : progress.step line = .ok next) : next.IsClean := by
  obtain ⟨finished, _ | ⟨frame, outer⟩⟩ := progress
  · exact clean.readLine (fun _ _ _ => List.not_mem_nil) step
  · by_cases raw : frame.block.IsRaw
    · obtain ⟨name, parameters, bodyStart, lines, block⟩ := raw
      rw [Progress.step_of_raw _ _ _ block, Except.ok.injEq] at step
      subst step
      exact clean.readRaw block
    · rw [Progress.step_of_not_raw _ _ _ raw] at step
      split at step
      · next none =>
        refine clean.readLine ?_ step
        intro word behind closing
        rw [none] at closing
        cases closing
      · next word behind closing =>
        split at step
        · next none =>
          refine clean.readLine ?_ step
          intro other later again
          rw [closing] at again
          cases again
          exact Frame.turn?_eq_none_iff.mp none
        · next turn found => exact clean.apply found step

theorem run {lines : List Line} (clean : progress.IsClean)
    (run : lines.foldlM Progress.step progress = .ok next) : next.IsClean := by
  induction lines generalizing progress with
  | nil =>
    cases run
    exact clean
  | cons line rest ih =>
    rw [List.foldlM_cons] at run
    cases outcome : progress.step line with
    | error diagnostic =>
      rw [outcome] at run
      cases run
    | ok middle =>
      rw [outcome] at run
      exact ih (clean.step outcome) run

end Progress.IsClean

/-- The statements of a text that parses are a clean arm that nothing ends. -/
theorem isClean_of_statements {text : List Char} {found : List Statement}
    (parsed : statements text = .ok found) : Arm.IsClean ⟨[], found⟩ := by
  have clean := Progress.IsClean.initial.run (foldlM_step_of_statements parsed)
  have finished := clean.finished
  rwa [List.reverse_reverse] at finished

end Grammar

/-! ## The text of a block -/

/-- The word of the directive that closes a block of statements. -/
def Statement.closingWord? : Statement → Option String
  | .callable kind .. => some (closer kind)
  | .loop .. => some "endwhile"
  | .branch .. => some "endif"
  | _ => none

section Slices

variable {source : String} {offset start stop : Nat} {opener last line : Line}
  {lines inner rest : List Line} {header : Header} {word : Located String}

theorem ofList_mark (text : List Char) :
    String.ofList ('!' :: text) = "!" ++ String.ofList text := by
  simp only [← String.toList_inj, String.toList_append, String.toList_ofList]
  rfl

/-- A closing word is read where it stands, with its mark. -/
theorem Line.Turns.slice? (turns : line.Turns word)
    (run : Line.Run source.toList offset (line :: rest)) :
    word.span.slice? source = some ("!" ++ word.value) := by
  obtain ⟨lead, own, after, spelled, content, span⟩ := turns.places
  obtain ⟨front, back, whole, rfl⟩ := run.placed
  have place : line.start = byteLength front := run.joined.1
  have text : source.toList =
      (front ++ lead) ++ (own ++ (after ++ line.ending.chars ++ Line.text rest ++ back)) := by
    rw [whole, Line.text_cons, Line.chars, content]
    simp only [List.append_assoc]
  rw [place, ← byteLength_append] at span
  rw [Span.slice?_of_append text span, spelled, ofList_mark, String.ofList_toList]

/-- A block runs from the mark of its opening directive to the end of the word that closes it. -/
theorem Line.Says.slice?_block (opens : opener.Says (.opens start header)) (turns : last.Turns word)
    (run : Line.Run source.toList offset (opener :: (inner ++ [last]))) :
    ∃ own, (Span.between start word.span.stop).slice? source =
      some ("!" ++ own ++ "!" ++ word.value) := by
  obtain ⟨blanks, tail, content, rfl⟩ := opens.mark
  obtain ⟨lead, own, after, spelled, closing, span⟩ := turns.places
  obtain ⟨front, back, whole, rfl⟩ := run.placed
  obtain ⟨here, joined⟩ := Line.joined_cons.mp run.joined
  have there : last.start =
      byteLength front + byteLength opener.chars + byteLength (Line.text inner) :=
    (Line.joined_append.mp joined).2.1
  have chars : opener.chars = blanks ++ ('!' :: tail ++ opener.ending.chars) := by
    rw [Line.chars, content, List.append_assoc]
  let middle := tail ++ opener.ending.chars ++ Line.text inner ++ lead
  have text : source.toList = (front ++ blanks) ++
      (('!' :: middle ++ own) ++ (after ++ last.ending.chars ++ back)) := by
    have ending : last.chars = lead ++ (own ++ (after ++ last.ending.chars)) := by
      rw [Line.chars, closing, List.append_assoc, List.append_assoc]
    rw [whole, Line.text_cons, Line.text_append, Line.text_cons, Line.text_nil, chars, ending]
    simp only [middle, List.append_assoc, List.cons_append, List.nil_append]
  have place : Span.between (opener.start + byteLength blanks) word.span.stop =
      .between (byteLength (front ++ blanks))
        (byteLength (front ++ blanks) + byteLength ('!' :: middle ++ own)) := by
    rw [span, Span.stop_between_of_le (Nat.le_add_right ..), here, there, chars]
    simp only [middle, byteLength_append, byteLength_cons, Nat.add_assoc]
  refine ⟨String.ofList middle, ?_⟩
  rw [Span.slice?_of_append text place, spelled, List.cons_append, ofList_mark,
    String.ofList_append, ofList_mark, String.ofList_toList]
  simp only [String.append_assoc]

theorem Statement.EndMade.exists_last {alternate : Option (List Statement)}
    (ends : Statement.EndMade alternate lines start stop) :
    ∃ inner last word, lines = inner ++ [last] ∧ last.Turns word ∧ word.value = "endif" ∧
      word.span.stop = stop := by
  cases ends with
  | plain turns closes => exact ⟨[], _, _, rfl, turns, closes, rfl⟩
  | alternate goesOn other inside turns closes =>
    exact ⟨_ :: _, _, _, rfl, turns, closes, rfl⟩

theorem Statement.Made.slice?_block {statement : Statement} {closing : String}
    (made : statement.Made lines) (run : Line.Run source.toList offset lines)
    (block : statement.closingWord? = some closing) :
    ∃ own, statement.span.slice? source = some ("!" ++ own ++ "!" ++ closing) := by
  cases made with
  | line told =>
    have single := told.isBlock
    cases statement with
    | callable | loop | branch => cases single
    | _ => cases block
  | callable opens inside turns closes =>
    cases block
    exact closes ▸ opens.slice?_block turns run
  | loop opens inside turns closes =>
    cases block
    exact closes ▸ opens.slice?_block turns run
  | branch opens inside further ends =>
    cases block
    obtain ⟨before, last, word, rfl, turns, closes, rfl⟩ := ends.exists_last
    rw [← List.append_assoc, ← List.append_assoc] at run
    exact closes ▸ opens.slice?_block turns run
  | defineLong opens raw closes => cases block

/-- The directive at the span starts the alternate of a branch: it stands behind the clauses of the
branch and in front of the statements of the alternate. -/
structure Span.StartsAlternate (source : String) (clauses : List ElseIf) (body : List Statement)
    (mark : Span) : Prop where
  spelled : mark.slice? source = some "!else"
  behind : ∀ clause ∈ clauses, clause.span.stop ≤ mark.start
  before : ∀ statement ∈ body, mark.stop ≤ statement.span.start

theorem Statement.EndMade.exists_startsAlternate {clauses : List ElseIf} {body : List Statement}
    {more : List Line} {first behind : Nat} (further : ElseIf.AllMade clauses lines first behind)
    (ends : Statement.EndMade (some body) more behind stop)
    (run : Line.Run source.toList offset (lines ++ more)) :
    ∃ mark : Span, mark.StartsAlternate source clauses body ∧ mark.stop ≤ stop := by
  cases ends with
  | @alternate head last _ inner word closer goesOn other inside turns closes =>
    obtain ⟨joined, behind⟩ := Line.joined_append.mp run.joined
    obtain ⟨place, behind⟩ := Line.joined_cons.mp behind
    obtain ⟨joinedBody, behind⟩ := Line.joined_append.mp behind
    obtain ⟨lead, own, rest, chars, starts, stops⟩ := goesOn.places_of_start place
    obtain ⟨lead', own', rest', chars', starts', stops'⟩ := turns.places_of_start behind.1
    have size : byteLength head.chars = byteLength (lead ++ own) + byteLength rest := by
      rw [chars, ← List.append_assoc, byteLength_append]
    have reach : word.span.stop ≤
        offset + byteLength (Line.text lines) + byteLength head.chars := by
      omega
    refine ⟨word.span, ⟨?_, ?_, ?_⟩, ?_⟩
    · rw [goesOn.slice? run.right, other]
      rfl
    · intro clause listed
      have inTurn := (further.inTurn joined starts).inside clause.outline
        (by rw [ElseIf.outlines_eq_map]; exact List.mem_map_of_mem listed)
      have span : clause.outline.span = clause.span := by cases clause; rfl
      rw [span, byteLength_append, ← Nat.add_assoc, ← starts] at inTurn
      exact inTurn.2
    · intro statement listed
      have inTurn := (inside.inTurn joinedBody).inside statement.outline
        (by rw [Statement.outlines_eq_map]; exact List.mem_map_of_mem listed)
      have span : statement.outline.span = statement.span :=
        Node.span_outline (.statement statement)
      rw [span] at inTurn
      exact Nat.le_trans reach inTurn.1
    · rw [stops']
      omega

theorem Statement.Made.exists_startsAlternate {kind : ConditionKind} {condition : Expression}
    {consequent body : List Statement} {elseIfs : List ElseIf} {span : Span}
    (made : Statement.Made (.branch kind condition consequent elseIfs (some body) span) lines)
    (run : Line.Run source.toList offset lines) :
    ∃ mark : Span, mark.StartsAlternate source elseIfs body ∧ mark.stop ≤ span.stop := by
  cases made with
  | line told => cases told.isBlock
  | branch opens inside further ends =>
    obtain ⟨mark, starts, stops⟩ := ends.exists_startsAlternate further run.tail.right
    exact ⟨mark, starts, Nat.le_trans stops (Nat.le_max_right ..)⟩

end Slices

/-- In a document that parses, every block ends at its own first closing directive, at whatever
depth it stands. Its text starts with the mark of a directive and ends with the directive that
closes its kind of block. No unknown directive directly in the body of a callable or of a loop
starts with the word that closes the block; none in the consequent or in a clause of a branch starts
with `elseif`, `else` or `endif`; and none in the alternate starts with `endif`. If there is an
alternate, its directive stands behind all the clauses. -/
theorem parse_closes_first {source : String} {root : Root} (parsed : parse source = .ok root) :
    ∀ statement, .statement statement ∈ root.nodes →
      (∀ closing, statement.closingWord? = some closing →
        ∃ own, statement.span.slice? source = some ("!" ++ own ++ "!" ++ closing)) ∧
      (∀ arm ∈ statement.arms, arm.IsFree) ∧
      ∀ kind condition consequent elseIfs body span,
        statement = .branch kind condition consequent elseIfs (some body) span →
          ∃ mark : Span, mark.StartsAlternate source elseIfs body ∧ mark.stop ≤ span.stop := by
  intro statement member
  obtain ⟨own, inside, made⟩ := (allMade_of_parse parsed).made_of_walkAll member
  obtain ⟨offset, run⟩ := Line.run_of_infix inside
  refine ⟨fun closing block => made.slice?_block run block, ?_, ?_⟩
  · have clean := isClean_of_statements (statements_of_parse parsed)
    exact fun arm listed => (clean.of_walkAll member arm listed).free
  · rintro kind condition consequent elseIfs body span rfl
    exact made.exists_startsAlternate run

/-- Closing words that end nothing where they stand, one of them with more behind it, and a loop
inside the alternate of a branch. -/
theorem parse_closes_first_in_alternate :
    ∃ root, parse "!if 1\n!endwhile\n!else\n!elseif\n!while 1\n!endif$x\n!endwhile\n!endif" =
        .ok root ∧
      root.statements.map (fun statement => statement.arms.map Arm.words) =
        [[branchWords, ["endif"]]] ∧
      ∀ statement, .statement statement ∈ root.nodes → ∀ arm ∈ statement.arms, arm.IsFree := by
  have shown :
      (parse "!if 1\n!endwhile\n!else\n!elseif\n!while 1\n!endif$x\n!endwhile\n!endif").toOption.map
        (fun root => root.statements.map fun statement => statement.arms.map Arm.words) =
          some [[branchWords, ["endif"]]] := by
    decide +kernel
  cases parsed :
      parse "!if 1\n!endwhile\n!else\n!elseif\n!while 1\n!endif$x\n!endwhile\n!endif" with
  | error error =>
    rw [parsed] at shown
    cases shown
  | ok root =>
    rw [parsed] at shown
    exact ⟨root, rfl, Option.some.inj shown,
      fun statement member => (parse_closes_first parsed statement member).2.1⟩

end DiagramAssist
