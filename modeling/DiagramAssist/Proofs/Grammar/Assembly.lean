import DiagramAssist.Document.Parse
import DiagramAssist.Proofs.Grammar.Concatenation
import DiagramAssist.Proofs.Reader.Passage

/-! # How lines make up statements

A statement is made of one line that says it, or of the line that opens a block, the lines of what
is inside and the line that closes the block. The relations below say so for every kind of block,
without a stack: the lines of the statements inside a block are the lines between its opening and
its closing line. A run of the parser over the lines of a text assembles its statements in this way
(`allMade_of_statements`), so that what holds of every statement made of lines holds of every parsed
document.
-/

namespace DiagramAssist

open Grammar

namespace Line

/-- What the line says on its own, at its place in the document. -/
def Says (line : Line) (reading : Reading) : Prop :=
  ∃ found next, Grammar.reading line.ending.completes ⟨0, line.content⟩ = .read found next ∧
    found.shift line.start = reading

/-- The lines say the statements, one each. -/
inductive SayAll : List Line → List Statement → Prop where
  | nil : SayAll [] []
  | cons {line : Line} {statement : Statement} {lines : List Line} {statements : List Statement}
      (told : line.Says (.whole statement)) (rest : SayAll lines statements) :
      SayAll (line :: lines) (statement :: statements)

/-- The word of the directive that the line starts with, if the line closes something. -/
def Turns (line : Line) (word : Located String) : Prop :=
  ∃ behind, closingWord? line = some (word, behind)

/-- The condition behind the word of a line that starts a further clause. -/
def Asks (line : Line) (word : Located String) (condition : Expression) : Prop :=
  ∃ behind found next, closingWord? line = some (word, behind) ∧
    conditionRest .holds line.ending.completes behind = .read found next ∧
    found.shift line.start = condition

end Line

mutual

inductive Statement.Made : Statement → List Line → Prop where
  | line {line : Line} {statement : Statement} (told : line.Says (.whole statement)) :
      Statement.Made statement [line]
  | callable {kind : BlockCallable} {unquoted : Bool} {name : Located String}
      {parameters : List Parameter} {body : List Statement} {opener last : Line}
      {inner : List Line} {start : Nat} {word : Located String}
      (opens : opener.Says (.opens start (.callable kind unquoted name parameters)))
      (inside : Statement.AllMade body inner) (turns : last.Turns word)
      (closes : word.value = closer kind) :
      Statement.Made
        (.callable kind unquoted name parameters body (.between start word.span.stop))
        (opener :: (inner ++ [last]))
  | loop {condition : Expression} {body : List Statement} {opener last : Line} {inner : List Line}
      {start : Nat} {word : Located String} (opens : opener.Says (.opens start (.loop condition)))
      (inside : Statement.AllMade body inner) (turns : last.Turns word)
      (closes : word.value = "endwhile") :
      Statement.Made (.loop condition body (.between start word.span.stop))
        (opener :: (inner ++ [last]))
  | branch {kind : ConditionKind} {condition : Expression} {consequent : List Statement}
      {elseIfs : List ElseIf} {alternate : Option (List Statement)} {opener : Line}
      {inner clauses ending : List Line} {start first behind stop : Nat}
      (opens : opener.Says (.opens start (.branch kind condition)))
      (inside : Statement.AllMade consequent inner)
      (further : ElseIf.AllMade elseIfs clauses first behind)
      (ends : Statement.EndMade alternate ending behind stop) :
      Statement.Made (.branch kind condition consequent elseIfs alternate (.between start stop))
        (opener :: (inner ++ (clauses ++ ending)))
  | defineLong {name : Located String} {parameters : Option (List Parameter)} {opener last : Line}
      {inner : List Line} {start : Nat}
      (opens : opener.Says (.opens start (.defineLong name parameters)))
      (raw : ∀ line ∈ inner, closesRaw line.content = false)
      (closes : closesRaw last.content = true) :
      Statement.Made
        (.defineLong name parameters
          ⟨String.ofList (rawText inner.reverse),
            .between opener.stop (rawStop opener.stop inner.reverse)⟩
          (.between start last.contentStop))
        (opener :: (inner ++ [last]))

/-- The lines make up the statements, one behind the other. -/
inductive Statement.AllMade : List Statement → List Line → Prop where
  | nil : Statement.AllMade [] []
  | behind {statements : List Statement} {statement : Statement} {lines more : List Line}
      (earlier : Statement.AllMade statements lines) (last : Statement.Made statement more) :
      Statement.AllMade (statements ++ [statement]) (lines ++ more)

/-- The lines make up the clauses; the first clause starts at the offset `first`, and the word that
ends the last one starts at the offset `behind`. -/
inductive ElseIf.AllMade : List ElseIf → List Line → (first behind : Nat) → Prop where
  | nil (offset : Nat) : ElseIf.AllMade [] [] offset offset
  | behind {clauses : List ElseIf} {condition : Expression} {body : List Statement} {head : Line}
      {lines inner : List Line} {word : Located String} {first : Nat}
      (earlier : ElseIf.AllMade clauses lines first word.span.start)
      (asks : head.Asks word condition) (goesOn : word.value = "elseif")
      (inside : Statement.AllMade body inner) (next : Nat) :
      ElseIf.AllMade (clauses ++ [.mk condition body (.between word.span.start next)])
        (lines ++ head :: inner) first next

/-- The lines make up the end of a branch, with what stands behind `else`; the first word starts at
the offset `start` and the last one ends at the offset `stop`. -/
inductive Statement.EndMade : Option (List Statement) → List Line → (start stop : Nat) → Prop where
  | plain {last : Line} {word : Located String} (turns : last.Turns word)
      (closes : word.value = "endif") :
      Statement.EndMade none [last] word.span.start word.span.stop
  | alternate {head last : Line} {body : List Statement} {inner : List Line}
      {first word : Located String} (goesOn : head.Turns first) (other : first.value = "else")
      (inside : Statement.AllMade body inner) (turns : last.Turns word)
      (closes : word.value = "endif") :
      Statement.EndMade (some body) (head :: (inner ++ [last])) first.span.start word.span.stop

end

namespace Grammar

/-- The lines of a block that is still open, raw blocks apart. -/
inductive Frame.Made : Frame → List Line → Prop where
  | callable {kind : BlockCallable} {unquoted : Bool} {name : Located String}
      {parameters : List Parameter} {body : List Statement} {opener : Line} {inner : List Line}
      {start : Nat} (opens : opener.Says (.opens start (.callable kind unquoted name parameters)))
      (inside : Statement.AllMade body.reverse inner) :
      Frame.Made ⟨start, .callable kind unquoted name parameters, body⟩ (opener :: inner)
  | loop {condition : Expression} {body : List Statement} {opener : Line} {inner : List Line}
      {start : Nat} (opens : opener.Says (.opens start (.loop condition)))
      (inside : Statement.AllMade body.reverse inner) :
      Frame.Made ⟨start, .loop condition, body⟩ (opener :: inner)
  | consequent {kind : ConditionKind} {condition : Expression} {body : List Statement}
      {opener : Line} {inner : List Line} {start : Nat}
      (opens : opener.Says (.opens start (.branch kind condition)))
      (inside : Statement.AllMade body.reverse inner) :
      Frame.Made ⟨start, .consequent kind condition, body⟩ (opener :: inner)
  | elseIf {kind : ConditionKind} {condition clauseCondition : Expression}
      {consequent body : List Statement} {clauses : List ElseIf} {opener head : Line}
      {inner settled own : List Line} {start first : Nat} {word : Located String}
      (opens : opener.Says (.opens start (.branch kind condition)))
      (before : Statement.AllMade consequent inner)
      (further : ElseIf.AllMade clauses settled first word.span.start)
      (asks : head.Asks word clauseCondition) (goesOn : word.value = "elseif")
      (inside : Statement.AllMade body.reverse own) :
      Frame.Made
        ⟨start, .elseIf kind condition consequent clauses word.span.start clauseCondition, body⟩
        (opener :: (inner ++ (settled ++ head :: own)))
  | alternate {kind : ConditionKind} {condition : Expression} {consequent body : List Statement}
      {clauses : List ElseIf} {opener head : Line} {inner settled own : List Line}
      {start first : Nat} {word : Located String}
      (opens : opener.Says (.opens start (.branch kind condition)))
      (before : Statement.AllMade consequent inner)
      (further : ElseIf.AllMade clauses settled first word.span.start)
      (goesOn : head.Turns word) (other : word.value = "else")
      (inside : Statement.AllMade body.reverse own) :
      Frame.Made ⟨start, .alternate kind condition consequent clauses, body⟩
        (opener :: (inner ++ (settled ++ head :: own)))

/-- The lines of a stack of open blocks, those of the outermost first. -/
inductive StackMade : List Frame → List Line → Prop where
  | nil : StackMade [] []
  | inner {frame : Frame} {outer : List Frame} {lines own : List Line}
      (around : StackMade outer lines) (made : frame.Made own) :
      StackMade (frame :: outer) (lines ++ own)

/-- The lines that have been read so far. A raw block is never around another block. -/
inductive Progress.Made : Progress → List Line → Prop where
  | plain {finished : List Statement} {stack : List Frame} {settled opened : List Line}
      (done : Statement.AllMade finished.reverse settled) (stacked : StackMade stack opened) :
      Progress.Made ⟨finished, stack⟩ (settled ++ opened)
  | raw {finished : List Statement} {outer : List Frame} {settled opened raws : List Line}
      {opener : Line} {start : Nat} {name : Located String}
      {parameters : Option (List Parameter)} {body : List Statement}
      (done : Statement.AllMade finished.reverse settled) (stacked : StackMade outer opened)
      (opens : opener.Says (.opens start (.defineLong name parameters)))
      (kept : ∀ line ∈ raws, closesRaw line.content = false) :
      Progress.Made ⟨finished, ⟨start, .raw name parameters opener.stop raws, body⟩ :: outer⟩
        (settled ++ (opened ++ opener :: raws.reverse))

theorem allMade_reverse_nil : Statement.AllMade ([] : List Statement).reverse [] :=
  .nil

/-- A statement behind the statements of a block, the last one first. -/
theorem allMade_reverse_cons {body : List Statement} {statement : Statement}
    {lines more : List Line} (earlier : Statement.AllMade body.reverse lines)
    (last : statement.Made more) :
    Statement.AllMade (statement :: body).reverse (lines ++ more) := by
  rw [List.reverse_cons]
  exact .behind earlier last

/-- A further statement of an open block. -/
theorem Frame.Made.add {frame : Frame} {lines more : List Line} {statement : Statement}
    (made : frame.Made lines) (last : statement.Made more) :
    Frame.Made { frame with body := statement :: frame.body } (lines ++ more) := by
  cases made with
  | callable opens inside => exact .callable opens (allMade_reverse_cons inside last)
  | loop opens inside => exact .loop opens (allMade_reverse_cons inside last)
  | consequent opens inside => exact .consequent opens (allMade_reverse_cons inside last)
  | elseIf opens before further asks goesOn inside =>
    simp only [List.cons_append, List.append_assoc]
    exact .elseIf opens before further asks goesOn (allMade_reverse_cons inside last)
  | alternate opens before further goesOn other inside =>
    simp only [List.cons_append, List.append_assoc]
    exact .alternate opens before further goesOn other (allMade_reverse_cons inside last)

/-- A further statement of the innermost block, or of the top level. -/
theorem Progress.made_add {finished : List Statement} {stack : List Frame}
    {settled opened more : List Line} {statement : Statement}
    (done : Statement.AllMade finished.reverse settled) (stacked : StackMade stack opened)
    (last : statement.Made more) :
    (Progress.add statement ⟨finished, stack⟩).Made (settled ++ (opened ++ more)) := by
  cases stacked with
  | nil =>
    have plain := Progress.Made.plain (allMade_reverse_cons done last) .nil
    rwa [List.append_nil] at plain
  | inner around made =>
    rw [List.append_assoc]
    exact .plain done (.inner around (made.add last))

/-- A line that is read on its own adds a statement or opens a block. -/
theorem Progress.made_readLine {finished : List Statement} {stack : List Frame}
    {settled opened : List Line} {line : Line} {next : Progress}
    (done : Statement.AllMade finished.reverse settled) (stacked : StackMade stack opened)
    (read : Progress.readLine ⟨finished, stack⟩ line = .ok next) :
    next.Made (settled ++ (opened ++ [line])) := by
  simp only [Progress.readLine] at read
  cases outcome : reading line.ending.completes ⟨0, line.content⟩ with
  | failed failure =>
    rw [outcome] at read
    cases read
  | read found behind =>
    simp only [outcome] at read
    cases said : found.shift line.start with
    | whole statement =>
      simp only [said, Except.ok.injEq] at read
      subst read
      exact Progress.made_add done stacked (.line ⟨found, behind, outcome, said⟩)
    | opens start header =>
      simp only [said, Except.ok.injEq] at read
      subst read
      have told : line.Says (.opens start header) := ⟨found, behind, outcome, said⟩
      cases header with
      | callable kind unquoted name parameters =>
        exact .plain done (.inner stacked (.callable told .nil))
      | branch kind condition => exact .plain done (.inner stacked (.consequent told .nil))
      | loop condition => exact .plain done (.inner stacked (.loop told .nil))
      | defineLong name parameters => exact .raw done stacked told (List.forall_mem_nil _)

/-- What a turn makes of a block and the line with the closing word. -/
def Turn.Made (turn : Turn) (frame : Frame) (word : Located String) (line : Line)
    (lines : List Line) : Prop :=
  match turn with
  | .closes statement => statement.Made (lines ++ [line])
  | .continues block => Frame.Made { frame with block, body := [] } (lines ++ [line])
  | .asks settle => ∀ condition, line.Asks word condition →
      Frame.Made { frame with block := settle condition, body := [] } (lines ++ [line])

/-- A closing word ends the block, or the arm of a branch, that is open. -/
theorem Frame.Made.turn {frame : Frame} {lines : List Line} {line : Line} {word : Located String}
    {turn : Turn} (made : frame.Made lines) (turns : line.Turns word)
    (found : frame.turn? word = some turn) : turn.Made frame word line lines := by
  cases made with
  | callable opens inside =>
    simp only [Frame.turn?, Option.ite_none_right_eq_some, Option.some.injEq] at found
    obtain ⟨closes, rfl⟩ := found
    exact .callable opens inside turns closes
  | loop opens inside =>
    simp only [Frame.turn?, Option.ite_none_right_eq_some, Option.some.injEq] at found
    obtain ⟨closes, rfl⟩ := found
    exact .loop opens inside turns closes
  | consequent opens inside =>
    simp only [Frame.turn?] at found
    split at found
    · next goesOn =>
      cases found
      intro condition asks
      exact .elseIf opens inside (.nil _) asks goesOn .nil
    · split at found
      · next goesOn =>
        cases found
        exact .alternate opens inside (.nil _) turns goesOn .nil
      · simp only [Option.ite_none_right_eq_some, Option.some.injEq] at found
        obtain ⟨closes, rfl⟩ := found
        exact .branch opens inside (.nil _) (.plain turns closes)
  | elseIf opens before further asks goesOn inside =>
    have clauses := ElseIf.AllMade.behind further asks goesOn inside word.span.start
    simp only [Frame.turn?] at found
    split at found
    · next again =>
      cases found
      intro condition asks
      have made := Frame.Made.elseIf opens before clauses asks again allMade_reverse_nil
      simpa only [List.cons_append, List.append_assoc] using made
    · split at found
      · next other =>
        cases found
        have made := Frame.Made.alternate opens before clauses turns other
          allMade_reverse_nil
        simpa only [Turn.Made, List.cons_append, List.append_assoc] using made
      · simp only [Option.ite_none_right_eq_some, Option.some.injEq] at found
        obtain ⟨closes, rfl⟩ := found
        have made := Statement.Made.branch opens before clauses (.plain turns closes)
        simpa only [Turn.Made, List.cons_append, List.append_assoc] using made
  | alternate opens before further goesOn other inside =>
    simp only [Frame.turn?, Option.ite_none_right_eq_some, Option.some.injEq] at found
    obtain ⟨closes, rfl⟩ := found
    have made := Statement.Made.branch opens before further
      (.alternate goesOn other inside turns closes)
    simpa only [Turn.Made, List.cons_append, List.append_assoc] using made

theorem Progress.made_apply {finished : List Statement} {frame : Frame} {outer : List Frame}
    {settled opened own : List Line} {line : Line} {word : Located String} {behind : Cursor}
    {turn : Turn} {next : Progress} (done : Statement.AllMade finished.reverse settled)
    (around : StackMade outer opened) (made : turn.Made frame word line own)
    (turns : closingWord? line = some (word, behind))
    (applied : turn.apply finished frame outer line word behind = .ok next) :
    next.Made (settled ++ (opened ++ (own ++ [line]))) := by
  cases turn with
  | closes statement =>
    simp only [Turn.apply, Except.ok.injEq] at applied
    subst applied
    exact Progress.made_add done around made
  | continues block =>
    simp only [Turn.apply, Except.ok.injEq] at applied
    subst applied
    exact .plain done (.inner around made)
  | asks settle =>
    simp only [Turn.apply] at applied
    split at applied
    · cases applied
    · next condition rest read =>
      simp only [Except.ok.injEq] at applied
      subst applied
      exact .plain done (.inner around (made _
        ⟨behind, condition, rest, turns, Reader.directiveRest_eq_read.mp read, rfl⟩))

/-- A line inside a raw block is kept, or closes it. -/
theorem Progress.made_readRaw {finished : List Statement} {outer : List Frame}
    {settled opened raws : List Line} {opener line : Line} {start : Nat} {name : Located String}
    {parameters : Option (List Parameter)} {body : List Statement}
    (done : Statement.AllMade finished.reverse settled) (stacked : StackMade outer opened)
    (opens : opener.Says (.opens start (.defineLong name parameters)))
    (kept : ∀ line ∈ raws, closesRaw line.content = false) :
    (readRaw finished ⟨start, .raw name parameters opener.stop raws, body⟩ outer name parameters
      opener.stop raws line).Made (settled ++ (opened ++ opener :: (raws.reverse ++ [line]))) := by
  simp only [readRaw]
  split
  · next closes =>
    have raw : ∀ line ∈ raws.reverse, closesRaw line.content = false := fun line member =>
      kept line (List.mem_reverse.mp member)
    have made := Statement.Made.defineLong opens raw closes
    rw [List.reverse_reverse] at made
    exact Progress.made_add done stacked made
  · next open_ =>
    rw [← List.reverse_cons]
    refine .raw done stacked opens ?_
    simp only [List.forall_mem_cons]
    exact ⟨Bool.eq_false_iff.mpr open_, kept⟩

/-- The next line is assembled with the lines before it. -/
theorem Progress.Made.step {progress next : Progress} {lines : List Line} {line : Line}
    (made : progress.Made lines) (step : progress.step line = .ok next) :
    next.Made (lines ++ [line]) := by
  cases made with
  | raw done stacked opens kept =>
    rw [Progress.step_of_raw _ _ _ rfl, Except.ok.injEq] at step
    subst step
    simp only [List.append_assoc, List.cons_append]
    exact Progress.made_readRaw done stacked opens kept
  | plain done stacked =>
    rw [List.append_assoc]
    cases stacked with
    | nil => exact Progress.made_readLine done .nil step
    | @inner frame outer opened own around made =>
      have plain : ¬frame.block.IsRaw := by
        cases made <;> simp [OpenBlock.IsRaw]
      rw [Progress.step_of_not_raw _ _ _ plain] at step
      split at step
      · exact Progress.made_readLine done (.inner around made) step
      · next word behind turns =>
        split at step
        · exact Progress.made_readLine done (.inner around made) step
        · next turn found =>
          rw [List.append_assoc]
          exact Progress.made_apply done around (made.turn ⟨behind, turns⟩ found) turns step

/-- A run over further lines assembles them with the lines before. -/
theorem Progress.Made.run {progress final : Progress} {lines more : List Line}
    (made : progress.Made lines) (run : more.foldlM Progress.step progress = .ok final) :
    final.Made (lines ++ more) := by
  induction more generalizing progress lines with
  | nil =>
    cases run
    rwa [List.append_nil]
  | cons line rest ih =>
    rw [List.foldlM_cons] at run
    cases step : progress.step line with
    | error diagnostic =>
      rw [step] at run
      cases run
    | ok next =>
      rw [step] at run
      rw [← List.singleton_append, ← List.append_assoc]
      exact ih (made.step step) run

/-- The statements of a text that parses are made of its lines. -/
theorem allMade_of_statements {text : List Char} {found : List Statement}
    (parsed : statements text = .ok found) : Statement.AllMade found (Line.split text) := by
  have initial : Progress.initial.Made ([] ++ []) := .plain .nil .nil
  have made := initial.run (foldlM_step_of_statements parsed)
  rw [List.nil_append, List.nil_append] at made
  generalize Line.split text = lines at made
  cases made with
  | plain done stacked =>
    cases stacked
    rwa [List.append_nil, ← List.reverse_reverse found]

/-- Lines that say a statement each add these statements at the top level. -/
theorem Progress.run_of_sayAll {lines : List Line} {found : List Statement}
    (said : Line.SayAll lines found) (finished : List Statement) :
    lines.foldlM Progress.step ⟨finished, []⟩ = .ok ⟨found.reverse ++ finished, []⟩ := by
  induction said generalizing finished with
  | nil => rfl
  | @cons line statement lines statements told rest ih =>
    obtain ⟨reading, next, read, same⟩ := told
    have step : Progress.step ⟨finished, []⟩ line = .ok ⟨statement :: finished, []⟩ := by
      simp only [Progress.step, Progress.readLine, read, same, Progress.add]
    rw [List.foldlM_cons, step]
    refine (ih (statement :: finished)).trans ?_
    rw [List.reverse_cons, List.append_assoc, List.singleton_append]

/-- A text whose lines say a statement each consists of these statements. -/
theorem statements_of_sayAll {text : List Char} {found : List Statement}
    (said : Line.SayAll (Line.split text) found) : statements text = .ok found := by
  have run : (Line.split text).foldlM Progress.step Progress.initial =
      .ok ⟨found.reverse ++ [], []⟩ := Progress.run_of_sayAll said []
  rw [statements, run]
  change Except.ok _ = _
  rw [List.append_nil, List.reverse_reverse]

end Grammar

/-- The statements of a document that parses. -/
theorem statements_of_parse {source : String} {root : Root} (parsed : parse source = .ok root) :
    Grammar.statements source.toList = .ok root.statements := by
  simp only [parse] at parsed
  cases found : Grammar.statements source.toList with
  | error diagnostic =>
    rw [found] at parsed
    cases parsed
  | ok statements =>
    rw [found] at parsed
    cases parsed
    rfl

/-- A document that parses is made of the lines of its source. -/
theorem allMade_of_parse {source : String} {root : Root} (parsed : parse source = .ok root) :
    Statement.AllMade root.statements (Line.split source.toList) :=
  Grammar.allMade_of_statements (statements_of_parse parsed)

end DiagramAssist
