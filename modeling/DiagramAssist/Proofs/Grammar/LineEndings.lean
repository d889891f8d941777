import DiagramAssist.Proofs.Grammar.Commitment
import DiagramAssist.Proofs.Grammar.Extent
import DiagramAssist.Proofs.Line.Crlf

/-! # Line endings do not matter

Writing a carriage return before every line feed changes neither what a line says nor which blocks
open and close; it changes where lines start. A run over the lines of a text can therefore be
replayed over the lines with the other endings: every state of the replay is the state of the run
with its offsets placed (`Progress.step_crlf`), and a failure is reported with placed labels. The
one text that does change is the body of a raw block, which keeps the endings of its lines.
-/

namespace DiagramAssist

open Text

/-- A text that keeps the endings of its lines, placed and with a carriage return before every line
feed. -/
def Located.crlf (placement : Placement) (text : Located String) : Located String :=
  ⟨String.ofList (Text.crlf text.value.toList), text.span.place placement⟩

mutual

/-- The statement with every span placed and the bodies of raw blocks rewritten. -/
def Statement.crlf (placement : Placement) : Statement → Statement
  | .declaration name initializer scope conditional span =>
    .declaration (name.place placement) (initializer.place placement) scope conditional
      (span.place placement)
  | .callable kind unquoted name parameters body span =>
    .callable kind unquoted (name.place placement) (parameters.map (·.place placement))
      (Statement.crlfAll placement body) (span.place placement)
  | .inlineFunction unquoted name parameters value span =>
    .inlineFunction unquoted (name.place placement) (parameters.map (·.place placement))
      (value.place placement) (span.place placement)
  | .define name parameters value span =>
    .define (name.place placement) (parameters.map (·.map (·.place placement)))
      (value.map (·.place placement)) (span.place placement)
  | .defineLong name parameters body span =>
    .defineLong (name.place placement) (parameters.map (·.map (·.place placement)))
      (body.crlf placement) (span.place placement)
  | .inclusion content => .inclusion (content.place placement)
  | .branch kind condition consequent elseIfs alternate span =>
    .branch kind (condition.place placement) (Statement.crlfAll placement consequent)
      (ElseIf.crlfAll placement elseIfs) (Statement.crlfOption placement alternate)
      (span.place placement)
  | .loop condition body span =>
    .loop (condition.place placement) (Statement.crlfAll placement body) (span.place placement)
  | .result value span => .result (value.place placement) (span.place placement)
  | .call expression span => .call (expression.place placement) (span.place placement)
  | .unknown directive text span =>
    .unknown (directive.place placement) text (span.place placement)
  | .text text span => .text text (span.place placement)

/-- The clause with every span placed and the bodies of raw blocks rewritten. -/
def ElseIf.crlf (placement : Placement) : ElseIf → ElseIf
  | .mk condition body span =>
    .mk (condition.place placement) (Statement.crlfAll placement body) (span.place placement)

/-- The statements with every span placed and the bodies of raw blocks rewritten. -/
def Statement.crlfAll (placement : Placement) : List Statement → List Statement
  | [] => []
  | statement :: rest => statement.crlf placement :: Statement.crlfAll placement rest

/-- The clauses with every span placed and the bodies of raw blocks rewritten. -/
def ElseIf.crlfAll (placement : Placement) : List ElseIf → List ElseIf
  | [] => []
  | clause :: rest => clause.crlf placement :: ElseIf.crlfAll placement rest

/-- The statements, if there are any, with every span placed and the bodies of raw blocks
rewritten. -/
def Statement.crlfOption (placement : Placement) : Option (List Statement) → Option (List Statement)
  | none => none
  | some statements => some (Statement.crlfAll placement statements)

end

/-- The document with every span placed and the bodies of raw blocks rewritten. -/
def Root.crlf (placement : Placement) (root : Root) : Root where
  statements := Statement.crlfAll placement root.statements
  span := root.span.place placement

theorem Statement.crlfAll_eq_map (placement : Placement) (statements : List Statement) :
    Statement.crlfAll placement statements = statements.map (·.crlf placement) := by
  induction statements with
  | nil => rfl
  | cons statement rest ih => simp only [Statement.crlfAll, List.map_cons, ih]

theorem ElseIf.crlfAll_eq_map (placement : Placement) (clauses : List ElseIf) :
    ElseIf.crlfAll placement clauses = clauses.map (·.crlf placement) := by
  induction clauses with
  | nil => rfl
  | cons clause rest ih => simp only [ElseIf.crlfAll, List.map_cons, ih]

theorem Statement.crlfAll_reverse (placement : Placement) (statements : List Statement) :
    Statement.crlfAll placement statements.reverse =
      (Statement.crlfAll placement statements).reverse := by
  simp only [Statement.crlfAll_eq_map, List.map_reverse]

/-- A statement on one line holds no raw block, so it is only placed. -/
theorem Statement.crlf_shift {placement : Placement} {bound origin target : Nat}
    (slides : placement.Slides bound origin target) {statement : Statement}
    (single : statement.isBlock = false) (inside : statement.outline.Within bound) :
    (statement.shift origin).crlf placement = statement.shift target := by
  cases statement with
  | callable | branch | loop | defineLong => cases single
  | declaration name initializer scope conditional span =>
    simp only [Statement.outline, Located.nameOutline, Outline.within_mk, List.forall_mem_cons]
      at inside
    obtain ⟨own, ⟨label, -⟩, below, -⟩ := inside
    simp only [Statement.shift, Statement.crlf, Located.place_shift slides label,
      initializer.place_shift slides below, Span.place_shift slides own]
  | inlineFunction unquoted name parameters value span =>
    simp only [Statement.outline, Located.nameOutline, Outline.within_mk, List.forall_mem_cons,
      List.forall_mem_append] at inside
    obtain ⟨own, ⟨label, -⟩, listed, below, -⟩ := inside
    simp only [Statement.shift, Statement.crlf, Located.place_shift slides label,
      Parameter.map_place_shift slides listed, value.place_shift slides below,
      Span.place_shift slides own]
  | define name parameters value span =>
    simp only [Statement.outline, Located.nameOutline, Outline.within_mk, List.forall_mem_cons,
      List.forall_mem_append] at inside
    obtain ⟨own, ⟨label, -⟩, listed, text⟩ := inside
    simp only [Statement.shift, Statement.crlf, Located.place_shift slides label,
      Parameter.mapOption_place_shift slides listed,
      Located.map_place_shift slides (fun _ => rfl) text, Span.place_shift slides own]
  | inclusion content =>
    simp only [Statement.outline] at inside
    simp only [Statement.shift, Statement.crlf, Include.place_shift slides inside]
  | result value span =>
    simp only [Statement.outline, Outline.within_mk, List.forall_mem_cons] at inside
    obtain ⟨own, below, -⟩ := inside
    simp only [Statement.shift, Statement.crlf, value.place_shift slides below,
      Span.place_shift slides own]
  | call expression span =>
    simp only [Statement.outline, Outline.within_mk, List.forall_mem_cons] at inside
    obtain ⟨own, below, -⟩ := inside
    simp only [Statement.shift, Statement.crlf, expression.place_shift slides below,
      Span.place_shift slides own]
  | unknown directive text span =>
    simp only [Statement.outline, Located.textOutline, Outline.within_mk, List.forall_mem_cons]
      at inside
    obtain ⟨own, ⟨label, -⟩, -⟩ := inside
    simp only [Statement.shift, Statement.crlf, Located.place_shift slides label,
      Span.place_shift slides own]
  | text text span =>
    simp only [Statement.outline, Outline.within_mk] at inside
    simp only [Statement.shift, Statement.crlf, Span.place_shift slides inside.1]

namespace Grammar

def Header.place (placement : Placement) : Header → Header
  | .callable kind unquoted name parameters =>
    .callable kind unquoted (name.place placement) (parameters.map (·.place placement))
  | .branch kind condition => .branch kind (condition.place placement)
  | .loop condition => .loop (condition.place placement)
  | .defineLong name parameters =>
    .defineLong (name.place placement) (parameters.map (·.map (·.place placement)))

/-- The reading with every span placed. -/
def Reading.crlf (placement : Placement) : Reading → Reading
  | .whole statement => .whole (statement.crlf placement)
  | .opens start header => .opens (placement.place start) (header.place placement)

/-- The block with everything settled of it placed. -/
def OpenBlock.crlf (placement : Placement) : OpenBlock → OpenBlock
  | .callable kind unquoted name parameters =>
    .callable kind unquoted (name.place placement) (parameters.map (·.place placement))
  | .loop condition => .loop (condition.place placement)
  | .consequent kind condition => .consequent kind (condition.place placement)
  | .elseIf kind condition body clauses clauseStart clauseCondition =>
    .elseIf kind (condition.place placement) (Statement.crlfAll placement body)
      (ElseIf.crlfAll placement clauses) (placement.place clauseStart)
      (clauseCondition.place placement)
  | .alternate kind condition body clauses =>
    .alternate kind (condition.place placement) (Statement.crlfAll placement body)
      (ElseIf.crlfAll placement clauses)
  | .raw name parameters bodyStart lines =>
    .raw (name.place placement) (parameters.map (·.map (·.place placement)))
      (placement.place bodyStart) (lines.map (·.crlf placement))

def Frame.crlf (placement : Placement) (frame : Frame) : Frame where
  start := placement.place frame.start
  block := frame.block.crlf placement
  body := Statement.crlfAll placement frame.body

def Progress.crlf (placement : Placement) (progress : Progress) : Progress where
  finished := Statement.crlfAll placement progress.finished
  stack := progress.stack.map (·.crlf placement)

/-- What comes of reading the text with the other endings: the result carried over, or the report
placed. -/
def carry {α : Type} (move : α → α) (placement : Placement) :
    Except Diagnostic α → Except Diagnostic α
  | .ok value => .ok (move value)
  | .error diagnostic => .error (diagnostic.place placement)

section Replay

variable {placement : Placement} {line : Line}

theorem Header.place_shift {bound origin target : Nat}
    (slides : placement.Slides bound origin target) {header : Header}
    (inside : ∀ outline ∈ header.outlines, outline.Within bound) :
    (header.shift origin).place placement = header.shift target := by
  cases header with
  | callable kind unquoted name parameters =>
    simp only [Header.outlines, Located.nameOutline, Outline.within_mk, List.forall_mem_cons]
      at inside
    obtain ⟨⟨label, -⟩, listed⟩ := inside
    simp only [Header.shift, Header.place, Located.place_shift slides label,
      Parameter.map_place_shift slides listed]
  | branch kind condition =>
    have below := inside _ (List.mem_singleton_self _)
    simp only [Header.shift, Header.place, condition.place_shift slides below]
  | loop condition =>
    have below := inside _ (List.mem_singleton_self _)
    simp only [Header.shift, Header.place, condition.place_shift slides below]
  | defineLong name parameters =>
    simp only [Header.outlines, Located.nameOutline, Outline.within_mk, List.forall_mem_cons]
      at inside
    obtain ⟨⟨label, -⟩, listed⟩ := inside
    simp only [Header.shift, Header.place, Located.place_shift slides label,
      Parameter.mapOption_place_shift slides listed]

/-- What a line says is the same with another ending, at the place of the line. -/
theorem reading_crlf (fits : line.Fits placement) {completes : Bool} {found : Reading}
    {next : Cursor} (read : reading completes ⟨0, line.content⟩ = .read found next) :
    found.shift (line.crlf placement).start = (found.shift line.start).crlf placement := by
  have within := within_of_reading read
  cases found with
  | whole statement =>
    simp only [Reading.shift, Reading.crlf,
      Statement.crlf_shift fits.slides (isBlock_of_reading read) within]
    rfl
  | opens start header =>
    simp only [Reading.shift, Reading.crlf, Header.place_shift fits.slides within.2,
      fits.slides start within.1]
    rfl

theorem ending_crlf (fits : line.Fits placement) :
    (line.crlf placement).ending.completes = line.ending.completes ∧
      ((line.crlf placement).ending == .endOfText) = (line.ending == .endOfText) := by
  rcases fits.plain with ending | ending <;> simp only [Line.crlf, ending] <;> exact ⟨rfl, rfl⟩

/-- A failure on a line is reported at the same columns of the line with another ending. -/
theorem reportOn_crlf (fits : line.Fits placement) {failure : Failure} {taken : List Char}
    (stops : Cursor.Passes ⟨0, line.content⟩ taken failure.stopped) :
    reportOn (line.crlf placement) failure = (reportOn line failure).place placement := by
  simp only [reportOn, (ending_crlf fits).2]
  rw [Diagnostic.place_shift fits.slides (stop_le_of_mem_report stops.reach_content)]
  rfl

theorem Progress.add_crlf (statement : Statement) (progress : Progress) :
    (progress.crlf placement).add (statement.crlf placement) =
      (progress.add statement).crlf placement := by
  rcases progress with ⟨finished, _ | ⟨frame, outer⟩⟩ <;> rfl

theorem openFrame_crlf (fits : line.Fits placement) (start : Nat) (header : Header) :
    openFrame (line.crlf placement) (placement.place start) (header.place placement) =
      (openFrame line start header).crlf placement := by
  cases header with
  | defineLong name parameters =>
    simp only [openFrame, Header.place, Frame.crlf, OpenBlock.crlf, Statement.crlfAll, fits.stop,
      List.map_nil]
  | callable | branch | loop => rfl

theorem Progress.readLine_crlf (fits : line.Fits placement) (progress : Progress) :
    (progress.crlf placement).readLine (line.crlf placement) =
      carry (Progress.crlf placement) placement (progress.readLine line) := by
  have content : (line.crlf placement).content = line.content := rfl
  simp only [Progress.readLine, (ending_crlf fits).1, content]
  cases outcome : reading line.ending.completes ⟨0, line.content⟩ with
  | failed failure =>
    obtain ⟨taken, stops⟩ := (tracks_reading _).stops outcome
    simp only [reportOn_crlf fits stops, carry]
  | read found next =>
    simp only [reading_crlf fits outcome]
    cases found.shift line.start with
    | whole statement => simp only [Reading.crlf, carry, Progress.add_crlf]
    | opens start header =>
      simp only [Reading.crlf, carry, openFrame_crlf fits]
      rfl

theorem contentStop_crlf (fits : line.Fits placement) :
    (line.crlf placement).contentStop = placement.place line.contentStop := by
  have slid := fits.slides (byteLength line.content) (Nat.le_refl _)
  rw [Line.contentStop, Line.contentStop, Nat.add_comm line.start, slid, Nat.add_comm]
  rfl

/-- The body of a raw block keeps the endings of its lines. -/
theorem rawText_crlf {lines : List Line} (fits : ∀ line ∈ lines, line.Fits placement) :
    rawText (lines.map (·.crlf placement)) = Text.crlf (rawText lines) := by
  cases lines with
  | nil => rfl
  | cons last earlier =>
    rw [List.forall_mem_cons] at fits
    have chars : (earlier.reverse.map (·.crlf placement)).flatMap Line.chars =
        Text.crlf (earlier.reverse.flatMap Line.chars) :=
      Line.text_crlf fun line listed => fits.2 line (List.mem_reverse.mp listed)
    simp only [List.map_cons, rawText, ← List.map_reverse, chars, crlf_append,
      crlf_of_unbroken fits.1.unbroken]
    rfl

theorem rawStop_crlf {lines : List Line} (fits : ∀ line ∈ lines, line.Fits placement)
    (bodyStart : Nat) :
    rawStop (placement.place bodyStart) (lines.map (·.crlf placement)) =
      placement.place (rawStop bodyStart lines) := by
  cases lines with
  | nil => rfl
  | cons last earlier => exact contentStop_crlf (fits last List.mem_cons_self)

/-- A raw block ends at the same line, with the same lines in its body. -/
theorem readRaw_crlf (fits : line.Fits placement) {lines : List Line}
    (kept : ∀ line ∈ lines, line.Fits placement) (finished : List Statement) (frame : Frame)
    (outer : List Frame) (name : Located String) (parameters : Option (List Parameter))
    (bodyStart : Nat) :
    readRaw (Statement.crlfAll placement finished) (frame.crlf placement)
        (outer.map (·.crlf placement)) (name.place placement)
        (parameters.map (·.map (·.place placement))) (placement.place bodyStart)
        (lines.map (·.crlf placement)) (line.crlf placement) =
      (readRaw finished frame outer name parameters bodyStart lines line).crlf placement := by
  have content : (line.crlf placement).content = line.content := rfl
  simp only [readRaw, content, rawText_crlf kept, rawStop_crlf kept, contentStop_crlf fits]
  split
  · rw [← Progress.add_crlf]
    simp only [Statement.crlf, Located.crlf, Span.place_between, String.toList_ofList]
    rfl
  · rfl

/-- What a closing word does with the other endings: the same, placed. A condition that is still to
be read is placed before it is settled. -/
inductive Turn.Carried (placement : Placement) : Turn → Turn → Prop where
  | closes (statement : Statement) :
      Carried placement (.closes statement) (.closes (statement.crlf placement))
  | continues (block : OpenBlock) :
      Carried placement (.continues block) (.continues (block.crlf placement))
  | asks {settle settled : Expression → OpenBlock}
      (commutes : ∀ condition,
        settled (condition.place placement) = (settle condition).crlf placement) :
      Carried placement (.asks settle) (.asks settled)

/-- A word closes a block, or starts a new arm of it, with either ending. -/
theorem Frame.turn?_crlf (frame : Frame) (word : Located String) :
    Option.Rel (Turn.Carried placement) (frame.turn? word)
      ((frame.crlf placement).turn? (word.place placement)) := by
  rcases frame with ⟨start, block, body⟩
  have span : Span.between (placement.place start) (word.place placement).span.stop =
      (Span.between start word.span.stop).place placement :=
    (Span.place_between ..).symm
  have value : (word.place placement).value = word.value := rfl
  have reversed := Statement.crlfAll_reverse placement body
  cases block with
  | callable kind unquoted name parameters =>
    simp only [Frame.turn?, Frame.crlf, OpenBlock.crlf, value, span, ← reversed]
    split
    · exact .some (.closes (.callable ..))
    · exact .none
  | loop condition =>
    simp only [Frame.turn?, Frame.crlf, OpenBlock.crlf, value, span, ← reversed]
    split
    · exact .some (.closes (.loop ..))
    · exact .none
  | consequent kind condition =>
    simp only [Frame.turn?, Frame.crlf, OpenBlock.crlf, value, span, ← reversed]
    split
    · exact .some (.asks fun clauseCondition => rfl)
    · split
      · exact .some (.continues (.alternate ..))
      · split
        · exact .some (.closes (.branch ..))
        · exact .none
  | elseIf kind condition consequent clauses clauseStart clauseCondition =>
    have clause : ElseIf.crlfAll placement clauses ++
        [.mk (clauseCondition.place placement) (Statement.crlfAll placement body.reverse)
          (.between (placement.place clauseStart) (word.place placement).span.start)] =
        ElseIf.crlfAll placement
          (clauses ++
            [.mk clauseCondition body.reverse (.between clauseStart word.span.start)]) := by
      simp only [ElseIf.crlfAll_eq_map, List.map_append, List.map_cons, List.map_nil, ElseIf.crlf,
        Span.place_between]
      rfl
    simp only [Frame.turn?, Frame.crlf, OpenBlock.crlf, value, span, ← reversed, clause]
    split
    · exact .some (.asks fun clauseCondition => rfl)
    · split
      · exact .some (.continues (.alternate ..))
      · split
        · exact .some (.closes (.branch ..))
        · exact .none
  | alternate kind condition consequent clauses =>
    simp only [Frame.turn?, Frame.crlf, OpenBlock.crlf, value, span, ← reversed]
    split
    · exact .some (.closes (.branch ..))
    · exact .none
  | raw name parameters bodyStart lines => exact .none

theorem closingWord?_crlf (fits : line.Fits placement) :
    closingWord? (line.crlf placement) =
      (closingWord? line).map fun (word, behind) => (word.place placement, behind) := by
  have content : (line.crlf placement).content = line.content := rfl
  simp only [closingWord?, content]
  cases outcome : closingWord ⟨0, line.content⟩ with
  | failed failure => rfl
  | read word next =>
    obtain ⟨blanks, mark, text, lead, own, rfl⟩ := passes_of_closingWord outcome
    have inside : (Span.between mark.column next.column).stop ≤ byteLength line.content := by
      rw [Span.stop_between_of_le (own.column ▸ Nat.le_add_right ..),
        ← (lead.trans own).reach_content]
      exact Nat.le_add_right ..
    have placed : ((⟨String.ofList text, .between mark.column next.column⟩ : Located String).shift
        line.start).place placement = _ := Located.place_shift fits.slides inside
    simp only [Option.map_some, placed]
    rfl

/-- A closing word does the same with either ending; a condition behind it is read at the same
column. -/
theorem Turn.apply_crlf (fits : line.Fits placement) {turn turned : Turn}
    (carried : Turn.Carried placement turn turned) {word : Located String} {behind : Cursor}
    (closing : closingWord? line = some (word, behind)) (finished : List Statement) (frame : Frame)
    (outer : List Frame) :
    turned.apply (Statement.crlfAll placement finished) (frame.crlf placement)
        (outer.map (·.crlf placement)) (line.crlf placement) (word.place placement) behind =
      carry (Progress.crlf placement) placement
        (turn.apply finished frame outer line word behind) := by
  cases carried with
  | closes statement =>
    simp only [Turn.apply, carry, ← Progress.add_crlf]
    rfl
  | continues block => rfl
  | @asks settle settled commutes =>
    obtain ⟨before, own, -, passes, span⟩ := passes_of_closingWord? closing
    have total := passes.reach_content
    have reached : behind.column = 0 + byteLength (before ++ own) := passes.column
    rw [Nat.zero_add, byteLength_append] at reached
    have column : (word.place placement).span.start - (line.crlf placement).start =
        word.span.start - line.start := by
      have start : word.span.start = byteLength before + line.start := by
        rw [span, Span.start_between_of_le (Nat.le_add_right ..), Nat.add_comm]
      have slid := fits.slides (byteLength before) (by omega)
      have placed : (word.place placement).span.start =
          byteLength before + placement.place line.start := by
        rw [← slid, ← start]
        rfl
      rw [placed, start, Nat.add_sub_cancel]
      exact Nat.add_sub_cancel ..
    simp only [Turn.apply, column, (ending_crlf fits).1]
    cases outcome : Reader.directiveRest (word.span.start - line.start) .unexpectedToken
        (conditionRest .holds line.ending.completes) behind with
    | failed failure =>
      obtain ⟨taken, stops⟩ := ((tracks_conditionRest _ .holds).directiveRest _ _).stops outcome
      simp only [reportOn_crlf fits (passes.trans stops), carry]
    | read condition next =>
      obtain ⟨taken, holds, inTurn⟩ :=
        spells_conditionRest _ _ (Reader.directiveRest_eq_read.mp outcome)
      have reaches := (passes.trans holds).reach_content
      have ends : next.column = behind.column + byteLength taken := holds.column
      have inside := inTurn.within (show _ ≤ byteLength line.content by omega) _
        (List.mem_singleton_self _)
      have placed : condition.shift (line.crlf placement).start =
          (condition.shift line.start).place placement :=
        (condition.place_shift fits.slides inside).symm
      simp only [placed, commutes, carry]
      rfl

theorem OpenBlock.isRaw_crlf (block : OpenBlock) :
    (block.crlf placement).IsRaw ↔ block.IsRaw := by
  cases block <;> simp [OpenBlock.IsRaw, OpenBlock.crlf]

/-- The lines of an open raw block are among the lines that have been read. -/
theorem Progress.Made.mem_of_raw {finished : List Statement} {frame : Frame} {outer : List Frame}
    {lines raws : List Line} {name : Located String} {parameters : Option (List Parameter)}
    {bodyStart : Nat} (made : Progress.Made ⟨finished, frame :: outer⟩ lines)
    (block : frame.block = .raw name parameters bodyStart raws) : ∀ raw ∈ raws, raw ∈ lines := by
  cases made with
  | plain done stacked =>
    cases stacked with
    | inner around made => cases made <;> cases block
  | raw done stacked opens kept =>
    cases block
    intro raw listed
    simp only [List.mem_append, List.mem_cons, List.mem_reverse]
    exact .inr (.inr (.inr listed))

/-- One line is read with either ending alike. -/
theorem Progress.step_crlf (fits : line.Fits placement) {progress : Progress} {lines : List Line}
    (made : progress.Made lines) (earlier : ∀ line ∈ lines, line.Fits placement) :
    (progress.crlf placement).step (line.crlf placement) =
      carry (Progress.crlf placement) placement (progress.step line) := by
  rcases progress with ⟨finished, _ | ⟨frame, outer⟩⟩
  · exact Progress.readLine_crlf fits ⟨finished, []⟩
  · have alone := Progress.readLine_crlf fits ⟨finished, frame :: outer⟩
    by_cases raw : frame.block.IsRaw
    · obtain ⟨name, parameters, bodyStart, raws, block⟩ := raw
      have placed : (frame.crlf placement).block = .raw (name.place placement)
          (parameters.map (·.map (·.place placement))) (placement.place bodyStart)
          (raws.map (·.crlf placement)) := congrArg (OpenBlock.crlf placement) block
      rw [Progress.step_of_raw finished outer line block]
      refine (Progress.step_of_raw _ (outer.map (·.crlf placement)) _ placed).trans ?_
      have kept : ∀ line ∈ raws, line.Fits placement := fun line listed =>
        earlier line (made.mem_of_raw block line listed)
      exact congrArg Except.ok (readRaw_crlf fits kept ..)
    · have placed : ¬(frame.crlf placement).block.IsRaw := fun other =>
        raw ((OpenBlock.isRaw_crlf frame.block).mp other)
      rw [Progress.step_of_not_raw finished outer line raw]
      refine (Progress.step_of_not_raw _ (outer.map (·.crlf placement)) _ placed).trans ?_
      rw [closingWord?_crlf fits]
      cases closing : closingWord? line with
      | none => exact alone
      | some found =>
        rcases found with ⟨word, behind⟩
        have turn : Option.Rel (Turn.Carried placement) _ _ := frame.turn?_crlf word
        simp only [Option.map_some]
        generalize (frame.crlf placement).turn? (word.place placement) = turned at turn ⊢
        generalize frame.turn? word = turned' at turn ⊢
        cases turn with
        | none => exact alone
        | some carried => exact Turn.apply_crlf fits carried closing ..

/-- A whole run goes the same way with either ending. -/
theorem Progress.foldlM_step_crlf {progress : Progress} {lines : List Line}
    (made : progress.Made lines) (earlier : ∀ line ∈ lines, line.Fits placement)
    {more : List Line} (fits : ∀ line ∈ more, line.Fits placement) :
    (more.map (·.crlf placement)).foldlM Progress.step (progress.crlf placement) =
      carry (Progress.crlf placement) placement (more.foldlM Progress.step progress) := by
  induction more generalizing progress lines with
  | nil => rfl
  | cons line rest ih =>
    rw [List.forall_mem_cons] at fits
    simp only [List.map_cons, List.foldlM_cons, Progress.step_crlf fits.1 made earlier]
    cases outcome : progress.step line with
    | error diagnostic => rfl
    | ok next =>
      refine ih (made.step outcome) ?_ fits.2
      rw [List.forall_mem_append]
      exact ⟨earlier, List.forall_mem_singleton.mpr fits.1⟩

theorem unterminated_crlf (frame : Frame) (stop : Nat) :
    unterminated (frame.crlf placement) (placement.place stop) =
      (unterminated frame stop).place placement := by
  have awaited : (frame.block.crlf placement).awaited = frame.block.awaited := by
    cases frame.block with
    | callable kind unquoted name parameters => cases kind <;> rfl
    | _ => rfl
  by_cases behind : frame.start < stop
  · have placed := placement.ordered behind
    simp [unterminated, report, firstClue, Frame.crlf, awaited, behind, placed, Diagnostic.place,
      Label.place, Span.place_between]
  · have placed : ¬placement.place frame.start < placement.place stop :=
      fun before => behind (placement.lt_iff.mp before)
    simp [unterminated, report, firstClue, Frame.crlf, awaited, behind, placed, Diagnostic.place,
      Label.place, Span.place_between]

theorem Progress.finish_crlf (progress : Progress) (stop : Nat) :
    (progress.crlf placement).finish (placement.place stop) =
      carry (Statement.crlfAll placement) placement (progress.finish stop) := by
  rcases progress with ⟨finished, _ | ⟨frame, outer⟩⟩
  · simp only [Progress.crlf, Progress.finish, List.map_nil, carry, Statement.crlfAll_reverse]
  · simp only [Progress.crlf, Progress.finish, List.map_cons, unterminated_crlf, carry]

end Replay

/-- The statements of a text with a carriage return before every line feed. -/
theorem statements_crlf {source : List Char} (plain : '\r' ∉ source) :
    statements (Text.crlf source) =
      carry (Statement.crlfAll (crlfPlacement source)) (crlfPlacement source)
        (statements source) := by
  have fits : ∀ line ∈ Line.split source, line.Fits (crlfPlacement source) := fun line member =>
    Line.fits_of_mem_split plain member
  have nothing : Progress.initial.Made [] := .plain allMade_reverse_nil .nil
  have run : ((Line.split source).map (·.crlf (crlfPlacement source))).foldlM Progress.step
      Progress.initial = _ := Progress.foldlM_step_crlf nothing nofun fits
  rw [statements, statements, Line.split_crlf plain, ← place_byteLength, run]
  cases (Line.split source).foldlM Progress.step Progress.initial with
  | error diagnostic => rfl
  | ok progress => exact Progress.finish_crlf progress (byteLength source)

end Grammar

/-- Line endings do not matter. With a carriage return before every line feed, a text that had none
parses exactly if it did before, into the same tree with both ends of every span moved on by the
number of line feeds before them, and with the bodies of raw blocks rewritten; otherwise the same
diagnostic is reported, with the ends of its labels moved in the same way. -/
theorem parse_crlf {source : String} (plain : '\r' ∉ source.toList) :
    parse (String.ofList (Text.crlf source.toList)) =
      match parse source with
      | .ok root => .ok (root.crlf (crlfPlacement source.toList))
      | .error error => .error (error.place (crlfPlacement source.toList)) := by
  have span : Span.between 0 (byteLength (Text.crlf source.toList)) =
      (Span.between 0 (byteLength source.toList)).place (crlfPlacement source.toList) := by
    rw [Span.place_between, place_zero, place_byteLength]
  simp only [parse, String.toList_ofList, Grammar.statements_crlf plain, span]
  cases Grammar.statements source.toList with
  | error diagnostic => rfl
  | ok statements => rfl

/-- Both outcomes: a raw block behind a character of two bytes, and a condition that is missing. -/
theorem parse_crlf_raw_block :
    (∃ root, parse "é\n!definelong M\na\nb\n!enddefinelong" = .ok root ∧
      parse "é\r\n!definelong M\r\na\r\nb\r\n!enddefinelong" =
        .ok (root.crlf (crlfPlacement "é\n!definelong M\na\nb\n!enddefinelong".toList))) ∧
      parse "A\n!while\n" =
        .error ⟨[⟨some .unexpectedToken, "unexpected token: expected condition",
          [⟨true, .between 8 8, "unexpected token"⟩,
            ⟨false, .between 2 8, "while parsing this"⟩],
          some "check the directive syntax"⟩]⟩ ∧
      parse "A\r\n!while\r\n" =
        .error ⟨[⟨some .unexpectedToken, "unexpected token: expected condition",
          [⟨true, .between 9 9, "unexpected token"⟩,
            ⟨false, .between 3 9, "while parsing this"⟩],
          some "check the directive syntax"⟩]⟩ := by
  obtain ⟨root, parsed⟩ : ∃ root,
      parse "é\n!definelong M\na\nb\n!enddefinelong" = .ok root := by decide +kernel
  have block : '\r' ∉ "é\n!definelong M\na\nb\n!enddefinelong".toList := by decide +kernel
  have written := parse_crlf block
  rw [parsed] at written
  have failed : parse "A\n!while\n" =
      .error ⟨[⟨some .unexpectedToken, "unexpected token: expected condition",
        [⟨true, .between 8 8, "unexpected token"⟩, ⟨false, .between 2 8, "while parsing this"⟩],
        some "check the directive syntax"⟩]⟩ := by decide +kernel
  have loop : '\r' ∉ "A\n!while\n".toList := by decide +kernel
  have reported := parse_crlf loop
  rw [failed] at reported
  exact ⟨⟨root, parsed, written⟩, failed, reported⟩

end DiagramAssist
