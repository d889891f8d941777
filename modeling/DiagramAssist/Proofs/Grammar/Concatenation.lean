import DiagramAssist.Document.Parse
import DiagramAssist.Proofs.Document.Shift
import DiagramAssist.Proofs.Line.Split

/-! # Parsing an append

Reading a line depends on the document only through the innermost open block and through the place
of the line. A run over the lines of a text can therefore be replayed further down a document,
behind statements that are already finished: every state of the replay is the state of the run,
moved, with the finished statements below it (`Progress.step_after`), and this goes for failures,
which are reported with moved labels. A text of whole lines that parses leaves no block open, so the
text behind it is read as it would be read alone (`parse_append`).
-/

namespace DiagramAssist.Grammar

/-- The reading twice moved. -/
theorem Reading.shift_shift (first second : Nat) (reading : Reading) :
    (reading.shift first).shift second = reading.shift (first + second) := by
  cases reading with
  | whole statement => simp only [Reading.shift, Statement.shift_shift]
  | opens start header =>
    cases header <;> simp only [Reading.shift, Header.shift, Located.shift_shift,
      Parameter.map_shift_shift, Parameter.mapOption_shift_shift, Expression.shift_shift,
      Nat.add_assoc]

/-- The block with everything settled of it moved. -/
def OpenBlock.shift (distance : Nat) : OpenBlock → OpenBlock
  | .callable kind unquoted name parameters =>
    .callable kind unquoted (name.shift distance) (parameters.map (·.shift distance))
  | .loop condition => .loop (condition.shift distance)
  | .consequent kind condition => .consequent kind (condition.shift distance)
  | .elseIf kind condition body clauses clauseStart clauseCondition =>
    .elseIf kind (condition.shift distance) (Statement.shiftAll distance body)
      (ElseIf.shiftAll distance clauses) (clauseStart + distance) (clauseCondition.shift distance)
  | .alternate kind condition body clauses =>
    .alternate kind (condition.shift distance) (Statement.shiftAll distance body)
      (ElseIf.shiftAll distance clauses)
  | .raw name parameters bodyStart lines =>
    .raw (name.shift distance) (parameters.map (·.map (·.shift distance))) (bodyStart + distance)
      (lines.map (·.shift distance))

/-- Whether the lines of a block are kept as they are, and not read. -/
def OpenBlock.IsRaw (block : OpenBlock) : Prop :=
  ∃ name parameters bodyStart lines, block = .raw name parameters bodyStart lines

theorem OpenBlock.isRaw_shift (distance : Nat) (block : OpenBlock) :
    (block.shift distance).IsRaw ↔ block.IsRaw := by
  cases block <;> simp [OpenBlock.IsRaw, OpenBlock.shift]

/-- A line inside a raw block. -/
theorem Progress.step_of_raw {frame : Frame} {name : Located String}
    {parameters : Option (List Parameter)} {bodyStart : Nat} {lines : List Line}
    (finished : List Statement) (outer : List Frame) (line : Line)
    (block : frame.block = .raw name parameters bodyStart lines) :
    Progress.step ⟨finished, frame :: outer⟩ line =
      .ok (readRaw finished frame outer name parameters bodyStart lines line) := by
  simp only [Progress.step, block]

/-- A line inside any other block: a closing word of the block, or a line like any other. -/
theorem Progress.step_of_not_raw {frame : Frame} (finished : List Statement) (outer : List Frame)
    (line : Line) (block : ¬frame.block.IsRaw) :
    Progress.step ⟨finished, frame :: outer⟩ line =
      match closingWord? line with
      | none => Progress.readLine ⟨finished, frame :: outer⟩ line
      | some (word, behind) =>
        match frame.turn? word with
        | none => Progress.readLine ⟨finished, frame :: outer⟩ line
        | some turn => turn.apply finished frame outer line word behind := by
  rcases frame with ⟨start, found, body⟩
  cases found with
  | raw name parameters bodyStart lines => exact absurd ⟨_, _, _, _, rfl⟩ block
  | _ => rfl

def Frame.shift (distance : Nat) (frame : Frame) : Frame where
  start := frame.start + distance
  block := frame.block.shift distance
  body := Statement.shiftAll distance frame.body

/-- The progress further down a document whose finished statements so far are `earlier`, the last
one first. -/
def Progress.after (earlier : List Statement) (distance : Nat) (progress : Progress) :
    Progress where
  finished := Statement.shiftAll distance progress.finished ++ earlier
  stack := progress.stack.map (·.shift distance)

/-- What comes of reading further down the document: the result moved, or the report moved. -/
def relocate {α : Type} (move : α → α) (distance : Nat) :
    Except Diagnostic α → Except Diagnostic α
  | .ok value => .ok (move value)
  | .error diagnostic => .error (diagnostic.shift distance)

section Replay

variable (earlier : List Statement) (distance : Nat)

theorem Progress.add_after (statement : Statement) (progress : Progress) :
    (progress.after earlier distance).add (statement.shift distance) =
      (progress.add statement).after earlier distance := by
  rcases progress with ⟨finished, _ | ⟨frame, outer⟩⟩ <;> rfl

theorem openFrame_shift (line : Line) (start : Nat) (header : Header) :
    openFrame (line.shift distance) (start + distance) (header.shift distance) =
      (openFrame line start header).shift distance := by
  cases header <;>
    simp only [openFrame, Header.shift, Frame.shift, OpenBlock.shift, Statement.shiftAll,
      Line.stop_shift, List.map_nil]

/-- A report is located by the line it is about. -/
theorem reportOn_shift (line : Line) (failure : Failure) :
    reportOn (line.shift distance) failure = (reportOn line failure).shift distance := by
  simp only [reportOn, Diagnostic.shift_shift]
  rfl

theorem Progress.readLine_after (progress : Progress) (line : Line) :
    (progress.after earlier distance).readLine (line.shift distance) =
      relocate (Progress.after earlier distance) distance (progress.readLine line) := by
  simp only [Progress.readLine, Line.ending_shift, Line.content_shift]
  cases reading line.ending.completes ⟨0, line.content⟩ with
  | failed failure => simp only [reportOn_shift, relocate]
  | read found next =>
    have moved : found.shift (line.shift distance).start =
        (found.shift line.start).shift distance := by
      rw [Reading.shift_shift]
      rfl
    simp only [moved]
    cases found.shift line.start with
    | whole statement => simp only [Reading.shift, relocate, Progress.add_after]
    | opens start header =>
      simp only [Reading.shift, relocate, openFrame_shift]
      rfl

/-- A raw block ends, and takes its lines, where it does further up. -/
theorem readRaw_after (finished : List Statement) (frame : Frame) (outer : List Frame)
    (name : Located String) (parameters : Option (List Parameter)) (bodyStart : Nat)
    (lines : List Line) (line : Line) :
    readRaw (Statement.shiftAll distance finished ++ earlier) (frame.shift distance)
        (outer.map (·.shift distance)) (name.shift distance)
        (parameters.map (·.map (·.shift distance))) (bodyStart + distance)
        (lines.map (·.shift distance)) (line.shift distance) =
      (readRaw finished frame outer name parameters bodyStart lines line).after earlier
        distance := by
  have text : rawText (lines.map (·.shift distance)) = rawText lines := by
    cases lines with
    | nil => rfl
    | cons last rest =>
      simp only [List.map_cons, rawText, ← List.map_reverse, List.flatMap_map, Line.chars_shift,
        Line.content_shift]
  have stop : rawStop (bodyStart + distance) (lines.map (·.shift distance)) =
      rawStop bodyStart lines + distance := by
    cases lines with
    | nil => rfl
    | cons last rest => simp only [List.map_cons, rawStop, Line.contentStop_shift]
  simp only [readRaw, Line.content_shift, text, stop, Line.contentStop_shift]
  split
  · rw [← Progress.add_after]
    simp only [Statement.shift, Located.shift, Span.shift_between]
    rfl
  · rfl

/-- What a closing word does further down: the same, moved. A condition that is still to be read
is moved before it is settled. -/
inductive Turn.Moved : Turn → Turn → Prop where
  | closes (statement : Statement) : Moved (.closes statement) (.closes (statement.shift distance))
  | continues (block : OpenBlock) : Moved (.continues block) (.continues (block.shift distance))
  | asks {settle settled : Expression → OpenBlock}
      (commutes : ∀ condition,
        settled (condition.shift distance) = (settle condition).shift distance) :
      Moved (.asks settle) (.asks settled)

/-- A word closes a block, or starts a new arm of it, wherever the block stands. -/
theorem Frame.turn?_shift (frame : Frame) (word : Located String) :
    Option.Rel (Turn.Moved distance) (frame.turn? word)
      ((frame.shift distance).turn? (word.shift distance)) := by
  rcases frame with ⟨start, block, body⟩
  have span : Span.between (start + distance) (word.shift distance).span.stop =
      (Span.between start word.span.stop).shift distance :=
    (Span.shift_between ..).symm
  have reversed := Statement.shiftAll_reverse distance body
  cases block with
  | callable kind unquoted name parameters =>
    simp only [Frame.turn?, Frame.shift, OpenBlock.shift, Located.value_shift, span, ← reversed]
    split
    · exact .some (.closes (.callable ..))
    · exact .none
  | loop condition =>
    simp only [Frame.turn?, Frame.shift, OpenBlock.shift, Located.value_shift, span, ← reversed]
    split
    · exact .some (.closes (.loop ..))
    · exact .none
  | consequent kind condition =>
    simp only [Frame.turn?, Frame.shift, OpenBlock.shift, Located.value_shift, span, ← reversed]
    split
    · exact .some (.asks fun clauseCondition => rfl)
    · split
      · exact .some (.continues (.alternate ..))
      · split
        · exact .some (.closes (.branch ..))
        · exact .none
  | elseIf kind condition consequent clauses clauseStart clauseCondition =>
    have clause : ElseIf.shiftAll distance clauses ++
        [.mk (clauseCondition.shift distance) (Statement.shiftAll distance body.reverse)
          (.between (clauseStart + distance) (word.shift distance).span.start)] =
        ElseIf.shiftAll distance
          (clauses ++
            [.mk clauseCondition body.reverse (.between clauseStart word.span.start)]) := by
      simp only [ElseIf.shiftAll_eq_map, List.map_append, List.map_cons, List.map_nil, ElseIf.shift,
        Span.shift_between]
      rfl
    simp only [Frame.turn?, Frame.shift, OpenBlock.shift, Located.value_shift, span, ← reversed,
      clause]
    split
    · exact .some (.asks fun clauseCondition => rfl)
    · split
      · exact .some (.continues (.alternate ..))
      · split
        · exact .some (.closes (.branch ..))
        · exact .none
  | alternate kind condition consequent clauses =>
    simp only [Frame.turn?, Frame.shift, OpenBlock.shift, Located.value_shift, span, ← reversed]
    split
    · exact .some (.closes (.branch ..))
    · exact .none
  | raw name parameters bodyStart lines => exact .none

theorem closingWord?_shift (line : Line) :
    closingWord? (line.shift distance) =
      (closingWord? line).map fun (word, behind) => (word.shift distance, behind) := by
  simp only [closingWord?, Line.content_shift]
  cases closingWord ⟨0, line.content⟩ with
  | failed failure => rfl
  | read word next =>
    simp only [Option.map_some, Located.shift_shift]
    rfl

theorem Turn.apply_after {turn turned : Turn} (moved : Turn.Moved distance turn turned)
    (finished : List Statement) (frame : Frame) (outer : List Frame) (line : Line)
    (word : Located String) (behind : Cursor) :
    turned.apply (Statement.shiftAll distance finished ++ earlier) (frame.shift distance)
        (outer.map (·.shift distance)) (line.shift distance) (word.shift distance) behind =
      relocate (Progress.after earlier distance) distance
        (turn.apply finished frame outer line word behind) := by
  cases moved with
  | closes statement =>
    simp only [Turn.apply, relocate, ← Progress.add_after]
    rfl
  | continues block => rfl
  | @asks settle settled commutes =>
    -- The condition is read off the line, so its column does not depend on where the line stands.
    have column : (word.shift distance).span.start - (line.shift distance).start =
        word.span.start - line.start := Nat.add_sub_add_right ..
    simp only [Turn.apply, column, Line.ending_shift]
    cases Reader.directiveRest (word.span.start - line.start) .unexpectedToken
        (conditionRest .holds line.ending.completes) behind with
    | failed failure => simp only [reportOn_shift, relocate]
    | read condition next =>
      have moved : condition.shift (line.shift distance).start =
          (condition.shift line.start).shift distance := by
        rw [Expression.shift_shift]
        rfl
      simp only [moved, commutes, relocate]
      rfl

/-- One line read behind other statements, further down, is that line read alone, moved. -/
theorem Progress.step_after (progress : Progress) (line : Line) :
    (progress.after earlier distance).step (line.shift distance) =
      relocate (Progress.after earlier distance) distance (progress.step line) := by
  rcases progress with ⟨finished, _ | ⟨frame, outer⟩⟩
  · exact Progress.readLine_after earlier distance ⟨finished, []⟩ line
  · have alone := Progress.readLine_after earlier distance ⟨finished, frame :: outer⟩ line
    by_cases raw : frame.block.IsRaw
    · obtain ⟨name, parameters, bodyStart, lines, block⟩ := raw
      have shifted : (frame.shift distance).block = .raw (name.shift distance)
          (parameters.map (·.map (·.shift distance))) (bodyStart + distance)
          (lines.map (·.shift distance)) := congrArg (OpenBlock.shift distance) block
      rw [Progress.step_of_raw finished outer line block]
      refine (Progress.step_of_raw _ (outer.map (·.shift distance)) _ shifted).trans ?_
      exact congrArg Except.ok (readRaw_after ..)
    · have shifted : ¬(frame.shift distance).block.IsRaw := fun moved =>
        raw ((OpenBlock.isRaw_shift distance frame.block).mp moved)
      rw [Progress.step_of_not_raw finished outer line raw]
      refine (Progress.step_of_not_raw _ (outer.map (·.shift distance)) _ shifted).trans ?_
      rw [closingWord?_shift]
      cases closingWord? line with
      | none => exact alone
      | some found =>
        rcases found with ⟨word, behind⟩
        have turn := frame.turn?_shift distance word
        simp only [Option.map_some]
        generalize (frame.shift distance).turn? (word.shift distance) = turned at turn ⊢
        generalize frame.turn? word = turned' at turn ⊢
        cases turn with
        | none => exact alone
        | some moved => exact Turn.apply_after earlier distance moved ..

/-- A whole run behind other statements, further down, is the run alone, moved. -/
theorem Progress.foldlM_step_after (lines : List Line) (progress : Progress) :
    (lines.map (·.shift distance)).foldlM Progress.step (progress.after earlier distance) =
      relocate (Progress.after earlier distance) distance
        (lines.foldlM Progress.step progress) := by
  induction lines generalizing progress with
  | nil => rfl
  | cons line rest ih =>
    simp only [List.map_cons, List.foldlM_cons, Progress.step_after]
    cases progress.step line with
    | error diagnostic => rfl
    | ok next => exact ih next

theorem unterminated_shift (frame : Frame) (stop : Nat) :
    unterminated (frame.shift distance) (stop + distance) =
      (unterminated frame stop).shift distance := by
  have awaited : (frame.block.shift distance).awaited = frame.block.awaited := by
    cases frame.block with
    | callable kind unquoted name parameters => cases kind <;> rfl
    | _ => rfl
  by_cases behind : frame.start < stop
  · simp [unterminated, report, firstClue, Frame.shift, awaited, behind, Diagnostic.shift,
      Label.shift, Span.shift_between]
  · simp [unterminated, report, firstClue, Frame.shift, awaited, behind, Diagnostic.shift,
      Label.shift, Span.shift_between]

/-- The end of the document is the end of the text, wherever the text stands. -/
theorem Progress.finish_after (progress : Progress) (stop : Nat) :
    (progress.after earlier distance).finish (stop + distance) =
      relocate (fun later => earlier.reverse ++ Statement.shiftAll distance later) distance
        (progress.finish stop) := by
  rcases progress with ⟨finished, _ | ⟨frame, outer⟩⟩
  · simp only [Progress.after, Progress.finish, List.map_nil, List.reverse_append, relocate,
      Statement.shiftAll_reverse]
  · simp only [Progress.after, Progress.finish, List.map_cons, unterminated_shift, relocate]

end Replay

/-- A text that parses leaves no block open. -/
theorem foldlM_step_of_statements {text : List Char} {found : List Statement}
    (parsed : statements text = .ok found) :
    (Line.split text).foldlM Progress.step Progress.initial = .ok ⟨found.reverse, []⟩ := by
  simp only [statements] at parsed
  cases run : (Line.split text).foldlM Progress.step Progress.initial with
  | error diagnostic =>
    rw [run] at parsed
    cases parsed
  | ok progress =>
    rw [run] at parsed
    rcases progress with ⟨finished, _ | ⟨frame, outer⟩⟩
    · have same : finished.reverse = found := Except.ok.inj parsed
      rw [← same, List.reverse_reverse]
    · cases parsed

/-- Behind whole lines that parse, a text is read as it is read alone. -/
theorem statements_append {first : List Char} {found : List Statement}
    (whole : Line.AreWhole first) (parsed : statements first = .ok found) (second : List Char) :
    statements (first ++ second) =
      relocate (fun later => found ++ Statement.shiftAll (Text.byteLength first) later)
        (Text.byteLength first) (statements second) := by
  have replay := Progress.foldlM_step_after found.reverse (Text.byteLength first)
    (Line.split second) Progress.initial
  have start : Progress.initial.after found.reverse (Text.byteLength first) =
      ⟨found.reverse, []⟩ := rfl
  rw [start] at replay
  simp only [statements, Line.split_append whole, List.foldlM_append,
    foldlM_step_of_statements parsed, Text.byteLength_append]
  change ((Line.split second).map (·.shift (Text.byteLength first))).foldlM Progress.step
      ⟨found.reverse, []⟩ >>= _ = _
  rw [replay]
  cases (Line.split second).foldlM Progress.step Progress.initial with
  | error diagnostic => rfl
  | ok progress =>
    have finish := Progress.finish_after found.reverse (Text.byteLength first) progress
      (Text.byteLength second)
    rw [List.reverse_reverse, Nat.add_comm] at finish
    exact finish

end DiagramAssist.Grammar

namespace DiagramAssist

/-- The concatenation law. Behind a text that is empty or ends with a line feed and that parses, any
text is parsed as it is alone: its statements follow those of the first text, or its diagnostics are
reported, with every span moved by the bytes of the first text. -/
theorem parse_append {first : String} {root : Root}
    (whole : first = "" ∨ first.toList.getLast? = some '\n') (parsed : parse first = .ok root)
    (second : String) :
    parse (first ++ second) =
      match parse second with
      | .ok later =>
        .ok ⟨root.statements ++ Statement.shiftAll (Text.byteLength first.toList) later.statements,
          .between 0 (Text.byteLength (first ++ second).toList)⟩
      | .error error => .error (error.shift (Text.byteLength first.toList)) := by
  have lines : Line.AreWhole first.toList := by
    rcases whole with rfl | last
    · exact .inl rfl
    · exact .inr last
  have statements : Grammar.statements first.toList = .ok root.statements := by
    simp only [parse] at parsed
    cases found : Grammar.statements first.toList with
    | error diagnostic =>
      rw [found] at parsed
      cases parsed
    | ok statements =>
      rw [found] at parsed
      cases parsed
      rfl
  simp only [parse, String.toList_append, Grammar.statements_append lines statements]
  cases Grammar.statements second.toList with
  | error diagnostic => rfl
  | ok later => rfl

/-- Both outcomes behind a block that holds a character of two bytes. -/
theorem parse_append_behind_block :
    ∃ root, parse "!ifdef A\né\n!endif\n" = .ok root ∧
      parse ("!ifdef A\né\n!endif\n" ++ "B\n") =
        .ok ⟨root.statements ++ [.text "B" (.between 19 20)], .between 0 21⟩ ∧
      parse ("!ifdef A\né\n!endif\n" ++ "!while\n") =
        .error ⟨[⟨some .unexpectedToken, "unexpected token: expected condition",
          [⟨true, .between 25 25, "unexpected token"⟩,
            ⟨false, .between 19 25, "while parsing this"⟩],
          some "check the directive syntax"⟩]⟩ := by
  obtain ⟨root, parsed⟩ : ∃ root, parse "!ifdef A\né\n!endif\n" = .ok root := by decide +kernel
  have text : parse "B\n" = .ok ⟨[.text "B" (.between 0 1)], .between 0 2⟩ := by rfl
  have loop : parse "!while\n" =
      .error ⟨[⟨some .unexpectedToken, "unexpected token: expected condition",
        [⟨true, .between 6 6, "unexpected token"⟩, ⟨false, .between 0 6, "while parsing this"⟩],
        some "check the directive syntax"⟩]⟩ := by decide +kernel
  refine ⟨root, parsed, ?_, ?_⟩
  · rw [parse_append (.inr (by decide +kernel)) parsed, text]
    rfl
  · rw [parse_append (.inr (by decide +kernel)) parsed, loop]
    rfl

end DiagramAssist
