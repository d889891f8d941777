import DiagramAssist.Proofs.Grammar.Blame
import DiagramAssist.Proofs.Grammar.Assembly
import DiagramAssist.Proofs.Grammar.LineSpelling
import DiagramAssist.Proofs.Line.Joined
import DiagramAssist.Proofs.Text.Slice

/-! # Where a failed parse is reported

A document that does not parse gets one report. Its two labels mark neighbouring pieces of the
source: the construct that was being read, and the character in front of which reading stopped. On a
line, the construct is what the failure blames (`Failure.IsBlamed`), and the line stands between the
lines before it and those behind it (`Line.Stands`). A block that is never closed is blamed from its
opening directive to the end of the source.
-/

namespace DiagramAssist

open Grammar

namespace Text

/-- What a report points at: the next character of the line, or nothing where the line ends. -/
def pointedAt : List Char → List Char
  | c :: _ => if c = '\n' ∨ c = '\r' then [] else [c]
  | [] => []

theorem byteLength_pointedAt_cons (c : Char) (rest : List Char) :
    byteLength (pointedAt (c :: rest)) = if c = '\n' || c = '\r' then 0 else c.utf8Size := by
  simp only [pointedAt, Bool.or_eq_true, decide_eq_true_eq]
  split <;> rfl

theorem exists_eq_pointedAt_append (text : List Char) : ∃ more, text = pointedAt text ++ more := by
  cases text with
  | nil => exact ⟨[], rfl⟩
  | cons c rest =>
    simp only [pointedAt]
    split
    · exact ⟨c :: rest, rfl⟩
    · exact ⟨rest, rfl⟩

theorem pointedAt_of_atLineEnd {text : List Char} (ends : AtLineEnd text) :
    pointedAt text = [] := by
  cases text with
  | nil => rfl
  | cons c rest => exact if_pos (ends c rfl)

/-- The end of a line does not change what is pointed at inside the line. -/
theorem pointedAt_append {text behind : List Char} (ends : AtLineEnd behind) :
    pointedAt (text ++ behind) = pointedAt text := by
  cases text with
  | nil => exact pointedAt_of_atLineEnd ends
  | cons c rest => rfl

theorem AtLineEnd.append {text behind : List Char} (own : AtLineEnd text)
    (ends : AtLineEnd behind) : AtLineEnd (text ++ behind) := by
  cases text with
  | nil => exact ends
  | cons c rest => exact own

theorem byteLength_pos {text : List Char} (present : text ≠ []) : 0 < byteLength text := by
  obtain ⟨c, rest, rfl⟩ := List.exists_cons_of_ne_nil present
  exact Nat.lt_of_lt_of_le c.utf8Size_pos (Nat.le_add_right ..)

end Text

/-! ## What a report says -/

/-- The diagnostic has a fault and a suggestion. Its primary label marks the `width` bytes in front
of which reading stopped, and its secondary label marks what has been read from `start` on. -/
structure Diagnostic.Marks (diagnostic : Diagnostic) (fault : Fault) (start position width : Nat) :
    Prop where
  charged : diagnostic.fault = some fault
  helped : ∃ help, diagnostic.help = some help
  labelled : diagnostic.labels =
    [⟨true, .between position (position + width), fault.description⟩,
      ⟨false, .between start position, "while parsing this"⟩]

theorem Diagnostic.Marks.shift {diagnostic : Diagnostic} {fault : Fault}
    {start position width : Nat} (marks : diagnostic.Marks fault start position width)
    (distance : Nat) : (diagnostic.shift distance).Marks fault (start + distance)
      (position + distance) width where
  charged := marks.charged
  helped := marks.helped
  labelled := by
    simp only [Diagnostic.shift, marks.labelled, List.map_cons, List.map_nil, Label.shift,
      Span.shift_between, Nat.add_right_comm]

/-- The fault as it is reported: a token that is missing at the end of the text is no token. -/
def Fault.settled (fault : Fault) (atEnd : Bool) : Fault :=
  if fault = .unexpectedToken && atEnd then .incompleteInput else fault

namespace Grammar

variable {failure : Failure} (atEnd : Bool)

theorem fault_report :
    (report failure atEnd).fault =
      some ((failure.fault?.getD .unexpectedToken).settled atEnd) := rfl

/-- The report of a failure that has been charged and that blames something it has read. -/
theorem marks_report {fault : Fault} {start : Nat} (charged : failure.fault? = some fault)
    (started : failure.start? = some start) (behind : start < failure.stopped.column) :
    (report failure atEnd).Marks (fault.settled atEnd) start failure.stopped.column
      (Text.byteLength (Text.pointedAt failure.stopped.rest)) := by
  have settled : (report failure atEnd).fault = some (fault.settled atEnd) := by
    rw [fault_report, charged, Option.getD_some]
  refine ⟨settled, ⟨_, rfl⟩, ?_⟩
  rw [← Option.some.inj settled]
  have secondary : (report failure atEnd).labels.tail =
      [⟨false, .between start failure.stopped.column, "while parsing this"⟩] := by
    simp only [report, List.tail_cons]
    split
    · next other found =>
      cases found.symm.trans started
      exact if_pos behind
    · next found => cases found.symm.trans started
  rw [← secondary]
  obtain ⟨committed, clues, column, _ | ⟨c, rest⟩⟩ := failure
  · rfl
  · rw [Text.byteLength_pointedAt_cons]
    rfl

end Grammar

/-! ## What a report is about -/

/-- The fault fits what has been read of a construct, in front of the rest of the source. -/
structure Fault.Describes (fault : Fault) (construct after : List Char) : Prop where
  string : fault = .unterminatedString → Text.IsOpenString construct after
  directive : fault ≠ .unterminatedString → construct.head? = some '!'
  ended : fault = .incompleteInput ∨ fault = .unterminatedBlock → after = []
  goesOn : fault = .unexpectedToken → after ≠ []

theorem Fault.Describes.ne_nil {fault : Fault} {construct after : List Char}
    (describes : fault.Describes construct after) : construct ≠ [] := by
  rintro rfl
  by_cases string : fault = .unterminatedString
  · obtain ⟨quote, value, present, -⟩ := (describes.string string).opens
    cases present
  · cases describes.directive string

/-- A fault that fits a construct on its line fits it in the source. -/
theorem Fault.Fits.describes {fault : Fault} {text rest behind : List Char} {atEnd : Bool}
    (fits : fault.Fits text rest) (ends : Text.AtLineEnd behind)
    (last : atEnd = true ↔ rest ++ behind = []) :
    (fault.settled atEnd).Describes text (rest ++ behind) := by
  cases fits with
  | openString isOpen =>
    have settled : Fault.settled .unterminatedString atEnd = .unterminatedString := rfl
    rw [settled]
    exact ⟨fun _ => ⟨isOpen.opens, isOpen.ends.append ends⟩, fun other => absurd rfl other,
      by simp, by simp⟩
  | directive charged =>
    rcases charged with rfl | rfl | rfl
    -- An unexpected token is the only fault that is reported differently at the end of the source.
    · cases atEnd with
      | false =>
        have goesOn : rest ++ behind ≠ [] := fun none => Bool.false_ne_true (last.mpr none)
        exact ⟨by simp [Fault.settled], fun _ => rfl, by simp [Fault.settled], fun _ => goesOn⟩
      | true =>
        exact ⟨by simp [Fault.settled], fun _ => rfl, fun _ => last.mp rfl, by simp [Fault.settled]⟩
    all_goals exact ⟨by simp [Fault.settled], fun _ => rfl, by simp [Fault.settled],
      by simp [Fault.settled]⟩

/-- The diagnostic is about `construct`, which has been read up to `after`: it marks the construct
and what is next on its line, and its fault fits them. -/
structure Diagnostic.Locates (diagnostic : Diagnostic) (fault : Fault)
    (before construct after : List Char) : Prop where
  marks : diagnostic.Marks fault (Text.byteLength before) (Text.byteLength (before ++ construct))
    (Text.byteLength (Text.pointedAt after))
  describes : fault.Describes construct after

/-- The diagnostic is about a construct of the source. -/
def Diagnostic.LocatedIn (diagnostic : Diagnostic) (source : List Char) : Prop :=
  ∃ fault before construct after, source = before ++ (construct ++ after) ∧
    diagnostic.Locates fault before construct after

/-! ## Lines in their source -/

/-- The line stands in the source between `before` and `behind`, which starts with its ending. -/
structure Line.Stands (line : Line) (source before behind : List Char) : Prop where
  text : source = before ++ (line.content ++ behind)
  place : line.start = Text.byteLength before
  ends : Text.AtLineEnd behind
  last : line.ending = .endOfText ↔ behind = []

namespace Line

variable {source before behind : List Char} {line : Line}

theorem stands_of_mem_split (member : line ∈ split source) :
    ∃ before behind, line.Stands source before behind := by
  obtain ⟨earlier, later, lines⟩ := List.append_of_mem member
  have run := run_split source
  rw [lines] at run
  have alone : line.ending = .endOfText → later = [] := by
    intro ending
    cases later with
    | nil => rfl
    | cons next later =>
      have fed := (List.pairwise_cons.mp run.right.fed).1 next List.mem_cons_self
      rw [ending] at fed
      cases fed
  refine ⟨text earlier, line.ending.chars ++ text later, ?_, ?_, ?_, ?_⟩
  · rw [← text_split source, lines, text_append, text_cons, chars, List.append_assoc]
  · exact run.right.joined.1.trans (Nat.zero_add _)
  · intro c next
    cases ending : line.ending with
    | endOfText =>
      rw [ending, alone ending] at next
      cases next
    | lineFeed | returnLineFeed | strayReturn =>
      rw [ending] at next
      cases next
      simp
  · cases ending : line.ending with
    | endOfText => simp [alone ending, Ending.chars]
    | lineFeed | returnLineFeed | strayReturn => simp [Ending.chars]

/-- What a failure on the line blames is reported as a construct of the source. -/
theorem Stands.locatedIn (stands : line.Stands source before behind) {failure : Failure}
    (blamed : failure.IsBlamed ⟨0, line.content⟩) :
    (reportOn line failure).LocatedIn source := by
  obtain ⟨lead, mark, construct, fault, ahead, own, started, charged, fits⟩ := blamed
  have last : (failure.stopped.rest.isEmpty && line.ending == .endOfText) = true ↔
      failure.stopped.rest ++ behind = [] := by
    rw [Bool.and_eq_true, List.isEmpty_iff, beq_iff_eq, stands.last, List.append_eq_nil_iff]
  have describes := fits.describes stands.ends last
  have content : line.content = lead ++ construct ++ failure.stopped.rest :=
    (ahead.trans own).rest
  have start : mark.column + line.start = Text.byteLength (before ++ lead) := by
    rw [ahead.column, stands.place, Text.byteLength_append, Nat.zero_add, Nat.add_comm]
  have stop : failure.stopped.column + line.start =
      Text.byteLength (before ++ lead ++ construct) := by
    rw [own.column, Nat.add_right_comm, start, Text.byteLength_append (before ++ lead)]
  have behind : mark.column < failure.stopped.column := by
    have present := Text.byteLength_pos describes.ne_nil
    rw [own.column]
    omega
  have marks := (marks_report (failure.stopped.rest.isEmpty && line.ending == .endOfText) charged
    started behind).shift line.start
  rw [start, stop, ← Text.pointedAt_append stands.ends] at marks
  refine ⟨_, before ++ lead, construct, _, ?_, marks, describes⟩
  rw [stands.text, content]
  simp only [List.append_assoc]

end Line

/-! ## Steps that fail -/

namespace Grammar

variable {line : Line} {progress : Progress} {diagnostic : Diagnostic}

/-- The diagnostic reports a failure that blames something on the line. -/
def Reports (line : Line) (diagnostic : Diagnostic) : Prop :=
  ∃ failure : Failure, failure.IsBlamed ⟨0, line.content⟩ ∧ reportOn line failure = diagnostic

theorem reports_of_readLine (failed : progress.readLine line = .error diagnostic) :
    Reports line diagnostic := by
  simp only [Progress.readLine] at failed
  split at failed
  · next failure outcome => exact ⟨failure, isBlamed_of_reading outcome, Except.error.inj failed⟩
  · split at failed <;> cases failed

/-- The directive of a closing word is blamed for the condition behind the word. -/
theorem reports_of_apply {turn : Turn} {finished : List Statement} {frame : Frame}
    {outer : List Frame} {word : Located String} {behind : Cursor}
    (closing : closingWord? line = some (word, behind))
    (failed : turn.apply finished frame outer line word behind = .error diagnostic) :
    Reports line diagnostic := by
  cases turn with
  | closes statement => cases failed
  | continues block => cases failed
  | asks settle =>
    simp only [Turn.apply] at failed
    split at failed
    · next failure outcome =>
      obtain ⟨blanks, mark, lead, own, span⟩ := mark_of_closingWord? closing
      have ordered : mark.column ≤ behind.column := own.column ▸ Nat.le_add_right ..
      rw [span, Span.start_shift, Span.start_between_of_le ordered, Nat.add_sub_cancel] at outcome
      have condition := blames_conditionRest line.ending.completes .holds
      exact ⟨failure, (condition.directiveRest (.inl rfl)).isBlamed lead own outcome
        (Reader.committed_of_directiveRest outcome), Except.error.inj failed⟩
    · cases failed

/-- A step that fails reports a failure on its line. -/
theorem reports_of_step (failed : progress.step line = .error diagnostic) :
    Reports line diagnostic := by
  obtain ⟨finished, _ | ⟨frame, outer⟩⟩ := progress
  · exact reports_of_readLine failed
  · by_cases raw : frame.block.IsRaw
    · obtain ⟨name, parameters, bodyStart, lines, block⟩ := raw
      rw [Progress.step_of_raw finished outer line block] at failed
      cases failed
    · rw [Progress.step_of_not_raw finished outer line raw] at failed
      split at failed
      · exact reports_of_readLine failed
      · next word behind closing =>
        split at failed
        · exact reports_of_readLine failed
        · exact reports_of_apply closing failed

/-- A run that fails does so at one of its lines. -/
theorem exists_reports_of_foldlM {lines : List Line}
    (failed : lines.foldlM Progress.step progress = .error diagnostic) :
    ∃ line ∈ lines, Reports line diagnostic := by
  induction lines generalizing progress with
  | nil => cases failed
  | cons line rest ih =>
    rw [List.foldlM_cons] at failed
    cases step : progress.step line with
    | error other =>
      rw [step] at failed
      cases failed
      exact ⟨line, List.mem_cons_self, reports_of_step step⟩
    | ok next =>
      rw [step] at failed
      obtain ⟨later, member, reports⟩ := ih failed
      exact ⟨later, List.mem_cons_of_mem line member, reports⟩

/-! ## Blocks that stay open -/

theorem Frame.Made.opener {frame : Frame} {lines : List Line} (made : frame.Made lines) :
    ∃ opener ∈ lines, ∃ header, opener.Says (.opens frame.start header) := by
  cases made with
  | callable opens | loop opens | consequent opens | elseIf opens | alternate opens =>
    exact ⟨_, List.mem_cons_self, _, opens⟩

/-- The innermost of the open blocks of a stack has been opened by one of the lines. -/
theorem StackMade.opener {frame : Frame} {outer : List Frame} {lines : List Line}
    (stacked : StackMade (frame :: outer) lines) :
    ∃ opener ∈ lines, ∃ header, opener.Says (.opens frame.start header) := by
  cases stacked with
  | @inner _ _ around own stacked made =>
    obtain ⟨opener, member, opens⟩ := made.opener
    exact ⟨opener, List.mem_append_right around member, opens⟩

/-- An open block has been opened by one of the lines. -/
theorem Progress.Made.opener {finished : List Statement} {frame : Frame} {outer : List Frame}
    {lines : List Line} (made : Progress.Made ⟨finished, frame :: outer⟩ lines) :
    ∃ opener ∈ lines, ∃ header, opener.Says (.opens frame.start header) := by
  cases made with
  | @raw _ _ settled opened raws opener start name parameters body done stacked opens kept =>
    have member : opener ∈ opened ++ opener :: raws.reverse :=
      List.mem_append_right opened List.mem_cons_self
    exact ⟨opener, List.mem_append_right settled member, _, opens⟩
  | @plain _ _ settled opened done stacked =>
    obtain ⟨opener, member, opens⟩ := stacked.opener
    exact ⟨opener, List.mem_append_right settled member, opens⟩

end Grammar

/-- The line that opens a block has the mark of a directive where the block starts. -/
theorem Line.Says.mark {line : Line} {start : Nat} {header : Header}
    (told : line.Says (.opens start header)) :
    ∃ blanks rest, line.content = blanks ++ '!' :: rest ∧
      start = line.start + Text.byteLength blanks := by
  obtain ⟨found, next, read, same⟩ := told
  cases found with
  | whole statement => cases same
  | opens column header =>
    cases same
    obtain ⟨blanks, mark, text, lead, rfl, own⟩ := passes_of_opens read
    refine ⟨blanks, text ++ next.rest, ?_, ?_⟩
    · exact (lead.trans own).rest.trans (List.append_assoc ..)
    · rw [lead.column, Nat.zero_add, Nat.add_comm]

namespace Grammar

variable {source : List Char}

/-- A block starts inside the text, on the line that opens it. -/
theorem start_lt_of_opens {opener : Line} {start : Nat} {header : Header}
    (member : opener ∈ Line.split source) (opens : opener.Says (.opens start header)) :
    start < opener.contentStop ∧ start < Text.byteLength source := by
  obtain ⟨before, behind, stands⟩ := Line.stands_of_mem_split member
  obtain ⟨blanks, rest, content, place⟩ := opens.mark
  have present := Char.utf8Size_pos '!'
  constructor
  · simp only [Line.contentStop, content, place, Text.byteLength_append, Text.byteLength_cons]
    omega
  · simp only [stands.text, content, place, stands.place, Text.byteLength_append,
      Text.byteLength_cons]
    omega

theorem marks_unterminated {frame : Frame} {stop : Nat} (behind : frame.start < stop) :
    (unterminated frame stop).Marks .unterminatedBlock frame.start stop 0 := by
  let failure : Failure :=
    ⟨true, [.expected frame.block.awaited, .fault .unterminatedBlock, .start frame.start],
      ⟨stop, []⟩⟩
  have charged : failure.fault? = some .unterminatedBlock := rfl
  exact marks_report true charged rfl behind

/-- A block that is still open at the end is blamed from its directive to the end. -/
theorem locatedIn_unterminated {opener : Line} {frame : Frame} {header : Header}
    (member : opener ∈ Line.split source) (opens : opener.Says (.opens frame.start header)) :
    (unterminated frame (Text.byteLength source)).LocatedIn source := by
  obtain ⟨before, behind, stands⟩ := Line.stands_of_mem_split member
  obtain ⟨blanks, rest, content, start⟩ := opens.mark
  have text : source = before ++ blanks ++ ('!' :: rest ++ behind) := by
    rw [stands.text, content]
    simp only [List.append_assoc, List.cons_append]
  have start : frame.start = Text.byteLength (before ++ blanks) := by
    rw [start, stands.place, Text.byteLength_append]
  refine ⟨.unterminatedBlock, before ++ blanks, '!' :: rest ++ behind, [], ?_, ?_, ?_⟩
  · rw [List.append_nil, text]
  · rw [← text, ← start]
    exact marks_unterminated (start_lt_of_opens member opens).2
  · exact ⟨by simp, fun _ => rfl, fun _ => rfl, by simp⟩

theorem locatedIn_of_statements {diagnostic : Diagnostic}
    (failed : statements source = .error diagnostic) : diagnostic.LocatedIn source := by
  simp only [statements] at failed
  cases run : (Line.split source).foldlM Progress.step Progress.initial with
  | error other =>
    rw [run] at failed
    cases failed
    obtain ⟨line, member, failure, blamed, rfl⟩ := exists_reports_of_foldlM run
    obtain ⟨before, behind, stands⟩ := Line.stands_of_mem_split member
    exact stands.locatedIn blamed
  | ok progress =>
    rw [run] at failed
    have initial : Progress.initial.Made ([] ++ []) := .plain .nil .nil
    have made := initial.run run
    obtain ⟨finished, _ | ⟨frame, outer⟩⟩ := progress
    · cases failed
    · cases failed
      obtain ⟨opener, member, header, opens⟩ := made.opener
      exact locatedIn_unterminated member opens

end Grammar

/-! ## The report of a document -/

/-- An error is located by the place at which reading stopped. -/
theorem Diagnostic.Marks.position {diagnostic : Diagnostic} {fault : Fault}
    {start position width : Nat} (marks : diagnostic.Marks fault start position width) :
    ParseError.position ⟨[diagnostic]⟩ = position := by
  have first : diagnostic.primaryLabel? =
      some ⟨true, .between position (position + width), fault.description⟩ := by
    rw [primaryLabel?, marks.labelled]
    rfl
  simp only [ParseError.position, List.findSome?_cons, first]
  exact Span.start_between_of_le (Nat.le_add_right ..)

/-- The error is one report of the source, which was read up to `after`: of `construct`, which ends
there, with a fault that fits it. -/
structure ParseError.Explains (error : ParseError) (source : String) (fault : Fault)
    (primary secondary : Label) (construct after : List Char) : Prop where
  single : ∃ message help,
    error.diagnostics = [⟨some fault, message, [primary, secondary], some help⟩]
  roles : primary.primary = true ∧ secondary.primary = false
  bounded : error.position ≤ Text.byteLength source.toList
  /-- The position stands between two characters, or at an end of the source. -/
  boundary : ∃ read, source.toList = read ++ after ∧ Text.byteLength read = error.position
  starts : primary.span.start = error.position
  /-- The primary label covers the next character, or nothing at the end of a line. -/
  covers : primary.span.slice? source = some (String.ofList (Text.pointedAt after))
  stops : secondary.span.stop = error.position
  blames : secondary.span.slice? source = some (String.ofList construct)
  present : construct ≠ []
  string : fault = .unterminatedString → Text.IsOpenString construct after
  directive : fault ≠ .unterminatedString → construct.head? = some '!'
  ended : fault = .incompleteInput ∨ fault = .unterminatedBlock →
    error.position = Text.byteLength source.toList
  goesOn : fault = .unexpectedToken → error.position < Text.byteLength source.toList

/-- A diagnostic that is about a construct of the source explains the error alone. -/
theorem Diagnostic.LocatedIn.explains {diagnostic : Diagnostic} {source : String}
    (located : diagnostic.LocatedIn source.toList) :
    ∃ fault primary secondary construct after,
      ParseError.Explains ⟨[diagnostic]⟩ source fault primary secondary construct after := by
  obtain ⟨fault, before, construct, after, text, marks, describes⟩ := located
  have position := marks.position
  have text' : source.toList = (before ++ construct) ++ after := by rw [text, List.append_assoc]
  have size : Text.byteLength source.toList =
      Text.byteLength (before ++ construct) + Text.byteLength after := by
    rw [text', Text.byteLength_append]
  obtain ⟨help, helped⟩ := marks.helped
  obtain ⟨more, next⟩ := Text.exists_eq_pointedAt_append after
  refine ⟨fault,
    ⟨true, .between (Text.byteLength (before ++ construct)) (Text.byteLength (before ++ construct) +
      Text.byteLength (Text.pointedAt after)), fault.description⟩,
    ⟨false, .between (Text.byteLength before) (Text.byteLength (before ++ construct)),
      "while parsing this"⟩,
    construct, after,
    { single := ⟨diagnostic.message, help, ?_⟩
      roles := ⟨rfl, rfl⟩
      bounded := ?_
      boundary := ⟨before ++ construct, text', position.symm⟩
      starts := ?_
      covers := ?_
      stops := ?_
      blames := ?_
      present := describes.ne_nil
      string := describes.string
      directive := describes.directive
      ended := ?_
      goesOn := ?_ }⟩
  · rw [← marks.charged, ← marks.labelled, ← helped]
  · rw [position, size]
    exact Nat.le_add_right ..
  · rw [position]
    exact Span.start_between_of_le (Nat.le_add_right ..)
  · have pieces : source.toList = (before ++ construct) ++ (Text.pointedAt after ++ more) := by
      rw [text', ← next]
    exact Span.slice?_of_append pieces rfl
  · have ordered : Text.byteLength before ≤ Text.byteLength (before ++ construct) := by
      rw [Text.byteLength_append]
      exact Nat.le_add_right ..
    rw [position]
    exact Span.stop_between_of_le ordered
  · refine Span.slice?_of_append text ?_
    rw [Text.byteLength_append]
  · intro ended
    rw [position, size, describes.ended ended]
    rfl
  · intro goesOn
    rw [position, size]
    exact Nat.lt_add_of_pos_right (Text.byteLength_pos (describes.goesOn goesOn))

/-- Every failure to parse is reported once, and located. There is one diagnostic, with a fault, a
suggestion and two labels. The primary label starts at the position of the error, between two
characters of the source, and covers the character there, or nothing at the end of a line or of the
source. The secondary label covers what has been read of a construct, up to the position: a string
from its opening quote on if the string is not closed on its line, and otherwise a directive from
its `!` on. Input that is incomplete and blocks that are not closed are found at the end of the
source, and tokens that are not expected before it. -/
theorem parse_error_explained {source : String} {error : ParseError}
    (failed : parse source = .error error) :
    ∃ fault primary secondary construct after,
      error.Explains source fault primary secondary construct after := by
  simp only [parse] at failed
  cases found : statements source.toList with
  | ok statements =>
    rw [found] at failed
    cases failed
  | error diagnostic =>
    rw [found] at failed
    cases failed
    exact (locatedIn_of_statements found).explains

/-- A character of two bytes that does not belong behind an assignment, inside a loop. -/
theorem parse_error_explained_in_loop :
    ∃ error, parse "é\n!while 1\r\n  !$x = 1 ü\r\n!endwhile" = .error error ∧
      error.position = 23 ∧
      ∃ fault primary secondary construct after,
        error.Explains "é\n!while 1\r\n  !$x = 1 ü\r\n!endwhile" fault primary secondary construct
          after := by
  have failed : parse "é\n!while 1\r\n  !$x = 1 ü\r\n!endwhile" =
      .error ⟨[⟨some .unexpectedToken, "unexpected token",
        [⟨true, .between 23 25, "unexpected token"⟩, ⟨false, .between 15 23, "while parsing this"⟩],
        some "check the directive syntax"⟩]⟩ := by
    decide +kernel
  exact ⟨_, failed, rfl, parse_error_explained failed⟩

end DiagramAssist
