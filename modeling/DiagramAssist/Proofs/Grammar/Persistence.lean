import DiagramAssist.Proofs.Grammar.Reports

/-! # Errors that stay

Reading fails at a line, or because a block is open where the text ends. The lines of a text that
ends with a line feed stay what they are when something is put behind the text, so a failure at one
of them stays as well: nothing that follows can change or hide it (`parse_error_stays`). Only blocks
that are not closed can be mended further down. None of these lines ends with the text, so the text
never ends in the middle of a directive.
-/

namespace DiagramAssist

open Grammar

namespace Line

theorem fed_of_areWhole {text : List Char} (whole : AreWhole text) :
    ∀ raw ∈ rawLines text, raw.2 = true := by
  fun_induction rawLines text with
  | case1 => exact List.forall_mem_nil _
  | case2 rest ih => exact List.forall_mem_cons.mpr ⟨rfl, ih whole.tail⟩
  | case3 c rest other none ih =>
    exact (whole.tail_ne_nil other (rawLines_eq_nil_iff.mp none)).elim
  | case4 c rest other line fed later some ih =>
    have fed := ih whole.tail
    rw [some, List.forall_mem_cons] at fed
    exact List.forall_mem_cons.mpr fed

/-- In a text of whole lines, no line ends with the text. -/
theorem ending_ne_of_mem_split {text : List Char} (whole : AreWhole text) {line : Line}
    (member : line ∈ split text) : line.ending ≠ .endOfText := by
  obtain ⟨raw, listed, same⟩ := mem_placeAll member
  rw [same, fed_of_areWhole whole raw listed]
  simp only [ofRaw]
  cases decide ((Text.dropFinalReturn raw.1).length < raw.1.length) <;> decide

end Line

/-- Every fault has a code of its own. -/
theorem Fault.code_injective : Function.Injective Fault.code := by
  intro fault other
  cases fault <;> cases other <;> decide

namespace Grammar

variable {line : Line} {diagnostic : Diagnostic} {text : List Char}

/-- A line is never reported for a block, and for missing input only where the text ends with it. -/
theorem Reports.fault (reports : Reports line diagnostic) :
    ∃ fault, diagnostic.fault = some fault ∧ fault ≠ .unterminatedBlock ∧
      (fault = .incompleteInput → line.ending = .endOfText) := by
  obtain ⟨failure, ⟨_, _, _, charge, -, -, -, charged, fits⟩, rfl⟩ := reports
  let atEnd := failure.stopped.rest.isEmpty && line.ending == .endOfText
  have found : (reportOn line failure).fault = some (charge.settled atEnd) := by
    refine (fault_report atEnd).trans ?_
    rw [charged, Option.getD_some]
  refine ⟨_, found, ?_⟩
  cases fits with
  | openString isOpen => simp [Fault.settled]
  | directive charged =>
    rcases charged with rfl | rfl | rfl
    · by_cases last : atEnd = true
      · have ends : line.ending = .endOfText := by simp_all [atEnd]
        exact ⟨by simp [Fault.settled, last], fun _ => ends⟩
      · simp [Fault.settled, last]
    · simp [Fault.settled]
    · simp [Fault.settled]

/-- Reading a text fails at a line, or with a block that is still open at the end. -/
theorem statements_eq_error_iff :
    statements text = .error diagnostic ↔
      (Line.split text).foldlM Progress.step Progress.initial = .error diagnostic ∨
        ∃ finished frame outer,
          (Line.split text).foldlM Progress.step Progress.initial =
            .ok ⟨finished, frame :: outer⟩ ∧
          unterminated frame (Text.byteLength text) = diagnostic := by
  simp only [statements]
  cases (Line.split text).foldlM Progress.step Progress.initial with
  | error other => simp [bind, Except.bind]
  | ok progress =>
    obtain ⟨finished, _ | ⟨frame, outer⟩⟩ := progress
    · simp [bind, Except.bind, Progress.finish]
    · constructor
      · exact fun failed => .inr ⟨finished, frame, outer, rfl, Except.error.inj failed⟩
      · rintro (failed | ⟨_, _, _, same, rfl⟩)
        · cases failed
        · cases same
          rfl

/-- A failure at a line of a text of whole lines stays, whatever is put behind the text. -/
theorem statements_append_of_error (whole : Line.AreWhole text)
    (failed : (Line.split text).foldlM Progress.step Progress.initial = .error diagnostic)
    (behind : List Char) : statements (text ++ behind) = .error diagnostic := by
  refine statements_eq_error_iff.mpr (.inl ?_)
  rw [Line.split_append whole, List.foldlM_append, failed]
  rfl

end Grammar

/-- A text cannot be parsed because its statements cannot be read. -/
theorem parse_eq_error_iff {source : String} {error : ParseError} :
    parse source = .error error ↔
      ∃ diagnostic, statements source.toList = .error diagnostic ∧ error = ⟨[diagnostic]⟩ := by
  simp only [parse]
  cases statements source.toList with
  | ok found => simp
  | error diagnostic => simp [eq_comm]

/-- Errors are local to their line. Where a text that ends with a line feed cannot be parsed, there
is one diagnostic; it never says that input is missing, and unless it says that a block is not
closed, the text cannot be parsed with anything behind it either, and the error is the same. -/
theorem parse_error_stays {source : String} {error : ParseError}
    (ended : source.toList.getLast? = some '\n') (failed : parse source = .error error) :
    ∃ diagnostic fault, error.diagnostics = [diagnostic] ∧ diagnostic.fault = some fault ∧
      fault.code ≠ "E101" ∧
      (fault.code ≠ "E102" → ∀ behind, parse (source ++ behind) = .error error) := by
  have whole : Line.AreWhole source.toList := .inr ended
  obtain ⟨diagnostic, unread, rfl⟩ := parse_eq_error_iff.mp failed
  rcases statements_eq_error_iff.mp unread with stopped | ⟨finished, frame, outer, -, rfl⟩
  · obtain ⟨line, member, reports⟩ := exists_reports_of_foldlM stopped
    obtain ⟨fault, charged, -, inText⟩ := reports.fault
    refine ⟨diagnostic, fault, rfl, charged, fun missing => ?_, fun _ behind => ?_⟩
    · have atEnd := inText (@Fault.code_injective fault .incompleteInput missing)
      exact Line.ending_ne_of_mem_split whole member atEnd
    · refine parse_eq_error_iff.mpr ⟨diagnostic, ?_, rfl⟩
      rw [String.toList_append]
      exact statements_append_of_error whole stopped behind.toList
  · exact ⟨_, .unterminatedBlock, rfl, rfl, by decide, fun other => absurd rfl other⟩

/-- A string that is left open inside a loop stays an error when the string and the loop are closed
further down. -/
theorem parse_error_stays_in_loop :
    ∃ error, parse "!while 1\n!$x = 'é\n" = .error error ∧
      parse ("!while 1\n!$x = 'é\n" ++ "'\n!endwhile") = .error error := by
  have failed : parse "!while 1\n!$x = 'é\n" =
      .error ⟨[⟨some .unterminatedString, "unterminated string literal: expected closing quote" ++
          " → expected expression → expected variable value",
        [⟨true, .between 18 18, "unterminated string literal"⟩,
          ⟨false, .between 15 18, "while parsing this"⟩],
        some "close the string on the same line"⟩]⟩ := by
    decide +kernel
  obtain ⟨diagnostic, fault, single, charged, -, stays⟩ :=
    parse_error_stays (by decide +kernel) failed
  cases single
  cases charged
  exact ⟨_, failed, stays (by decide) _⟩

end DiagramAssist
