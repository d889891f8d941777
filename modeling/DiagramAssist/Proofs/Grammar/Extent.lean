import DiagramAssist.Grammar.Block
import DiagramAssist.Proofs.Document.Placement
import DiagramAssist.Proofs.Grammar.Blame
import DiagramAssist.Proofs.Grammar.LineSpelling

/-! # How far a reading reaches

Whatever is read off a line, and whatever is reported about it, lies inside the line. Readings do
so because they stand in the text that was passed; failures do because every production keeps track
of where it is (`Reader.Tracks`), so that the place of a failure has still the rest of the line in
front of it.
-/

namespace DiagramAssist.Grammar

open Reader

section Lines

variable (completes : Bool)

theorem tracks_conditionRest (kind : ConditionKind) : Tracks (conditionRest kind completes) :=
  (blames_conditionRest completes kind).tracks

theorem tracks_callExpression : Tracks callExpression :=
  tracks_remaining.bind fun _ => (blames_call (blames_expressionWithin _)).tracks

theorem tracks_callLine : Tracks (callLine completes) := by
  refine Tracks.relent (tracks_spaces.bind fun _ => tracks_callExpression.bind fun call => ?_)
  split
  · exact (tracks_endOfStatement completes).bind fun _ => tracks_pure _
  · exact tracks_reject

theorem tracks_unknown : Tracks unknown :=
  tracks_directiveStart.bind fun _ => tracks_restOfLine.bind fun _ => tracks_pure _

theorem tracks_diagramText : Tracks diagramText :=
  tracks_restOfLine.bind fun _ => tracks_pure _

/-- The reading of a line keeps track of where it is. -/
theorem tracks_reading : Tracks (reading completes) := by
  rw [reading_eq]
  refine tracks_choose fun production member => ?_
  rcases List.mem_append.mp member with opening | passing
  · exact (isDirective_of_mem_openings completes production opening).tracks
  · simp only [Grammar.passing, List.mem_cons, List.not_mem_nil, or_false] at passing
    rcases passing with rfl | rfl | rfl
    · exact tracks_callLine completes
    · exact tracks_unknown
    · exact tracks_diagramText

end Lines

/-! ## Bounds -/

/-- Every column that the reading names lies within the bound. -/
def Reading.Within (bound : Nat) : Reading → Prop
  | .whole statement => statement.outline.Within bound
  | .opens start header => start ≤ bound ∧ ∀ outline ∈ header.outlines, outline.Within bound

/-- What a line says lies within the line. -/
theorem within_of_reading {completes : Bool} {content : List Char} {found : Reading}
    {later : Cursor} (read : reading completes ⟨0, content⟩ = .read found later) :
    found.Within (Text.byteLength content) := by
  obtain ⟨taken, passes, stands⟩ := spells_reading completes read
  have total := passes.reach_content
  have column : later.column = 0 + Text.byteLength taken := passes.column
  have inside : 0 + Text.byteLength taken ≤ Text.byteLength content := by omega
  cases found with
  | whole statement => exact stands.within inside _ (List.mem_singleton_self _)
  | opens start header =>
    obtain ⟨before, after, rfl, rfl, inTurn⟩ := stands
    rw [Text.byteLength_append, ← Nat.add_assoc] at inside
    exact ⟨Nat.le_trans (Nat.le_add_right ..) inside, inTurn.within inside⟩

/-- The labels of a report lie within the line that the failure is about. -/
theorem stop_le_of_mem_report {failure : Failure} {atEnd : Bool} {bound : Nat}
    (total : failure.stopped.column + Text.byteLength failure.stopped.rest = bound) :
    ∀ label ∈ (report failure atEnd).labels, label.span.stop ≤ bound := by
  intro label listed
  simp only [report, List.mem_cons] at listed
  rcases listed with rfl | secondary
  · rw [Span.stop_between_of_le (Nat.le_add_right ..)]
    cases rest : failure.stopped.rest with
    | nil =>
      rw [rest, Text.byteLength_nil] at total
      exact Nat.le_of_eq total
    | cons c more =>
      rw [rest, Text.byteLength_cons] at total
      dsimp only
      split <;> omega
  · split at secondary
    · split at secondary
      · next before =>
        rw [List.mem_singleton] at secondary
        rw [secondary, Span.stop_between_of_le (Nat.le_of_lt before)]
        omega
      · cases secondary
    · cases secondary

end DiagramAssist.Grammar
