import DiagramAssist.Proofs.Grammar.Commitment
import DiagramAssist.Proofs.Reader.Blame

/-! # What a malformed line is blamed on

An expression that cannot be read blames nothing but a string it leaves open; a production that
knows its directive blames the directive for the rest. A line is given up only by a production that
has recognised its directive, so the failure always blames something on the line: the directive,
from its `!` on, or an open string, from its quote on (`isBlamed_of_reading`).
-/

namespace DiagramAssist.Grammar

open Reader

/-! ## Expressions blame open strings only -/

section Expressions

variable {nested : Reader Expression}

theorem blames_parenthesized (blames : Blames none nested) : Blames none (parenthesized nested) :=
  blames_column.bind fun _ => (blames_char '(').bind fun _ => blames_spaces.bind fun _ =>
    blames.bind fun _ => blames_spaces.bind fun _ => ((blames_char ')').expecting _).bind fun _ =>
      blames_column.bind fun _ => blames_pure _

theorem blames_argumentName : Blames none argumentName :=
  blames_anyName.bind fun _ => blames_spaces.bind fun _ => (blames_char '=').bind fun _ =>
    blames_notFollowedBy.bind fun _ => blames_spaces.bind fun _ => blames_pure _

theorem blames_argument (blames : Blames none nested) : Blames none (argument nested) :=
  blames_column.bind fun _ => blames_argumentName.optional.bind fun _ => blames.bind fun _ =>
    blames_pure _

theorem blames_comma : Blames none comma :=
  blames_spaces.bind fun _ => (blames_char ',').bind fun _ => blames_spaces

theorem blames_call (blames : Blames none nested) : Blames none (call nested) :=
  blames_column.bind fun _ => (blames_char '%').optional.bind fun _ => blames_anyName.bind fun _ =>
    (blames_char '(').bind fun _ => blames_spaces.bind fun _ =>
      (blames_separated blames_comma (blames_argument blames)).bind fun _ =>
        blames_spaces.bind fun _ => ((blames_char ')').expecting _).bind fun _ =>
          blames_column.bind fun _ => blames_pure _

theorem blames_primary (blames : Blames none nested) : Blames none (primary nested) := by
  refine Blames.expecting (blames_choose ?_) _
  simp only [List.forall_mem_cons]
  exact ⟨blames_parenthesized blames, blames_stringLiteral, blames_numberLiteral,
    (blames_call blames).map, blames_anyName.bind fun _ => blames_pure _,
    List.forall_mem_nil _⟩

theorem blames_operations {operand : Reader Expression} (blames : Blames none operand)
    (bound : Nat) (left : Expression) : Blames none (operations operand bound left) := by
  induction bound generalizing left with
  | zero => exact blames_pure left
  | succ bound ih =>
    refine (blames_spaces.bind fun _ => blames_operator).optional.bind fun found => ?_
    cases found with
    | none => exact blames_pure left
    | some operator =>
      exact blames_spaces.bind fun _ => (blames.expecting _).bind fun right => ih _

theorem blames_expressionWithin (depth : Nat) : Blames none (expressionWithin depth) := by
  induction depth with
  | zero => exact blames_reject
  | succ depth ih =>
    have operand := blames_primary ih
    exact operand.bind fun left => blames_remaining.bind fun rest =>
      blames_operations operand rest.length left

theorem blames_expression : Blames none expression :=
  blames_remaining.bind fun _ => blames_expressionWithin _

theorem blames_parameter : Blames none parameter :=
  (blames_anyName.expecting _).bind fun _ =>
    (blames_spaces.bind fun _ => (blames_char '=').bind fun _ => blames_spaces.bind fun _ =>
      blames_expression).optional.bind fun _ => blames_pure _

theorem blames_parameterList : Blames none parameterList :=
  ((blames_char '(').expecting _).bind fun _ => blames_spaces.bind fun _ =>
    (blames_separated blames_comma blames_parameter).bind fun _ => blames_spaces.bind fun _ =>
      ((blames_char ')').expecting _).bind fun _ => blames_pure _

theorem blames_optionalParameterList : Blames none optionalParameterList := by
  refine blames_remaining.bind fun rest => ?_
  split
  · exact blames_parameterList.bind fun _ => blames_pure _
  · exact blames_pure none

end Expressions

/-! ## Directives -/

/-- What the reading says starts at the column, if it opens a block. -/
def Reading.StartsAt (start : Nat) : Reading → Prop
  | .whole _ => True
  | .opens column _ => column = start

/-- A production that starts with the mark of a directive. What follows the mark blames the
directive unless it lets other productions be tried, and a block starts at the mark. -/
def IsDirective (production : Reader Reading) : Prop :=
  ∃ rest : Nat → Reader Reading, production = directiveStart >>= rest ∧
    ∀ start, (rest start).Blames (some start) ∧ (rest start).Yields (Reading.StartsAt start)

/-- A directive with a fixed word starts with the mark, too. -/
theorem directive_bind (word : String) (rest : Nat → Reader Reading) :
    directive word >>= rest =
      directiveStart >>= fun start => keyword word >>= fun _ => rest start := by
  simp only [directive, bind_assoc, pure_bind]

theorem isDirective_of_word {word : String} {rest : Nat → Reader Reading}
    (blames : ∀ start, (rest start).Blames (some start))
    (starts : ∀ start, (rest start).Yields (Reading.StartsAt start)) :
    IsDirective (directive word >>= rest) :=
  ⟨_, directive_bind word rest, fun start =>
    ⟨(blames_keyword word).bind fun _ => blames start, yields_bind fun _ => starts start⟩⟩

section Lines

variable (completes : Bool) {start : Nat}

theorem blames_declaredName (what : String) :
    Blames (some start) (declaredName start what) :=
  Blames.directiveRest (Blames.expecting (blames_spaces1.bind fun _ => blames_anyName) _)
    (.inr (.inl rfl))

theorem isDirective_declaration : IsDirective (declaration completes) := by
  refine ⟨_, rfl, fun start => ⟨?_, ?_⟩⟩
  · refine (Blames.optional (.bind (blames_choose ?_) fun _ => blames_spaces1.bind fun _ =>
      blames_pure _)).bind fun _ => blames_variableName.bind fun _ => blames_spaces.bind fun _ =>
        .bind (blames_choose ?_) fun _ => Blames.directiveRest (blames_spaces.bind fun _ =>
          (blames_expression.expecting _).bind fun _ =>
            (blames_endOfStatement completes).bind fun _ => blames_pure _) (.inl rfl)
    · simp only [List.forall_mem_cons]
      exact ⟨blames_word _ _, blames_word _ _, List.forall_mem_nil _⟩
    · simp only [List.forall_mem_cons]
      exact ⟨(blames_literal _).bind fun _ => blames_pure _,
        (blames_literal _).bind fun _ => blames_pure _, List.forall_mem_nil _⟩
  · exact yields_bind fun _ => yields_bind fun _ => yields_bind fun _ => yields_bind fun _ =>
      yields_directiveRest (yields_bind fun _ => yields_bind fun _ => yields_bind fun _ =>
        yields_pure trivial)

theorem isDirective_defineLongHeader : IsDirective (defineLongHeader completes) := by
  refine isDirective_of_word (fun start => ?_) fun start => ?_
  · exact (blames_declaredName _).bind fun _ =>
      (Blames.directiveRest (blames_optionalParameterList.bind fun _ =>
        (blames_endOfStatement completes).bind fun _ => blames_pure _) (.inl rfl)).bind fun _ =>
          blames_pure _
  · exact yields_bind fun _ => yields_bind fun _ => yields_pure rfl

theorem isDirective_define : IsDirective define := by
  refine isDirective_of_word (fun start => ?_) fun start => ?_
  · exact (blames_declaredName _).bind fun _ =>
      (blames_optionalParameterList.directiveRest (.inl rfl)).bind fun _ =>
        blames_column.bind fun _ => blames_spaces.bind fun _ => blames_restOfLine.bind fun _ =>
          blames_pure _
  · exact yields_bind fun _ => yields_bind fun _ => yields_bind fun _ => yields_bind fun _ =>
      yields_bind fun _ => yields_pure trivial

theorem blames_standardTarget : Blames none standardTarget :=
  (blames_char '<').bind fun _ => blames_column.bind fun _ => blames_takeWhile1.bind fun _ =>
    ((blames_char '>').commit.expecting _).bind fun _ => blames_pure _

theorem blames_locationTarget (directive : IncludeDirective) :
    Blames none (locationTarget directive) :=
  blames_column.bind fun _ => blames_takeWhile1.bind fun _ => blames_pure _

theorem isDirective_inclusion : IsDirective (inclusion completes) := by
  refine ⟨_, rfl, fun start => ⟨?_, ?_⟩⟩
  · refine .bind (blames_choose fun reader member => ?_) fun directive =>
      Blames.directiveRest ((blames_spaces1.expecting _).bind fun _ =>
        ((blames_standardTarget.orElse (blames_locationTarget directive)).expecting _).bind fun _ =>
          (blames_endOfStatement completes).bind fun _ => blames_pure _) (.inr (.inr rfl))
    obtain ⟨directive, _, rfl⟩ := List.mem_map.mp member
    exact blames_word _ directive
  · exact yields_bind fun _ => yields_directiveRest (yields_bind fun _ => yields_bind fun _ =>
      yields_bind fun _ => yields_pure trivial)

theorem blames_inlineReturn : Blames none inlineReturn :=
  blames_spaces.bind fun _ => (blames_char '!').bind fun _ => (blames_keyword _).bind fun _ =>
    blames_spaces1.bind fun _ => blames_expression

theorem blames_callableRest (kind : BlockCallable) : Blames none (callableRest kind completes) := by
  refine blames_parameterList.bind fun _ => .bind ?_ fun _ =>
    (blames_endOfStatement completes).bind fun _ => blames_pure _
  cases kind with
  | function => exact blames_inlineReturn.optional
  | procedure => exact blames_pure none

theorem isDirective_callable : IsDirective (callable completes) := by
  rw [callable_eq]
  refine ⟨_, rfl, fun start => ⟨?_, ?_⟩⟩
  · refine ((blames_keyword _).bind fun _ => blames_spaces1).optional.bind fun _ =>
      .bind (blames_choose ?_) fun kind => (blames_declaredName _).bind fun _ =>
        ((blames_callableRest completes kind).directiveRest (.inl rfl)).bind fun _ => blames_pure _
    simp only [List.forall_mem_cons]
    exact ⟨blames_word _ _, blames_word _ _, List.forall_mem_nil _⟩
  · refine yields_bind fun _ => yields_bind fun kind => yields_bind fun _ => yields_bind
      fun found => yields_pure ?_
    obtain ⟨parameters, value, stop⟩ := found
    cases value with
    | none => exact rfl
    | some value => exact trivial

theorem blames_conditionRest (kind : ConditionKind) :
    Blames none (conditionRest kind completes) := by
  rw [conditionRest_eq]
  refine (blames_spaces1.expecting _).bind fun _ => .bind ?_ fun _ =>
    (blames_endOfStatement completes).bind fun _ => blames_pure _
  cases kind with
  | holds => exact blames_expression.expecting _
  | defined | undefined => exact (blames_anyName.expecting _).bind fun _ => blames_pure _

theorem isDirective_branchHeader : IsDirective (branchHeader completes) := by
  refine ⟨_, rfl, fun start => ⟨?_, ?_⟩⟩
  · refine .bind (blames_choose fun reader member => ?_) fun kind =>
      ((blames_conditionRest completes kind).directiveRest (.inl rfl)).bind fun _ => blames_pure _
    obtain ⟨kind, _, rfl⟩ := List.mem_map.mp member
    exact blames_word _ kind
  · exact yields_bind fun _ => yields_bind fun _ => yields_pure rfl

theorem isDirective_loopHeader : IsDirective (loopHeader completes) := by
  refine isDirective_of_word (fun start => ?_) fun start => ?_
  · exact ((blames_conditionRest completes .holds).directiveRest (.inl rfl)).bind fun _ =>
      blames_pure _
  · exact yields_bind fun _ => yields_pure rfl

theorem isDirective_result : IsDirective (result completes) := by
  refine isDirective_of_word (fun start => ?_) fun start => ?_
  · exact Blames.directiveRest (blames_spaces1.bind fun _ =>
      (blames_expression.expecting _).bind fun _ =>
        (blames_endOfStatement completes).bind fun _ => blames_pure _) (.inl rfl)
  · exact yields_directiveRest (yields_bind fun _ => yields_bind fun _ => yields_bind fun _ =>
      yields_pure trivial)

/-- The productions that may commit a line start with the mark of a directive. -/
theorem isDirective_of_mem_openings :
    ∀ production ∈ openings completes, IsDirective production := by
  simp only [openings, List.forall_mem_cons]
  exact ⟨isDirective_declaration completes, isDirective_defineLongHeader completes,
    isDirective_define, isDirective_inclusion completes, isDirective_callable completes,
    isDirective_branchHeader completes, isDirective_loopHeader completes,
    isDirective_result completes, List.forall_mem_nil _⟩

variable {completes} {cursor : Cursor}

theorem IsDirective.tracks {production : Reader Reading} (directive : IsDirective production) :
    Tracks production := by
  obtain ⟨rest, rfl, follows⟩ := directive
  exact tracks_directiveStart.bind fun start => (follows start).1.tracks

/-- A directive that cannot be read to its end is blamed, or an open string in it. -/
theorem IsDirective.isBlamed {production : Reader Reading} (directive : IsDirective production)
    {failure : Failure} (failed : production cursor = .failed failure)
    (committed : failure.committed = true) : failure.IsBlamed cursor := by
  obtain ⟨rest, rfl, follows⟩ := directive
  rcases bind_eq_failed.mp failed with failed | ⟨start, behind, begins, failed⟩
  · rw [uncommitted_of_directiveStart failed] at committed
    cases committed
  · obtain ⟨blanks, mark, lead, rfl, sign⟩ := passes_of_directiveStart begins
    exact (follows mark.column).1.isBlamed lead sign failed committed

/-- A line that cannot be read blames its directive, or a string that it leaves open. -/
theorem isBlamed_of_reading {failure : Failure}
    (failed : reading completes cursor = .failed failure) : failure.IsBlamed cursor := by
  have present : passing completes ≠ [] := List.cons_ne_nil _ _
  rw [reading_eq] at failed
  rcases failed_of_choose_append present failed with
    ⟨production, member, failed, committed⟩ | failed
  · exact (isDirective_of_mem_openings completes production member).isBlamed failed committed
  · obtain ⟨statement, later, read, -⟩ := choose_passing completes cursor
    rw [read] at failed
    cases failed

/-- A block starts at the mark of its directive. -/
theorem passes_of_opens {start : Nat} {header : Header} {later : Cursor}
    (read : reading completes cursor = .read (.opens start header) later) :
    ∃ blanks mark text, cursor.Passes blanks mark ∧ mark.column = start ∧
      mark.Passes ('!' :: text) later := by
  have present : passing completes ≠ [] := List.cons_ne_nil _ _
  rw [reading_eq] at read
  rcases read_of_choose_append present read with ⟨production, member, read⟩ | ⟨-, read⟩
  · obtain ⟨rest, rfl, follows⟩ := isDirective_of_mem_openings completes production member
    obtain ⟨column, behind, begins, read⟩ := bind_eq_read.mp read
    obtain ⟨blanks, mark, lead, rfl, sign⟩ := passes_of_directiveStart begins
    obtain ⟨blames, starts⟩ := follows mark.column
    obtain ⟨text, own⟩ := blames.tracks.passes read
    exact ⟨blanks, mark, text, lead, (starts _ _ _ read).symm, sign.trans own⟩
  · obtain ⟨statement, after, read', -⟩ := choose_passing completes cursor
    rw [read'] at read
    cases read

end Lines

end DiagramAssist.Grammar
