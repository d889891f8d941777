import DiagramAssist.Proofs.Reader.Passage

/-! # Readers that decline

A reader declines when it fails without committing, so that the next alternative is tried. Whether
it does is decided by the combinators: a sequence declines when one of its steps does, alternatives
decline when all of them do, and the rest of a recognised directive never declines.
-/

namespace DiagramAssist.Reader

variable {α β : Type} {cursor : Cursor}

/-- The reader fails and lets the next alternative be tried. -/
def Declines (reader : Reader α) (cursor : Cursor) : Prop :=
  ∃ failure, reader cursor = .failed failure ∧ failure.committed = false

/-- A reader that reads does not decline. -/
theorem not_declines_of_read {reader : Reader α} {value : α} {later : Cursor}
    (read : reader cursor = .read value later) : ¬reader.Declines cursor := by
  rintro ⟨failure, failed, -⟩
  rw [read] at failed
  cases failed

@[simp] theorem not_declines_pure (value : α) : ¬(pure value : Reader α).Declines cursor :=
  not_declines_of_read rfl

@[simp] theorem not_declines_column : ¬column.Declines cursor :=
  not_declines_of_read rfl

@[simp] theorem not_declines_remaining : ¬remaining.Declines cursor :=
  not_declines_of_read rfl

@[simp] theorem not_declines_takeWhile (accepts : Char → Bool) :
    ¬(takeWhile accepts).Declines cursor :=
  not_declines_of_read rfl

@[simp] theorem declines_reject : (reject : Reader α).Declines cursor :=
  ⟨_, rfl, rfl⟩

/-- A sequence declines at the first step that does. -/
@[simp] theorem declines_bind {reader : Reader α} {next : α → Reader β} :
    (reader >>= next).Declines cursor ↔ reader.Declines cursor ∨
      ∃ value middle, reader cursor = .read value middle ∧ (next value).Declines middle := by
  simp only [Declines, bind_apply]
  cases reader cursor with
  | read value middle =>
    simp only [reduceCtorEq, false_and, exists_false, Outcome.read.injEq, false_or]
    exact ⟨fun declines => ⟨value, middle, ⟨rfl, rfl⟩, declines⟩,
      by rintro ⟨_, _, ⟨rfl, rfl⟩, declines⟩; exact declines⟩
  | failed failure =>
    simp only [reduceCtorEq, false_and, exists_false, or_false, Outcome.failed.injEq]

@[simp] theorem declines_map {f : α → β} {reader : Reader α} :
    (f <$> reader).Declines cursor ↔ reader.Declines cursor := by
  change (reader >>= fun value => pure (f value)).Declines cursor ↔ _
  simp only [declines_bind, not_declines_pure, and_false, exists_false, or_false]

@[simp] theorem declines_withClue {clue : Clue} {reader : Reader α} :
    (withClue clue reader).Declines cursor ↔ reader.Declines cursor := by
  simp only [Declines, withClue]
  cases reader cursor with
  | read value next => rfl
  | failed failure => simp only [Outcome.failed.injEq, exists_eq_left']

@[simp] theorem declines_expecting {what : String} {reader : Reader α} :
    (expecting what reader).Declines cursor ↔ reader.Declines cursor :=
  declines_withClue

/-- What commits does not decline. -/
@[simp] theorem not_declines_commit (reader : Reader α) : ¬(commit reader).Declines cursor := by
  simp only [Declines, commit]
  cases reader cursor with
  | read value next => simp only [reduceCtorEq, false_and, exists_false, not_false_eq_true]
  | failed failure => simp only [Outcome.failed.injEq, exists_eq_left', Bool.true_eq_false,
      not_false_eq_true]

@[simp] theorem not_declines_directiveRest (start : Nat) (fault : Fault) (reader : Reader α) :
    ¬(directiveRest start fault reader).Declines cursor := by
  simp only [directiveRest, declines_withClue, not_declines_commit, not_false_eq_true]

theorem committed_of_directiveRest {start : Nat} {fault : Fault} {reader : Reader α}
    {failure : Failure} (failed : directiveRest start fault reader cursor = .failed failure) :
    failure.committed = true := by
  cases committed : failure.committed with
  | true => rfl
  | false =>
    exact absurd ⟨failure, failed, committed⟩ (not_declines_directiveRest start fault reader)

/-- Alternatives decline when both do. -/
@[simp] theorem declines_orElse {first second : Reader α} :
    (orElse first second).Declines cursor ↔ first.Declines cursor ∧ second.Declines cursor := by
  simp only [Declines, orElse]
  cases first cursor with
  | read value next => simp only [reduceCtorEq, false_and, exists_false]
  | failed failure =>
    cases committed : failure.committed <;>
      simp [committed]

theorem orElse_of_declines {first second : Reader α} (declines : first.Declines cursor) :
    orElse first second cursor = second cursor := by
  obtain ⟨failure, failed, soft⟩ := declines
  simp only [orElse, failed, soft, Bool.false_eq_true, ↓reduceIte]

theorem orElse_of_read {first second : Reader α} {value : α} {later : Cursor}
    (read : first cursor = .read value later) : orElse first second cursor = .read value later := by
  simp only [orElse, read]

theorem choose_of_read {reader : Reader α} {rest : List (Reader α)} {value : α} {later : Cursor}
    (read : reader cursor = .read value later) :
    choose (reader :: rest) cursor = .read value later := by
  cases rest with
  | nil => exact read
  | cons other rest => exact orElse_of_read read

theorem choose_of_declines {reader other : Reader α} {rest : List (Reader α)}
    (declines : reader.Declines cursor) :
    choose (reader :: other :: rest) cursor = choose (other :: rest) cursor :=
  orElse_of_declines declines

/-- A choice declines when every alternative does. -/
@[simp] theorem declines_choose {readers : List (Reader α)} :
    (choose readers).Declines cursor ↔ ∀ reader ∈ readers, reader.Declines cursor := by
  fun_induction choose readers with
  | case1 => simp only [declines_reject, List.not_mem_nil, false_implies, implies_true]
  | case2 reader => simp only [List.mem_singleton, forall_eq]
  | case3 reader rest _ ih => rw [declines_orElse, ih, List.forall_mem_cons]

/-- Alternatives that decline are passed over. -/
theorem choose_append_of_declines {first second : List (Reader α)}
    (declines : ∀ reader ∈ first, reader.Declines cursor) (present : second ≠ []) :
    choose (first ++ second) cursor = choose second cursor := by
  induction first with
  | nil => rfl
  | cons reader rest ih =>
    rw [List.forall_mem_cons] at declines
    obtain ⟨other, others, behind⟩ := List.exists_cons_of_ne_nil
      (List.append_ne_nil_of_right_ne_nil rest present)
    rw [← ih declines.2, List.cons_append, behind]
    exact choose_of_declines declines.1

/-- What a choice reads is read by one of the first alternatives, or all of them decline. -/
theorem read_of_choose_append {first second : List (Reader α)} {value : α} {later : Cursor}
    (present : second ≠ []) (read : choose (first ++ second) cursor = .read value later) :
    (∃ reader ∈ first, reader cursor = .read value later) ∨
      (∀ reader ∈ first, reader.Declines cursor) ∧ choose second cursor = .read value later := by
  induction first with
  | nil => exact .inr ⟨nofun, read⟩
  | cons reader rest ih =>
    obtain ⟨other, others, behind⟩ := List.exists_cons_of_ne_nil
      (List.append_ne_nil_of_right_ne_nil rest present)
    rw [List.cons_append, behind] at read
    rw [behind] at ih
    cases outcome : reader cursor with
    | read found next =>
      rw [choose_of_read outcome] at read
      exact .inl ⟨reader, List.mem_cons_self, outcome.trans read⟩
    | failed failure =>
      cases committed : failure.committed with
      | true =>
        simp only [choose, orElse, outcome, committed, ↓reduceIte, reduceCtorEq] at read
      | false =>
        have declines : reader.Declines cursor := ⟨failure, outcome, committed⟩
        rw [choose_of_declines declines] at read
        rcases ih read with ⟨found, member, read⟩ | ⟨rest, read⟩
        · exact .inl ⟨found, List.mem_cons_of_mem reader member, read⟩
        · exact .inr ⟨List.forall_mem_cons.mpr ⟨declines, rest⟩, read⟩

/-- A choice fails as one of the first alternatives that commits, or as the others do. -/
theorem failed_of_choose_append {first second : List (Reader α)} {failure : Failure}
    (present : second ≠ []) (failed : choose (first ++ second) cursor = .failed failure) :
    (∃ reader ∈ first, reader cursor = .failed failure ∧ failure.committed = true) ∨
      choose second cursor = .failed failure := by
  induction first with
  | nil => exact .inr failed
  | cons reader rest ih =>
    obtain ⟨other, others, behind⟩ := List.exists_cons_of_ne_nil
      (List.append_ne_nil_of_right_ne_nil rest present)
    rw [List.cons_append, behind] at failed
    rw [behind] at ih
    cases outcome : reader cursor with
    | read found next =>
      rw [choose_of_read outcome] at failed
      cases failed
    | failed inner =>
      cases committed : inner.committed with
      | true =>
        simp only [choose, orElse, outcome, committed, ↓reduceIte, Outcome.failed.injEq] at failed
        subst failed
        exact .inl ⟨reader, List.mem_cons_self, outcome, committed⟩
      | false =>
        rw [choose_of_declines ⟨inner, outcome, committed⟩] at failed
        refine (ih failed).imp_left ?_
        rintro ⟨found, member, failed, committed⟩
        exact ⟨found, List.mem_cons_of_mem reader member, failed, committed⟩

/-- A reader that relents reads or declines. -/
theorem relent_reads_or_declines (reader : Reader α) :
    (∃ value later, relent reader cursor = .read value later) ∨
      (relent reader).Declines cursor := by
  simp only [Declines, relent]
  cases reader cursor with
  | read value later => exact .inl ⟨value, later, rfl⟩
  | failed failure => exact .inr ⟨_, rfl, rfl⟩

/-- An absent value is what the reader declined. -/
theorem optional_of_declines {reader : Reader α} (declines : reader.Declines cursor) :
    optional reader cursor = .read none cursor := by
  obtain ⟨failure, failed, soft⟩ := declines
  simp only [optional, failed, soft, Bool.false_eq_true, ↓reduceIte]

theorem optional_of_read {reader : Reader α} {value : α} {later : Cursor}
    (read : reader cursor = .read value later) :
    optional reader cursor = .read (some value) later := by
  simp only [optional, read]

@[simp] theorem not_declines_optional (reader : Reader α) : ¬(optional reader).Declines cursor := by
  simp only [Declines, optional]
  cases reader cursor with
  | read value next => simp only [reduceCtorEq, false_and, exists_false, not_false_eq_true]
  | failed failure => cases committed : failure.committed <;> simp [committed]

section Characters

variable {accepts : Char → Bool}

@[simp] theorem declines_one :
    (one accepts).Declines cursor ↔ cursor.rest.head?.any accepts = false := by
  rcases cursor with ⟨column, _ | ⟨c, rest⟩⟩
  · simp [Declines, one]
  · cases accepted : accepts c <;> simp [Declines, one, accepted]

@[simp] theorem declines_takeWhile1 :
    (takeWhile1 accepts).Declines cursor ↔ cursor.rest.head?.any accepts = false := by
  rcases cursor with ⟨column, _ | ⟨c, rest⟩⟩
  · simp [Declines, takeWhile1]
  · cases accepted : accepts c <;> simp [Declines, takeWhile1, accepted]

@[simp] theorem declines_char {c : Char} :
    (char c).Declines cursor ↔ cursor.rest.head? ≠ some c := by
  simp only [char, declines_bind, declines_one, not_declines_pure, and_false, exists_false,
    or_false]
  cases cursor.rest.head? <;> simp

@[simp] theorem declines_notFollowedBy :
    (notFollowedBy accepts).Declines cursor ↔ cursor.rest.head?.any accepts = true := by
  rcases cursor with ⟨column, _ | ⟨c, rest⟩⟩
  · simp [Declines, notFollowedBy]
  · cases accepted : accepts c <;> simp [Declines, notFollowedBy, accepted]

@[simp] theorem declines_literal {text : String} :
    (literal text).Declines cursor ↔ text.toList.isPrefixOf cursor.rest = false := by
  cases isPrefix : text.toList.isPrefixOf cursor.rest <;> simp [Declines, literal, isPrefix]

@[simp] theorem not_declines_spaces : ¬spaces.Declines cursor := by
  simp only [spaces, declines_bind, not_declines_takeWhile, not_declines_pure, and_false,
    exists_false, or_self, not_false_eq_true]

@[simp] theorem declines_spaces1 :
    spaces1.Declines cursor ↔ cursor.rest.head?.any Text.isSpace = false := by
  simp only [spaces1, declines_bind, declines_takeWhile1, not_declines_pure, and_false,
    exists_false, or_false]

end Characters

end DiagramAssist.Reader
