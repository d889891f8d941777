import DiagramAssist.Reader.Lexical

/-! # The text a reader passes

A reader that succeeds has moved the cursor behind some text, and what it read is determined by that
text. This module inverts the combinators and the words of a line: from `reader cursor = .read ..`
follow the cursors in between and the texts between them (`Cursor.Passes`). Productions are inverted
with these lemmas only, without looking at what a cursor is.
-/

namespace DiagramAssist

/-- The later cursor stands behind `taken`, which the earlier one had still in front of it. -/
structure Cursor.Passes (cursor : Cursor) (taken : List Char) (later : Cursor) : Prop where
  rest : cursor.rest = taken ++ later.rest
  column : later.column = cursor.column + Text.byteLength taken

namespace Cursor

theorem passes_nil (cursor : Cursor) : cursor.Passes [] cursor :=
  ⟨rfl, rfl⟩

theorem Passes.trans {first second third : Cursor} {taken more : List Char}
    (before : first.Passes taken second) (behind : second.Passes more third) :
    first.Passes (taken ++ more) third where
  rest := by rw [before.rest, behind.rest, List.append_assoc]
  column := by rw [behind.column, before.column, Text.byteLength_append, Nat.add_assoc]

/-- What has been passed and what is left make up the whole. -/
theorem Passes.reach {cursor later : Cursor} {taken : List Char}
    (passes : cursor.Passes taken later) :
    later.column + Text.byteLength later.rest = cursor.column + Text.byteLength cursor.rest := by
  rw [passes.column, passes.rest, Text.byteLength_append, Nat.add_assoc]

theorem Passes.reach_content {content taken : List Char} {later : Cursor}
    (passes : Cursor.Passes ⟨0, content⟩ taken later) :
    later.column + Text.byteLength later.rest = Text.byteLength content := by
  rw [passes.reach, Nat.zero_add]

theorem Passes.advance {cursor : Cursor} {taken rest : List Char}
    (split : cursor.rest = taken ++ rest) : cursor.Passes taken (cursor.advance taken rest) :=
  ⟨split, rfl⟩

end Cursor

namespace Reader

/-- Readers that follow one another may be grouped in any way. -/
instance : LawfulMonad Reader := by
  refine LawfulMonad.mk' Reader ?_ ?_ ?_
  · intro α reader
    funext cursor
    change (reader >>= fun value => pure value) cursor = _
    rw [bind_apply]
    cases reader cursor <;> rfl
  · intro α β value next
    rfl
  · intro α β γ reader first second
    funext cursor
    simp only [bind_apply]
    cases reader cursor <;> rfl

variable {α β : Type} {cursor later : Cursor}

@[simp] theorem pure_eq_read {value found : α} :
    (pure value : Reader α) cursor = .read found later ↔ value = found ∧ cursor = later := by
  simp only [pure_apply, Outcome.read.injEq]

@[simp] theorem bind_eq_read {reader : Reader α} {next : α → Reader β} {found : β} :
    (reader >>= next) cursor = .read found later ↔
      ∃ value middle, reader cursor = .read value middle ∧
        next value middle = .read found later := by
  rw [bind_apply]
  cases reader cursor with
  | read value middle =>
    simp only [Outcome.read.injEq]
    exact ⟨fun found => ⟨value, middle, ⟨rfl, rfl⟩, found⟩,
      by rintro ⟨_, _, ⟨rfl, rfl⟩, found⟩; exact found⟩
  | failed failure => simp only [reduceCtorEq, false_and, exists_false]

@[simp] theorem map_eq_read {reader : Reader α} {f : α → β} {found : β} :
    (f <$> reader) cursor = .read found later ↔
      ∃ value, reader cursor = .read value later ∧ f value = found := by
  change (reader >>= fun value => pure (f value)) cursor = _ ↔ _
  simp only [bind_eq_read, pure_eq_read]
  exact ⟨fun ⟨value, _, read, same, rfl⟩ => ⟨value, read, same⟩,
    fun ⟨value, read, same⟩ => ⟨value, later, read, same, rfl⟩⟩

@[simp] theorem reject_ne_read {found : α} : (reject : Reader α) cursor ≠ .read found later := by
  simp only [reject, ne_eq, reduceCtorEq, not_false_eq_true]

@[simp] theorem column_eq_read {found : Nat} :
    column cursor = .read found later ↔ cursor.column = found ∧ cursor = later := by
  simp only [column, Outcome.read.injEq]

@[simp] theorem remaining_eq_read {found : List Char} :
    remaining cursor = .read found later ↔ cursor.rest = found ∧ cursor = later := by
  simp only [remaining, Outcome.read.injEq]

@[simp] theorem withClue_eq_read {clue : Clue} {reader : Reader α} {found : α} :
    withClue clue reader cursor = .read found later ↔ reader cursor = .read found later := by
  simp only [withClue]
  cases reader cursor <;> simp

@[simp] theorem expecting_eq_read {what : String} {reader : Reader α} {found : α} :
    expecting what reader cursor = .read found later ↔ reader cursor = .read found later :=
  withClue_eq_read

@[simp] theorem commit_eq_read {reader : Reader α} {found : α} :
    commit reader cursor = .read found later ↔ reader cursor = .read found later := by
  simp only [commit]
  cases reader cursor <;> simp

@[simp] theorem relent_eq_read {reader : Reader α} {found : α} :
    relent reader cursor = .read found later ↔ reader cursor = .read found later := by
  simp only [relent]
  cases reader cursor <;> simp

@[simp] theorem directiveRest_eq_read {start : Nat} {fault : Fault} {reader : Reader α}
    {found : α} :
    directiveRest start fault reader cursor = .read found later ↔
      reader cursor = .read found later := by
  simp only [directiveRest, withClue_eq_read, commit_eq_read]

/-- What alternatives read is what one of them reads. -/
theorem read_of_orElse {first second : Reader α} {found : α}
    (read : orElse first second cursor = .read found later) :
    first cursor = .read found later ∨ second cursor = .read found later := by
  simp only [orElse] at read
  cases outcome : first cursor with
  | read value middle =>
    rw [outcome] at read
    exact .inl read
  | failed failure =>
    simp only [outcome] at read
    split at read
    · cases read
    · exact .inr read

theorem read_of_choose {readers : List (Reader α)} {found : α}
    (read : choose readers cursor = .read found later) :
    ∃ reader ∈ readers, reader cursor = .read found later := by
  fun_induction choose readers with
  | case1 => exact (reject_ne_read read).elim
  | case2 reader => exact ⟨reader, List.mem_singleton_self reader, read⟩
  | case3 reader rest _ ih =>
    rcases read_of_orElse read with read | read
    · exact ⟨reader, List.mem_cons_self, read⟩
    · obtain ⟨other, member, read⟩ := ih read
      exact ⟨other, List.mem_cons_of_mem reader member, read⟩

theorem read_of_optional {reader : Reader α} {found : Option α}
    (read : optional reader cursor = .read found later) :
    (∃ value, found = some value ∧ reader cursor = .read value later) ∨
      found = none ∧ cursor = later := by
  simp only [optional] at read
  cases outcome : reader cursor with
  | read value middle =>
    simp only [outcome, Outcome.read.injEq] at read
    obtain ⟨rfl, rfl⟩ := read
    exact .inl ⟨value, rfl, rfl⟩
  | failed failure =>
    simp only [outcome] at read
    split at read
    · cases read
    · simp only [Outcome.read.injEq] at read
      exact .inr ⟨read.1.symm, read.2⟩

/-- Everything that the reader reads has the property. -/
def Yields (reader : Reader α) (property : α → Prop) : Prop :=
  ∀ cursor value later, reader cursor = .read value later → property value

section Yields

variable {property : β → Prop}

theorem yields_pure {value : β} (holds : property value) :
    (pure value : Reader β).Yields property := by
  intro cursor found later read
  exact (pure_eq_read.mp read).1 ▸ holds

/-- What a sequence reads is what its last step reads. -/
theorem yields_bind {reader : Reader α} {next : α → Reader β}
    (last : ∀ value, (next value).Yields property) : (reader >>= next).Yields property := by
  intro cursor found later read
  obtain ⟨value, middle, -, read⟩ := bind_eq_read.mp read
  exact last value middle found later read

theorem yields_directiveRest {reader : Reader β} {start : Nat} {fault : Fault}
    (yields : reader.Yields property) : (directiveRest start fault reader).Yields property :=
  fun cursor found later read => yields cursor found later (directiveRest_eq_read.mp read)

theorem yields_relent {reader : Reader β} (yields : reader.Yields property) :
    (relent reader).Yields property :=
  fun cursor found later read => yields cursor found later (relent_eq_read.mp read)

theorem yields_reject : (reject : Reader β).Yields property :=
  fun _ _ _ read => (reject_ne_read read).elim

end Yields

section Characters

variable {accepts : Char → Bool}

theorem passes_of_takeWhile {found : List Char}
    (read : takeWhile accepts cursor = .read found later) :
    cursor.Passes found later ∧ found.all accepts = true := by
  simp only [takeWhile, Outcome.read.injEq] at read
  obtain ⟨rfl, rfl⟩ := read
  exact ⟨.advance List.takeWhile_append_dropWhile.symm, List.all_takeWhile⟩

theorem passes_of_takeWhile1 {found : List Char}
    (read : takeWhile1 accepts cursor = .read found later) :
    cursor.Passes found later ∧ found ≠ [] ∧ found.all accepts = true := by
  simp only [takeWhile1] at read
  split at read
  · cases read
  · next present =>
    simp only [Outcome.read.injEq] at read
    obtain ⟨rfl, rfl⟩ := read
    exact ⟨.advance List.takeWhile_append_dropWhile.symm,
      fun none => present (List.isEmpty_iff.mpr none), List.all_takeWhile⟩

theorem passes_of_one {found : Char} (read : one accepts cursor = .read found later) :
    cursor.Passes [found] later ∧ accepts found = true := by
  simp only [one] at read
  split at read
  · next c rest split =>
    split at read
    · next accepted =>
      simp only [Outcome.read.injEq] at read
      obtain ⟨rfl, rfl⟩ := read
      exact ⟨.advance split, accepted⟩
    · cases read
  · cases read

theorem passes_of_literal {text : String} (read : literal text cursor = .read () later) :
    cursor.Passes text.toList later := by
  simp only [literal] at read
  split at read
  · next isPrefix =>
    simp only [Outcome.read.injEq, true_and] at read
    obtain ⟨rest, split⟩ := List.isPrefixOf_iff_prefix.mp isPrefix
    rw [← read, ← split, List.drop_left]
    exact .advance split.symm
  · cases read

theorem passes_of_char {c : Char} (read : char c cursor = .read () later) :
    cursor.Passes [c] later := by
  simp only [char, bind_eq_read, pure_eq_read, true_and] at read
  obtain ⟨found, _, read, rfl⟩ := read
  obtain ⟨passes, same⟩ := passes_of_one read
  rwa [← eq_of_beq same]

/-- A look at the next character does not move. -/
theorem eq_of_notFollowedBy {rejects : Char → Bool}
    (read : notFollowedBy rejects cursor = .read () later) : cursor = later := by
  simp only [notFollowedBy] at read
  split at read
  · split at read
    · cases read
    · exact (Outcome.read.inj read).2
  · exact (Outcome.read.inj read).2

end Characters

section Words

theorem passes_of_spaces (read : spaces cursor = .read () later) :
    ∃ blanks, cursor.Passes blanks later := by
  simp only [spaces, bind_eq_read, pure_eq_read, true_and] at read
  obtain ⟨blanks, _, read, rfl⟩ := read
  exact ⟨blanks, (passes_of_takeWhile read).1⟩

theorem passes_of_spaces1 (read : spaces1 cursor = .read () later) :
    ∃ blanks, cursor.Passes blanks later := by
  simp only [spaces1, bind_eq_read, pure_eq_read, true_and] at read
  obtain ⟨blanks, _, read, rfl⟩ := read
  exact ⟨blanks, (passes_of_takeWhile1 read).1⟩

theorem passes_of_keyword {word : String} (read : keyword word cursor = .read () later) :
    cursor.Passes word.toList later := by
  simp only [keyword, bind_eq_read] at read
  obtain ⟨_, middle, read, looked⟩ := read
  rw [← eq_of_notFollowedBy looked]
  exact passes_of_literal read

/-- The column that a directive starts at is that of its `!`. -/
theorem passes_of_directiveStart {start : Nat}
    (read : directiveStart cursor = .read start later) :
    ∃ blanks middle, cursor.Passes blanks middle ∧ middle.column = start ∧
      middle.Passes ['!'] later := by
  simp only [directiveStart, bind_eq_read, column_eq_read, pure_eq_read] at read
  obtain ⟨_, middle, blank, _, _, ⟨rfl, rfl⟩, _, _, mark, rfl, rfl⟩ := read
  obtain ⟨blanks, passes⟩ := passes_of_spaces blank
  exact ⟨blanks, middle, passes, rfl, passes_of_char mark⟩

theorem passes_of_directive {word : String} {start : Nat}
    (read : directive word cursor = .read start later) :
    ∃ blanks middle, cursor.Passes blanks middle ∧ middle.column = start ∧
      middle.Passes ('!' :: word.toList) later := by
  simp only [directive, bind_eq_read, pure_eq_read] at read
  obtain ⟨_, _, begins, _, _, word, rfl, rfl⟩ := read
  obtain ⟨blanks, middle, passes, same, mark⟩ := passes_of_directiveStart begins
  exact ⟨blanks, middle, passes, same, mark.trans (passes_of_keyword word)⟩

/-- Whether a text is a name, bare or with the sigil of a variable. -/
def isName : List Char → Bool
  | '$' :: name => !name.isEmpty && name.all isNameChar
  | first :: more => isNameStart first && more.all isNameChar
  | [] => false

theorem passes_of_variableName {found : Located String}
    (read : variableName cursor = .read found later) :
    ∃ name, cursor.Passes name later ∧ isName name = true ∧
      found = located name cursor.column := by
  simp only [variableName, bind_eq_read, column_eq_read, pure_eq_read] at read
  obtain ⟨_, _, ⟨rfl, rfl⟩, _, _, sigil, name, _, word, rfl, rfl⟩ := read
  obtain ⟨passes, present, named⟩ := passes_of_takeWhile1 word
  refine ⟨'$' :: name, (passes_of_char sigil).trans passes, ?_, rfl⟩
  simp only [isName, named, Bool.and_true, Bool.not_eq_true', List.isEmpty_eq_false_iff]
  exact present

theorem passes_of_bareName {found : Located String}
    (read : bareName cursor = .read found later) :
    ∃ name, cursor.Passes name later ∧ isName name = true ∧
      found = located name cursor.column := by
  simp only [bareName, bind_eq_read, column_eq_read, pure_eq_read] at read
  obtain ⟨_, _, ⟨rfl, rfl⟩, first, _, letter, more, _, word, rfl, rfl⟩ := read
  obtain ⟨begins, starts⟩ := passes_of_one letter
  obtain ⟨passes, named⟩ := passes_of_takeWhile word
  refine ⟨first :: more, begins.trans passes, ?_, rfl⟩
  have bare : first ≠ '$' := by
    rintro rfl
    exact absurd starts (by decide)
  simp only [isName, starts, named, Bool.and_self]

theorem passes_of_anyName {found : Located String} (read : anyName cursor = .read found later) :
    ∃ name, cursor.Passes name later ∧ isName name = true ∧
      found = located name cursor.column :=
  (read_of_orElse read).elim passes_of_variableName passes_of_bareName

theorem restOfLine_apply (cursor : Cursor) :
    restOfLine cursor = .read (cursor.rest, cursor.column) (cursor.advance cursor.rest []) := by
  have taken : (cursor.rest ++ []).takeWhile (fun _ => true) = cursor.rest ++ [] :=
    List.takeWhile_append_of_pos fun _ _ => rfl
  have left : (cursor.rest ++ []).dropWhile (fun _ => true) = [] :=
    List.dropWhile_append_of_pos fun _ _ => rfl
  rw [List.append_nil] at taken left
  simp only [restOfLine, column, takeWhile, bind_apply, pure_apply, taken, left]

/-- What is left of the line is passed as a whole. -/
theorem passes_of_restOfLine {text : List Char} {start : Nat}
    (read : restOfLine cursor = .read (text, start) later) :
    cursor.Passes text later ∧ start = cursor.column := by
  simp only [restOfLine_apply, Outcome.read.injEq, Prod.mk.injEq] at read
  obtain ⟨⟨rfl, rfl⟩, rfl⟩ := read
  exact ⟨.advance (List.append_nil _).symm, rfl⟩

theorem passes_of_endOfStatement {completes : Bool} {stop : Nat}
    (read : endOfStatement completes cursor = .read stop later) :
    (∃ blanks, cursor.Passes blanks later) ∧ stop = later.column := by
  simp only [endOfStatement, bind_eq_read, column_eq_read] at read
  obtain ⟨_, middle, blank, _, _, ⟨rfl, rfl⟩, read⟩ := read
  split at read
  · simp only [bind_eq_read, pure_eq_read] at read
    obtain ⟨_, _, looked, rfl, rfl⟩ := read
    rw [← eq_of_notFollowedBy looked]
    exact ⟨passes_of_spaces blank, rfl⟩
  · exact (reject_ne_read read).elim

end Words

end Reader

end DiagramAssist
