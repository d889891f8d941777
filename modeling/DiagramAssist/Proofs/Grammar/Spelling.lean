import DiagramAssist.Grammar.Block
import DiagramAssist.Proofs.Document.Outline
import DiagramAssist.Proofs.Reader.Tracking

/-! # What productions read stands in the text they pass

Every production of the grammar reads something whose outline covers the text that the production
passes, or a piece of it. The lemmas follow the grammar production by production, and the recursion
of expressions by the depth of nesting.
-/

namespace DiagramAssist

open Outline

theorem Span.cover_between {a b c d : Nat} (left : a ≤ b) (gap : b ≤ c) (right : c ≤ d) :
    (Span.between a b).cover (.between c d) = .between a d := by
  simp only [Span.cover, Span.between, Span.mk.injEq]
  omega

/-- The outline of what is read covers exactly what is passed. -/
def Reader.Spells {α : Type} (reader : Reader α) (outline : α → Outline) : Prop :=
  ∀ ⦃cursor : Cursor⦄ ⦃value : α⦄ ⦃later : Cursor⦄, reader cursor = .read value later →
    ∃ taken, cursor.Passes taken later ∧ (outline value).Covers cursor.column taken

/-- The outlines of what is read cover pieces of what is passed. -/
def Reader.SpellsAll {α : Type} (reader : Reader α) (outlines : α → List Outline) : Prop :=
  ∀ ⦃cursor : Cursor⦄ ⦃value : α⦄ ⦃later : Cursor⦄, reader cursor = .read value later →
    ∃ taken, cursor.Passes taken later ∧ InTurn (outlines value) cursor.column taken

namespace Reader

theorem spells_anyName : anyName.Spells Located.nameOutline := by
  intro cursor value later read
  obtain ⟨name, passes, named, rfl⟩ := passes_of_anyName read
  exact ⟨name, passes, Located.covers_nameOutline named cursor.column⟩

theorem spells_variableName : variableName.Spells Located.nameOutline := by
  intro cursor value later read
  obtain ⟨name, passes, named, rfl⟩ := passes_of_variableName read
  exact ⟨name, passes, Located.covers_nameOutline named cursor.column⟩

theorem spells_stringLiteral : stringLiteral.Spells Expression.outline := by
  intro cursor value later read
  simp only [stringLiteral, bind_eq_read, column_eq_read, withClue_eq_read, expecting_eq_read,
    commit_eq_read, pure_eq_read] at read
  obtain ⟨_, _, ⟨rfl, rfl⟩, quote, _, opening, inside, _, kept, _, _, closing, _, _, ⟨rfl, rfl⟩,
    rfl, rfl⟩ := read
  obtain ⟨opens, isQuote⟩ := passes_of_one opening
  obtain ⟨holds, plain⟩ := passes_of_takeWhile kept
  have passes := opens.trans (holds.trans (passes_of_char closing))
  refine ⟨_, passes, passes.covers ⟨quote, ?_, ?_, ?_⟩ inTurn_nil⟩
  · simpa only [Bool.or_eq_true, beq_iff_eq] using isQuote
  · simp only [String.toList_ofList, List.singleton_append]
  · intro c member
    rw [String.toList_ofList] at member
    simpa only [Bool.not_eq_true', Bool.or_eq_false_iff, beq_eq_false_iff_ne, and_assoc] using
      List.all_eq_true.mp plain c member

theorem spells_numberLiteral : numberLiteral.Spells Expression.outline := by
  intro cursor value later read
  simp only [numberLiteral, bind_eq_read, column_eq_read, pure_eq_read] at read
  obtain ⟨_, _, ⟨rfl, rfl⟩, sign, _, signed, integer, _, digits, fraction, _, rest, _, _,
    ⟨rfl, rfl⟩, rfl, rfl⟩ := read
  obtain ⟨taken, before⟩ := (tracks_char '-').optional.passes signed
  have number := before.trans (passes_of_takeWhile1 digits).1
  rcases read_of_optional rest with ⟨decimals, rfl, present⟩ | ⟨rfl, rfl⟩
  · simp only [bind_eq_read] at present
    obtain ⟨_, _, point, decimals⟩ := present
    have passes := number.trans ((passes_of_char point).trans (passes_of_takeWhile1 decimals).1)
    exact ⟨_, passes, passes.covers trivial inTurn_nil⟩
  · exact ⟨_, number, number.covers trivial inTurn_nil⟩

theorem spells_operator : operator.Spells Located.operatorOutline := by
  intro cursor value later read
  simp only [operator, bind_eq_read, column_eq_read, pure_eq_read] at read
  obtain ⟨_, _, ⟨rfl, rfl⟩, found, _, chosen, _, _, ⟨rfl, rfl⟩, rfl, rfl⟩ := read
  obtain ⟨reader, member, read⟩ := read_of_choose chosen
  obtain ⟨operator, _, rfl⟩ := List.mem_map.mp member
  simp only [bind_eq_read, pure_eq_read] at read
  obtain ⟨_, _, spelled, rfl, rfl⟩ := read
  have passes := passes_of_literal spelled
  exact ⟨_, passes, passes.covers rfl inTurn_nil⟩

section Series

variable {α : Type} {separator : Reader Unit} {item : Reader α} {outline : α → Outline}

theorem spells_moreSeparated (apart : Tracks separator) (spells : item.Spells outline)
    (bound : Nat) :
    (moreSeparated separator item bound).SpellsAll (·.map outline) := by
  induction bound with
  | zero =>
    intro cursor values later read
    simp only [moreSeparated, pure_eq_read] at read
    obtain ⟨rfl, rfl⟩ := read
    exact ⟨[], cursor.passes_nil, inTurn_nil⟩
  | succ bound ih =>
    intro cursor values later read
    simp only [moreSeparated, bind_eq_read] at read
    obtain ⟨found, middle, tried, read⟩ := read
    rcases read_of_optional tried with ⟨value, rfl, present⟩ | ⟨rfl, rfl⟩
    · simp only [bind_eq_read, pure_eq_read] at present read
      obtain ⟨_, _, parted, first⟩ := present
      obtain ⟨rest, _, others, rfl, rfl⟩ := read
      obtain ⟨gap, between⟩ := apart.passes parted
      obtain ⟨own, passes, covers⟩ := spells first
      obtain ⟨tail, behind, inTurn⟩ := ih others
      exact ⟨_, between.trans (passes.trans behind), between.skip (passes.cover covers inTurn)⟩
    · simp only [pure_eq_read] at read
      obtain ⟨rfl, rfl⟩ := read
      exact ⟨[], cursor.passes_nil, inTurn_nil⟩

/-- The elements of a series cover pieces of it in turn. -/
theorem spells_separated (apart : Tracks separator) (spells : item.Spells outline) :
    (separated separator item).SpellsAll (·.map outline) := by
  intro cursor values later read
  simp only [separated, bind_eq_read] at read
  obtain ⟨found, middle, tried, read⟩ := read
  rcases read_of_optional tried with ⟨value, rfl, first⟩ | ⟨rfl, rfl⟩
  · simp only [bind_eq_read, remaining_eq_read, pure_eq_read] at read
    obtain ⟨_, _, ⟨rfl, rfl⟩, rest, _, others, rfl, rfl⟩ := read
    obtain ⟨own, passes, covers⟩ := spells first
    obtain ⟨tail, behind, inTurn⟩ := spells_moreSeparated apart spells _ others
    exact ⟨_, passes.trans behind, passes.cover covers inTurn⟩
  · simp only [pure_eq_read] at read
    obtain ⟨rfl, rfl⟩ := read
    exact ⟨[], cursor.passes_nil, inTurn_nil⟩

end Series

end Reader

namespace Grammar

open Reader

/-! ## Expressions -/

theorem tracks_comma : Tracks comma :=
  tracks_spaces.bind fun _ => (tracks_char ',').bind fun _ => tracks_spaces

section Nested

variable {nested : Reader Expression} (spells : nested.Spells Expression.outline)
include spells

theorem spells_parenthesized : (parenthesized nested).Spells Expression.outline := by
  intro cursor value later read
  simp only [parenthesized, bind_eq_read, column_eq_read, expecting_eq_read, pure_eq_read] at read
  obtain ⟨_, _, ⟨rfl, rfl⟩, _, _, opening, _, _, blank, inner, _, read, _, _, blank', _, _,
    closing, _, _, ⟨rfl, rfl⟩, rfl, rfl⟩ := read
  have opens := passes_of_char opening
  obtain ⟨lead, before⟩ := passes_of_spaces blank
  obtain ⟨own, holds, covers⟩ := spells read
  obtain ⟨trail, behind⟩ := passes_of_spaces blank'
  have passes := opens.trans (before.trans (holds.trans (behind.trans (passes_of_char closing))))
  exact ⟨_, passes,
    passes.covers trivial (opens.skip (before.skip (holds.cover covers inTurn_nil)))⟩

theorem spells_argument : (argument nested).Spells Argument.outline := by
  intro cursor found later read
  simp only [argument, bind_eq_read, column_eq_read, pure_eq_read] at read
  obtain ⟨_, _, ⟨rfl, rfl⟩, name, middle, named, value, stopped, read, rfl, rfl⟩ := read
  obtain ⟨own, holds, covers⟩ := spells read
  -- the argument ends where its value does
  have stop : value.span.stop = stopped.column := by
    rw [← Expression.span_outline, covers.span_eq, Span.stop_between_of_le (Nat.le_add_right ..),
      holds.column]
  rcases read_of_optional named with ⟨name, rfl, present⟩ | ⟨rfl, rfl⟩
  · simp only [argumentName, bind_eq_read, pure_eq_read] at present
    obtain ⟨_, _, word, _, _, blank, _, _, equals, _, _, looked, _, _, blank', rfl, rfl⟩ := present
    obtain ⟨label, begins, labelled⟩ := spells_anyName word
    obtain ⟨lead, before⟩ := passes_of_spaces blank
    have sign := passes_of_char equals
    rw [eq_of_notFollowedBy looked] at sign
    obtain ⟨trail, behind⟩ := passes_of_spaces blank'
    have passes := begins.trans (before.trans (sign.trans (behind.trans holds)))
    refine ⟨_, passes, ?_⟩
    rw [Argument.outline, stop]
    exact passes.covers trivial (begins.cover labelled
      (before.skip (sign.skip (behind.skip (covers.inTurn)))))
  · refine ⟨own, holds, ?_⟩
    rw [Argument.outline, stop]
    exact holds.covers trivial covers.inTurn

theorem spells_call : (call nested).Spells fun found => found.toExpression.outline := by
  intro cursor found later read
  simp only [call, bind_eq_read, column_eq_read, expecting_eq_read, pure_eq_read] at read
  obtain ⟨_, _, ⟨rfl, rfl⟩, sigil, _, signed, callee, _, word, _, _, opening, _, _, blank,
    arguments, _, series, _, _, blank', _, _, closing, _, _, ⟨rfl, rfl⟩, rfl, rfl⟩ := read
  obtain ⟨sign, before⟩ := (tracks_char '%').optional.passes signed
  obtain ⟨name, named, callee⟩ := spells_anyName word
  have opens := passes_of_char opening
  obtain ⟨lead, inside⟩ := passes_of_spaces blank
  obtain ⟨own, holds, inTurn⟩ := spells_separated tracks_comma (spells_argument spells) series
  obtain ⟨trail, behind⟩ := passes_of_spaces blank'
  have passes := before.trans (named.trans (opens.trans (inside.trans
    (holds.trans (behind.trans (passes_of_char closing))))))
  refine ⟨_, passes, ?_⟩
  simp only [Call.toExpression, Expression.outline, Argument.outlines_eq_map]
  exact passes.covers trivial
    (before.skip (named.cover callee (opens.skip (inside.skip (inTurn.extend _)))))

end Nested

theorem spells_identifier : identifier.Spells Expression.outline := by
  intro cursor value later read
  simp only [identifier, bind_eq_read, pure_eq_read] at read
  obtain ⟨name, _, word, rfl, rfl⟩ := read
  exact spells_anyName word

/-- An operand is never an operation itself. -/
theorem kind_of_primary {nested : Reader Expression} {cursor later : Cursor} {value : Expression}
    (read : primary nested cursor = .read value later) : value.kind ≠ .binary := by
  simp only [primary, expecting_eq_read] at read
  obtain ⟨reader, member, read⟩ := read_of_choose read
  simp only [List.mem_cons, List.not_mem_nil, or_false] at member
  rcases member with rfl | rfl | rfl | rfl | rfl
  · simp only [parenthesized, bind_eq_read, pure_eq_read] at read
    obtain ⟨_, _, _, _, _, _, _, _, _, _, _, _, _, _, _, _, _, _, _, _, _, rfl, _⟩ := read
    simp [Expression.kind]
  · simp only [stringLiteral, bind_eq_read, pure_eq_read] at read
    obtain ⟨_, _, _, _, _, _, _, _, _, _, _, _, _, _, _, rfl, _⟩ := read
    simp [Expression.kind]
  · simp only [numberLiteral, bind_eq_read, pure_eq_read] at read
    obtain ⟨_, _, _, _, _, _, _, _, _, _, _, _, _, _, _, rfl, _⟩ := read
    simp [Expression.kind]
  · obtain ⟨_, _, rfl⟩ := map_eq_read.mp read
    simp [Call.toExpression, Expression.kind]
  · simp only [identifier, bind_eq_read, pure_eq_read] at read
    obtain ⟨_, _, _, rfl, _⟩ := read
    simp [Expression.kind]

theorem spells_primary {nested : Reader Expression} (spells : nested.Spells Expression.outline) :
    (primary nested).Spells Expression.outline := by
  intro cursor value later read
  simp only [primary, expecting_eq_read] at read
  obtain ⟨reader, member, read⟩ := read_of_choose read
  simp only [List.mem_cons, List.not_mem_nil, or_false] at member
  rcases member with rfl | rfl | rfl | rfl | rfl
  · exact spells_parenthesized spells read
  · exact spells_stringLiteral read
  · exact spells_numberLiteral read
  · obtain ⟨found, called, rfl⟩ := map_eq_read.mp read
    exact spells_call spells called
  · exact spells_identifier read

/-- Every further operand lengthens the operation that has been read so far. -/
theorem spells_operations {operand : Reader Expression}
    (spells : operand.Spells Expression.outline)
    (simple : ∀ ⦃cursor value later⦄, operand cursor = .read value later → value.kind ≠ .binary)
    (bound : Nat) {start cursor later : Cursor} {left found : Expression} {taken : List Char}
    (passes : start.Passes taken cursor) (covers : left.outline.Covers start.column taken)
    (read : operations operand bound left cursor = .read found later) :
    ∃ own, start.Passes own later ∧ found.outline.Covers start.column own := by
  induction bound generalizing cursor left taken with
  | zero =>
    simp only [operations, pure_eq_read] at read
    obtain ⟨rfl, rfl⟩ := read
    exact ⟨taken, passes, covers⟩
  | succ bound ih =>
    simp only [operations, bind_eq_read] at read
    obtain ⟨tried, middle, tries, read⟩ := read
    rcases read_of_optional tries with ⟨sign, rfl, present⟩ | ⟨rfl, rfl⟩
    · simp only [bind_eq_read, expecting_eq_read] at present read
      obtain ⟨_, _, blank, signed⟩ := present
      obtain ⟨_, _, blank', right, stopped, second, read⟩ := read
      obtain ⟨lead, before⟩ := passes_of_spaces blank
      obtain ⟨spelling, between, spelled⟩ := spells_operator signed
      obtain ⟨trail, behind⟩ := passes_of_spaces blank'
      obtain ⟨own, holds, covered⟩ := spells second
      have whole := passes.trans (before.trans (between.trans (behind.trans holds)))
      have span : left.span.cover right.span = .between start.column stopped.column := by
        rw [← Expression.span_outline, ← Expression.span_outline, covers.span_eq, covered.span_eq,
          Span.cover_between (Nat.le_add_right ..) _ (Nat.le_add_right ..), ← holds.column]
        rw [← passes.column, behind.column, between.column, before.column]
        omega
      refine ih whole ?_ read
      rw [Expression.outline, span]
      exact whole.covers (simple second) (passes.cover covers
        (before.skip (between.cover spelled (behind.skip covered.inTurn))))
    · simp only [pure_eq_read] at read
      obtain ⟨rfl, rfl⟩ := read
      exact ⟨taken, passes, covers⟩

theorem spells_expressionWithin (depth : Nat) :
    (expressionWithin depth).Spells Expression.outline := by
  induction depth with
  | zero =>
    intro cursor value later read
    exact (reject_ne_read read).elim
  | succ depth ih =>
    intro cursor value later read
    simp only [expressionWithin, bind_eq_read, remaining_eq_read] at read
    obtain ⟨left, _, first, _, _, ⟨rfl, rfl⟩, read⟩ := read
    obtain ⟨taken, passes, covers⟩ := spells_primary ih first
    exact spells_operations (spells_primary ih) (fun _ _ _ => kind_of_primary) _ passes covers read

theorem spells_expression : expression.Spells Expression.outline := by
  intro cursor value later read
  simp only [expression, bind_eq_read, remaining_eq_read] at read
  obtain ⟨_, _, ⟨rfl, rfl⟩, read⟩ := read
  exact spells_expressionWithin _ read

theorem spells_callExpression : callExpression.Spells fun found => found.toExpression.outline := by
  intro cursor value later read
  simp only [callExpression, bind_eq_read, remaining_eq_read] at read
  obtain ⟨_, _, ⟨rfl, rfl⟩, read⟩ := read
  exact spells_call (spells_expressionWithin _) read

theorem spells_parameter : parameter.Spells Parameter.outline := by
  intro cursor found later read
  simp only [parameter, bind_eq_read, expecting_eq_read, pure_eq_read] at read
  obtain ⟨name, middle, word, default, stopped, tried, rfl, rfl⟩ := read
  obtain ⟨own, named, labelled⟩ := spells_anyName word
  have label : name.span = .between cursor.column middle.column := by
    rw [named.column]
    exact labelled.span_eq
  have ordered : cursor.column ≤ middle.column := named.column ▸ Nat.le_add_right ..
  have start : name.span.start = cursor.column := by
    rw [label, Span.start_between_of_le ordered]
  rcases read_of_optional tried with ⟨value, rfl, present⟩ | ⟨rfl, rfl⟩
  · simp only [bind_eq_read] at present
    obtain ⟨_, _, blank, _, _, equals, _, _, blank', read⟩ := present
    obtain ⟨lead, before⟩ := passes_of_spaces blank
    have sign := passes_of_char equals
    obtain ⟨trail, behind⟩ := passes_of_spaces blank'
    obtain ⟨own, holds, covers⟩ := spells_expression read
    have passes := named.trans (before.trans (sign.trans (behind.trans holds)))
    have stop : value.span.stop = stopped.column := by
      rw [← Expression.span_outline, covers.span_eq,
        Span.stop_between_of_le (Nat.le_add_right ..), holds.column]
    refine ⟨_, passes, ?_⟩
    simp only [Parameter.outline, start, stop]
    exact passes.covers trivial (named.cover labelled
      (before.skip (sign.skip (behind.skip covers.inTurn))))
  · refine ⟨own, named, ?_⟩
    simp only [Parameter.outline, start]
    rw [label, Span.stop_between_of_le ordered]
    exact named.covers trivial labelled.inTurn

theorem spells_parameterList : parameterList.SpellsAll Parameter.outlines := by
  intro cursor found later read
  simp only [parameterList, bind_eq_read, expecting_eq_read, pure_eq_read] at read
  obtain ⟨_, _, opening, _, _, blank, _, _, series, _, _, blank', _, _, closing, rfl, rfl⟩ := read
  have opens := passes_of_char opening
  obtain ⟨lead, before⟩ := passes_of_spaces blank
  obtain ⟨own, holds, inTurn⟩ := spells_separated tracks_comma spells_parameter series
  obtain ⟨trail, behind⟩ := passes_of_spaces blank'
  exact ⟨_, opens.trans (before.trans (holds.trans (behind.trans (passes_of_char closing)))),
    opens.skip (before.skip (inTurn.extend _))⟩

theorem spells_optionalParameterList :
    optionalParameterList.SpellsAll Parameter.outlinesOption := by
  intro cursor found later read
  simp only [optionalParameterList, bind_eq_read, remaining_eq_read] at read
  obtain ⟨_, _, ⟨rfl, rfl⟩, read⟩ := read
  generalize cursor.rest = rest at read
  split at read
  · simp only [bind_eq_read, pure_eq_read] at read
    obtain ⟨parameters, _, read, rfl, rfl⟩ := read
    exact spells_parameterList read
  · simp only [pure_eq_read] at read
    obtain ⟨rfl, rfl⟩ := read
    exact ⟨[], cursor.passes_nil, inTurn_nil⟩

end Grammar

end DiagramAssist
