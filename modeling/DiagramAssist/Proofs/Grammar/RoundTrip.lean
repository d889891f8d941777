import DiagramAssist.Proofs.Document.Printable
import DiagramAssist.Proofs.Grammar.Geometry

/-! # Reading back what has been written

The written form of a printable expression is read back as the same expression, apart from spans.
The proof goes by the depth that the grammar of expressions is unfolded to: a reader of nested
expressions that restores everything shorter than a limit makes operands and arguments of that
length restore, and a chain of operators is restored along its left spine. What follows an
expression matters: a name, a number or an operator must not go on behind it.
-/

namespace DiagramAssist

open Reader

namespace Grammar

/-- A text that ends an expression in front of it. -/
inductive Ends : List Char → Prop where
  | line : Ends []
  | closing (rest : List Char) : Ends (')' :: rest)
  | next (rest : List Char) : Ends (',' :: rest)

/-- A text that ends an operand in front of it. -/
inductive Parts : List Char → Prop where
  | ends {after : List Char} (ends : Ends after) : Parts after
  | blank (rest : List Char) : Parts (' ' :: rest)

variable {after : List Char}

theorem Parts.stops_name (parts : Parts after) : after.head?.any isNameChar = false := by
  rcases parts with @⟨after, _ | _ | _⟩ | _ <;> rfl

theorem Parts.stops_number (parts : Parts after) :
    after.head?.any (fun c => c.isDigit || c == '.') = false := by
  rcases parts with @⟨after, _ | _ | _⟩ | _ <;> rfl

theorem Parts.not_opening (parts : Parts after) : after.head? ≠ some '(' := by
  rcases parts with @⟨after, _ | _ | _⟩ | _ <;> simp

/-- An operand does not start with a blank, nor with the sign of a named argument. -/
theorem not_blank_of_opensOperand {c : Char} (opens : opensOperand c = true) :
    Text.isSpace c = false ∧ c ≠ '=' := by
  refine ⟨?_, ?_⟩
  · rw [Bool.eq_false_iff]
    intro blank
    simp only [Text.isSpace, Bool.or_eq_true, beq_iff_eq] at blank
    rcases blank with rfl | rfl
    · exact absurd opens (by decide)
    · exact absurd opens (by decide)
  · rintro rfl
    exact absurd opens (by decide)

section Written

variable {expression : Expression}

theorem not_blank_of_argument {argument : Argument} (printable : argument.Printable)
    (after : List Char) :
    (argument.render.toList ++ after).head?.any Text.isSpace = false := by
  obtain ⟨c, rest, text, opens⟩ := printable.opens
  rw [text]
  exact (not_blank_of_opensOperand opens).1

theorem not_blank_of_printable (printable : expression.Printable) (after : List Char) :
    (expression.render.toList ++ after).head?.any Text.isSpace = false := by
  obtain ⟨c, rest, text, opens⟩ := printable.opens
  rw [text]
  exact (not_blank_of_opensOperand opens).1

theorem not_equals_of_printable (printable : expression.Printable) (after : List Char) :
    (expression.render.toList ++ after).head?.any (· == '=') = false := by
  obtain ⟨c, rest, text, opens⟩ := printable.opens
  rw [text]
  simpa using (not_blank_of_opensOperand opens).2

end Written

/-! ## Arguments -/

/-- The sign behind the name of a named argument. -/
def equals : Reader Unit := do
  spaces
  char '='
  notFollowedBy (· == '=')

theorem argumentName_eq : argumentName = (do
    let name ← anyName
    equals
    spaces
    return name) := by
  simp only [argumentName, equals, bind_assoc]

/-- A text in front of which a name is no name of an argument. -/
def Unnamed (after : List Char) : Prop :=
  after.head?.any isNameChar = false ∧ equals.Refuses after

theorem Ends.unnamed (ends : Ends after) : Unnamed after := by
  refine ⟨(Parts.ends ends).stops_name, fun column => ?_⟩
  rcases ends with _ | _ | _ <;> exact ⟨_, rfl, rfl⟩

/-- The comparison `==` is not the sign of a named argument. -/
theorem unnamed_operator (operator : Operator) (after : List Char) :
    Unnamed (' ' :: (operator.spelling.toList ++ after)) := by
  refine ⟨rfl, fun column => ?_⟩
  cases operator <;> exact ⟨_, rfl, rfl⟩

theorem refuses_argumentName_of_head {text : List Char} {c : Char} (head : text.head? = some c)
    (other : (c == '$' || isNameStart c) = false) : argumentName.Refuses text :=
  (refuses_anyName (by rw [head]; exact other)).bind

theorem refuses_argumentName_of_name {name : List Char} (named : isName name = true)
    (unnamed : Unnamed after) : argumentName.Refuses (name ++ after) := by
  rw [argumentName_eq]
  exact (takes_anyName named unnamed.1).refuses fun _ _ => unnamed.2.bind

/-- A positional argument is not taken for a named one. -/
theorem refuses_argumentName : {expression : Expression} → expression.Printable →
    {after : List Char} → Unnamed after → argumentName.Refuses (expression.render.toList ++ after)
  | .binary left operator right span, printable, after, _ => by
    simp only [Expression.Printable] at printable
    simp only [Expression.render, String.toList_append, List.append_assoc]
    exact refuses_argumentName printable.1 (unnamed_operator _ _)
  | .parenthesized inner span, _, after, _ => by
    simp only [Expression.render, String.toList_append]
    exact refuses_argumentName_of_head rfl rfl
  | .call builtin callee arguments span, printable, after, _ => by
    simp only [Expression.Printable] at printable
    simp only [Expression.render, String.toList_append, List.append_assoc]
    -- a call goes on with its parenthesis
    cases builtin with
    | true => exact refuses_argumentName_of_head rfl rfl
    | false =>
      change argumentName.Refuses (callee.value.toList ++ ('(' :: _))
      exact refuses_argumentName_of_name printable.1 ⟨rfl, fun _ => ⟨_, rfl, rfl⟩⟩
  | .string value span, printable, after, _ => by
    simp only [Expression.Printable] at printable
    obtain ⟨quote, isQuote, plain⟩ := printable
    obtain ⟨mark, isMark, text, plain⟩ := quoteString_eq isQuote plain
    simp only [Expression.render, text]
    refine refuses_argumentName_of_head rfl ?_
    rcases isMark with rfl | rfl <;> rfl
  | .number value span, printable, after, _ => by
    simp only [Expression.Printable] at printable
    obtain ⟨negative, integer, fraction, whole, -, text, -⟩ := printable.decimal
    obtain ⟨c, rest, split, opens⟩ := opensOperand_of_decimal negative fraction whole
    simp only [Expression.render, text, split]
    refine refuses_argumentName_of_head rfl ?_
    rcases opens with rfl | digit
    · rfl
    · rw [isNameStart_of_isDigit digit, Bool.or_false, beq_eq_false_iff_ne]
      rintro rfl
      exact absurd digit (by decide)
  | .identifier name span, printable, after, unnamed => by
    simp only [Expression.Printable] at printable
    simp only [Expression.render]
    exact refuses_argumentName_of_name printable unnamed

/-! ## Operands -/

theorem takes_comma (stops : after.head?.any Text.isSpace = false) :
    comma.Takes [',', ' '] after fun _ => True := by
  refine Takes.bind_nothing (takes_spaces rfl rfl) fun _ _ => ?_
  exact (takes_char ',').bind_cons fun _ _ => takes_spaces rfl stops

/-- The sigil of a built-in function is not part of its name. -/
theorem takes_sigil {name : List Char} (named : isName name = true) (builtin : Bool)
    (more : List Char) :
    (optional (char '%')).Takes (if builtin then ['%'] else []) ((name ++ more) ++ after)
      (·.isSome = builtin) := by
  cases builtin with
  | true =>
    refine (takes_char '%').optional.mono ?_
    rintro _ ⟨_, rfl, -⟩
    rfl
  | false =>
    obtain ⟨c, rest, rfl, starts⟩ := exists_cons_of_isName named
    refine Takes.mono (Refuses.optional (refuses_char ?_)) (by rintro _ rfl; rfl)
    rintro same
    rw [List.cons_append, List.cons_append, List.head?_cons, Option.some.injEq] at same
    subst same
    exact absurd starts (by decide)

theorem not_blank_of_arguments {arguments : List Argument}
    (printable : ∀ argument ∈ arguments, argument.Printable) (after : List Char) :
    (Argument.listText arguments ++ (')' :: after)).head?.any Text.isSpace = false := by
  cases arguments with
  | nil => rfl
  | cons argument rest =>
    rw [Argument.listText, List.map_cons, intercalate_cons_eq, List.append_assoc]
    exact not_blank_of_argument (printable _ List.mem_cons_self) _

theorem refuses_parenthesized {nested : Reader Expression} {c : Char} (other : c ≠ '(')
    (text : List Char) :
    (parenthesized nested).Refuses (c :: text) :=
  takes_column.refuses_nothing fun _ _ => (refuses_char (by simpa using other)).bind

theorem refuses_stringLiteral {c : Char} (other : c ≠ '"' ∧ c ≠ '\'') (text : List Char) :
    stringLiteral.Refuses (c :: text) := by
  refine takes_column.refuses_nothing fun _ _ => Refuses.bind fun column => declines_one.mpr ?_
  simpa using other

theorem refuses_numberLiteral {c : Char} (sign : c ≠ '-') (digit : c.isDigit = false)
    (text : List Char) : numberLiteral.Refuses (c :: text) := by
  have positive : (char '-').Refuses (c :: text) := refuses_char (by simpa using sign)
  refine takes_column.refuses_nothing fun _ _ => positive.optional.refuses_nothing fun _ _ => ?_
  exact Refuses.bind fun column => declines_takeWhile1.mpr digit

/-- A text that starts like a name is no operand of another shape. -/
theorem refuses_of_nameStart (nested : Reader Expression) {c : Char}
    (starts : (c == '%' || c == '$' || isNameStart c) = true) (text : List Char) :
    (parenthesized nested).Refuses (c :: text) ∧ stringLiteral.Refuses (c :: text) ∧
      numberLiteral.Refuses (c :: text) := by
  have other (d : Char) (never : (d == '%' || d == '$' || isNameStart d) = false) : c ≠ d := by
    rintro rfl
    rw [never] at starts
    cases starts
  have noDigit : c.isDigit = false := by
    rw [Bool.eq_false_iff]
    intro digit
    simp only [isNameStart_of_isDigit digit, Bool.or_false, Bool.or_eq_true, beq_iff_eq] at starts
    rcases starts with rfl | rfl
    · exact absurd digit (by decide)
    · exact absurd digit (by decide)
  exact ⟨refuses_parenthesized (other '(' rfl) text,
    refuses_stringLiteral ⟨other '"' rfl, other '\'' rfl⟩ text,
    refuses_numberLiteral (other '-' rfl) noDigit text⟩

/-- A name without a parenthesis is no call. -/
theorem refuses_call (nested : Reader Expression) {name : List Char}
    (named : isName name = true) (parts : Parts after) :
    (call nested).Refuses (name ++ after) := by
  have plain : (optional (char '%')).Takes [] ((name ++ []) ++ after) _ :=
    takes_sigil named false []
  rw [List.append_nil] at plain
  refine takes_column.refuses_nothing fun _ _ => plain.refuses_nothing fun _ _ => ?_
  exact (takes_anyName named parts.stops_name).refuses fun _ _ =>
    (refuses_char parts.not_opening).bind

/-- The reader of nested expressions restores every expression shorter than the limit, and does not
take a closing parenthesis for one. -/
structure Restores (nested : Reader Expression) (limit : Nat) : Prop where
  takes : ∀ ⦃expression : Expression⦄, expression.Printable →
    expression.render.toList.length < limit → ∀ ⦃after : List Char⦄, Ends after →
    nested.Takes expression.render.toList after (·.erase = expression.erase)
  refuses : ∀ rest, nested.Refuses (')' :: rest)

section Nested

variable {nested : Reader Expression} {limit : Nat} (restores : Restores nested limit)
include restores

theorem takes_parenthesized {inner : Expression} (printable : inner.Printable)
    (shorter : inner.render.toList.length < limit) (span : Span) :
    (parenthesized nested).Takes (Expression.parenthesized inner span).render.toList after
      (·.erase = (Expression.parenthesized inner span).erase) := by
  have text : (Expression.parenthesized inner span).render.toList =
      '(' :: (inner.render.toList ++ [')']) := by
    simp only [Expression.render, String.toList_append]
    rfl
  rw [text]
  refine takes_column.bind_nothing fun start _ => (takes_char '(').bind_cons fun _ _ => ?_
  refine Takes.bind_nothing (takes_spaces rfl ?_) fun _ _ => ?_
  · rw [List.append_assoc]
    exact not_blank_of_printable printable _
  refine (restores.takes printable shorter (.closing after)).bind fun found same => ?_
  refine Takes.bind_nothing (takes_spaces rfl rfl) fun _ _ => ?_
  refine ((takes_char ')').expecting _).bind_last fun _ _ => ?_
  refine takes_column.bind_nothing fun stop _ => takes_pure ?_
  simp only [Expression.erase, same]

theorem takes_argument {argument : Argument} (printable : argument.Printable)
    (shorter : argument.render.toList.length < limit) (ends : Ends after) :
    (Grammar.argument nested).Takes argument.render.toList after
      (·.erase = argument.erase) := by
  rcases argument with ⟨name, value, span⟩
  simp only [Argument.Printable] at printable
  simp only [Argument.render, String.toList_append, List.length_append] at shorter ⊢
  have nestedTakes := restores.takes printable.2 (by omega) ends
  refine takes_column.bind_nothing fun start _ => ?_
  cases name with
  | none =>
    have positional := refuses_argumentName printable.2 ends.unnamed
    refine positional.optional.bind_nothing ?_
    rintro _ rfl
    refine nestedTakes.bind_last fun found same => takes_pure ?_
    simp only [Argument.erase, same]
  | some label =>
    have named : argumentName.Takes (label.value.toList ++ ['=']) (value.render.toList ++ after)
        (·.value = label.value) := by
      rw [argumentName_eq]
      refine (takes_anyName (printable.1 label rfl) rfl).bind fun found same => ?_
      have sign : equals.Takes ['='] (value.render.toList ++ after) fun _ => True := by
        refine Takes.bind_nothing (takes_spaces rfl rfl) fun _ _ => ?_
        refine (takes_char '=').bind_last fun _ _ => ?_
        exact takes_notFollowedBy (not_equals_of_printable printable.2 after)
      refine sign.bind_last fun _ _ => ?_
      refine Takes.bind_last (takes_spaces rfl (not_blank_of_printable printable.2 after))
        fun _ _ => takes_pure ?_
      rw [same, String.ofList_toList]
    simp only [String.toList_append]
    refine named.optional.bind ?_
    rintro _ ⟨found, rfl, same⟩
    refine nestedTakes.bind_last fun passed restored => takes_pure ?_
    simp only [Argument.erase, restored, Option.map_some, Located.erase, same]

theorem refuses_argument (rest : List Char) : (Grammar.argument nested).Refuses (')' :: rest) := by
  have unnamed : argumentName.Refuses (')' :: rest) := refuses_argumentName_of_head rfl rfl
  exact takes_column.refuses_nothing fun _ _ => unnamed.optional.refuses_nothing fun _ _ =>
    (restores.refuses rest).bind

/-- The arguments of a call are restored one by one. -/
theorem takes_arguments {arguments : List Argument}
    (printable : ∀ argument ∈ arguments, argument.Printable)
    (short : ∀ argument ∈ arguments, argument.render.toList.length < limit) (after : List Char) :
    (separated comma (Grammar.argument nested)).Takes (Argument.listText arguments) (')' :: after)
      (·.map Argument.erase = arguments.map Argument.erase) := by
  refine takes_separated (List.cons_ne_nil _ _) (fun tail => Ends.next _) (.closing after) ?_ ?_
    (refuses_argument restores after) (fun column => ⟨_, rfl, rfl⟩)
  · intro argument member tail
    exact takes_comma (not_blank_of_argument (printable argument member) tail)
  · intro argument member tail ends
    exact takes_argument restores (printable argument member) (short argument member) ends

theorem takes_call {builtin : Bool} {callee : Located String} {arguments : List Argument}
    {span : Span} (printable : (Expression.call builtin callee arguments span).Printable)
    (enough : (Expression.call builtin callee arguments span).render.toList.length ≤ limit) :
    (call nested).Takes (Expression.call builtin callee arguments span).render.toList after
      (·.toExpression.erase = (Expression.call builtin callee arguments span).erase) := by
  simp only [Expression.Printable, Argument.allPrintable_iff] at printable
  obtain ⟨named, printable⟩ := printable
  have text : (Expression.call builtin callee arguments span).render.toList =
      (if builtin then ['%'] else []) ++
        (callee.value.toList ++ ('(' :: (Argument.listText arguments ++ [')']))) := by
    simp only [Expression.render, String.toList_append, Argument.toList_renderAll,
      List.append_assoc]
    cases builtin <;> rfl
  rw [text] at enough ⊢
  refine takes_column.bind_nothing fun start _ => ?_
  refine (takes_sigil named builtin _).bind fun found signed => ?_
  refine (takes_anyName named rfl).bind fun name same => ?_
  refine (takes_char '(').bind_cons fun _ _ => ?_
  refine Takes.bind_nothing (takes_spaces rfl ?_) fun _ _ => ?_
  · rw [List.append_assoc]
    exact not_blank_of_arguments printable _
  have short : ∀ argument ∈ arguments, argument.render.toList.length < limit := by
    intro argument member
    have part : argument.render.toList.length ≤ (Argument.listText arguments).length :=
      length_le_intercalate (List.mem_map_of_mem member)
    simp only [List.length_append, List.length_cons] at enough
    omega
  refine (takes_arguments restores printable short after).bind fun passed restored => ?_
  refine Takes.bind_nothing (takes_spaces rfl rfl) fun _ _ => ?_
  refine ((takes_char ')').expecting _).bind_last fun _ _ => ?_
  refine takes_column.bind_nothing fun stop _ => takes_pure ?_
  simp only [Call.toExpression, Expression.erase, Argument.eraseAll_eq_map, restored, signed,
    Located.erase, same, String.ofList_toList]

/-- An operand is restored where it cannot go on. -/
theorem takes_primary {expression : Expression} (printable : expression.Printable)
    (simple : expression.kind ≠ .binary) (enough : expression.render.toList.length ≤ limit)
    (parts : Parts after) :
    (primary nested).Takes expression.render.toList after (·.erase = expression.erase) := by
  refine Takes.expecting ?_ _
  cases expression with
  | binary left operator right span => exact absurd rfl simple
  | parenthesized inner span =>
    simp only [Expression.Printable] at printable
    simp only [Expression.render, String.toList_append, List.length_append] at enough
    have shorter : inner.render.toList.length < limit := by
      have opening : "(".toList.length = 1 := rfl
      omega
    exact (takes_parenthesized restores printable shorter span).choose _
  | call builtin callee arguments span =>
    have called : (call nested).Takes _ after _ := takes_call restores printable enough
    obtain ⟨c, rest, text, starts⟩ :
        ∃ c rest, (Expression.call builtin callee arguments span).render.toList = c :: rest ∧
          (c == '%' || c == '$' || isNameStart c) = true := by
      simp only [Expression.Printable] at printable
      obtain ⟨c, rest, name, starts⟩ := exists_cons_of_isName printable.1
      cases builtin with
      | true =>
        simp only [Expression.render, String.toList_append, ↓reduceIte]
        exact ⟨'%', _, rfl, rfl⟩
      | false =>
        simp only [Expression.render, String.toList_append, name, Bool.false_eq_true, ↓reduceIte]
        exact ⟨c, _, rfl, by simpa [or_assoc] using Or.inr starts⟩
    rw [text] at called ⊢
    obtain ⟨first, second, third⟩ := refuses_of_nameStart nested starts (rest ++ after)
    exact first.choose (second.choose (third.choose (called.map.choose _)))
  | string value span =>
    simp only [Expression.Printable] at printable
    obtain ⟨quote, isQuote, plain⟩ := printable
    obtain ⟨mark, isMark, text, plain⟩ := quoteString_eq isQuote plain
    simp only [Expression.render, text]
    have first : (parenthesized nested).Refuses (mark :: (value.toList ++ [mark]) ++ after) := by
      refine refuses_parenthesized ?_ _
      rcases isMark with rfl | rfl <;> decide
    refine first.choose (Takes.choose ((takes_stringLiteral isMark plain).mono ?_) _)
    rintro _ ⟨_, rfl⟩
    simp only [Expression.erase, String.ofList_toList]
  | number value span =>
    simp only [Expression.Printable] at printable
    obtain ⟨negative, integer, fraction, whole, decimals, text, meant⟩ := printable.decimal
    obtain ⟨c, rest, split, opens⟩ := opensOperand_of_decimal negative fraction whole
    have number : numberLiteral.Takes (decimalText negative integer fraction) after _ :=
      takes_numberLiteral whole decimals parts.stops_number
    simp only [Expression.render, text]
    rw [split] at number ⊢
    have first : (parenthesized nested).Refuses (c :: rest ++ after) := by
      refine refuses_parenthesized ?_ _
      rintro rfl
      exact absurd opens (by decide)
    have second : stringLiteral.Refuses (c :: rest ++ after) := by
      refine refuses_stringLiteral ⟨?_, ?_⟩ _
      · rintro rfl
        exact absurd opens (by decide)
      · rintro rfl
        exact absurd opens (by decide)
    refine first.choose (second.choose (Takes.choose (number.mono ?_) _))
    rintro _ ⟨_, rfl⟩
    simp only [Expression.erase, ← meant]
  | identifier name span =>
    simp only [Expression.Printable] at printable
    have fourth := refuses_call nested printable parts
    have last : identifier.Takes name.toList after
        (·.erase = (Expression.identifier name span).erase) := by
      refine (takes_anyName printable parts.stops_name).bind_last fun found same => takes_pure ?_
      simp only [Expression.erase, same, String.ofList_toList]
    simp only [Expression.render]
    obtain ⟨c, rest, text, starts⟩ := exists_cons_of_isName printable
    rw [text] at fourth last ⊢
    have starts : (c == '%' || c == '$' || isNameStart c) = true := by
      simpa [or_assoc] using Or.inr starts
    obtain ⟨first, second, third⟩ := refuses_of_nameStart nested starts (rest ++ after)
    exact first.choose (second.choose (third.choose (fourth.map.choose last)))

end Nested

/-! ## Chains of operators -/

section Chains

variable {operand : Reader Expression}

/-- No operator follows where an expression ends. -/
theorem operations_of_ends (ends : Ends after) (bound : Nat) (left : Expression) (column : Nat) :
    operations operand bound left ⟨column, after⟩ = .read left ⟨column, after⟩ := by
  have nothing : (do spaces; operator).Refuses after := by
    intro column
    rcases ends with _ | _ | _ <;> exact ⟨_, rfl, rfl⟩
  cases bound with
  | zero => rfl
  | succ bound =>
    rw [operations, bind_of_read (optional_of_declines (nothing column))]
    rfl

/-- A written operator and its right operand lengthen the operation in front of them. -/
theorem exists_operations_step {right : Expression} (printable : right.Printable)
    (takes : operand.Takes right.render.toList after (·.erase = right.erase))
    (operator : Operator) (left : Expression) (column : Nat) :
    ∃ sign found stop, sign.value = operator ∧ found.erase = right.erase ∧
      ∀ bound, operations operand (bound + 1) left
          ⟨column, ' ' :: (operator.spelling.toList ++ ' ' :: (right.render.toList ++ after))⟩ =
        operations operand bound (.binary left sign found (left.span.cover found.span))
          ⟨stop, after⟩ := by
  have before : spaces.Takes [' ']
      (operator.spelling.toList ++ ' ' :: (right.render.toList ++ after)) fun _ => True :=
    takes_spaces rfl (by cases operator <;> rfl)
  have signed := (before.bind_cons fun _ _ => takes_operator operator).optional
  have behind : spaces.Takes [' '] (right.render.toList ++ after) fun _ => True :=
    takes_spaces rfl (not_blank_of_printable printable after)
  obtain ⟨_, middle, read, sign, rfl, same⟩ := signed column
  rw [List.cons_append] at read
  obtain ⟨_, third, blank, -⟩ := behind middle
  obtain ⟨found, stop, second, restored⟩ := takes.expecting "operand" third
  refine ⟨sign, found, stop, same, restored, fun bound => ?_⟩
  rw [operations, bind_of_read read]
  exact (bind_of_read blank).trans (bind_of_read second)

/-- The operands of chains are restored up to a limit of their length. -/
def RestoresOperands (operand : Reader Expression) (limit : Nat) : Prop :=
  ∀ ⦃expression : Expression⦄, expression.Printable → expression.kind ≠ .binary →
    expression.render.toList.length ≤ limit → ∀ ⦃after : List Char⦄, Parts after →
    operand.Takes expression.render.toList after (·.erase = expression.erase)

/-- The first operand of a written chain is read, and the operations behind it restore the chain.
The induction goes down the left spine. -/
theorem exists_chain {limit : Nat} (operands : RestoresOperands operand limit)
    (expression : Expression) (printable : expression.Printable)
    (enough : expression.render.toList.length ≤ limit) {after : List Char} (parts : Parts after)
    (column : Nat) :
    ∃ first middle found stop count,
      operand ⟨column, expression.render.toList ++ after⟩ = .read first middle ∧
      count + after.length ≤ middle.rest.length ∧ found.erase = expression.erase ∧
      ∀ bound, operations operand (count + bound) first middle =
        operations operand bound found ⟨stop, after⟩ := by
  by_cases simple : expression.kind = .binary
  · cases expression with
    | binary left operator right span =>
      simp only [Expression.Printable] at printable
      obtain ⟨leftPrintable, rightPrintable, notBinary⟩ := printable
      have text : (Expression.binary left operator right span).render.toList =
          left.render.toList ++
            (' ' :: (operator.value.spelling.toList ++ ' ' :: right.render.toList)) := by
        simp only [Expression.render, String.toList_append, List.append_assoc]
        rfl
      rw [text] at enough ⊢
      simp only [List.append_assoc, List.cons_append, List.length_append, List.length_cons]
        at enough ⊢
      obtain ⟨first, middle, before, stop, count, read, short, same, rest⟩ :=
        exists_chain operands left leftPrintable (by omega) (.blank _) column
      obtain ⟨sign, second, final, signed, restored, step⟩ := exists_operations_step rightPrintable
        (operands rightPrintable notBinary (by omega) parts) operator.value before stop
      refine ⟨first, middle, .binary before sign second (before.span.cover second.span), final,
        count + 1, read, ?_, ?_, fun bound => ?_⟩
      · simp only [List.length_cons, List.length_append] at short
        omega
      · simp only [Expression.erase, same, restored, Located.erase, signed]
      · rw [Nat.add_assoc, Nat.add_comm 1, rest, step]
    | _ => cases simple
  · obtain ⟨first, stop, read, same⟩ := operands printable simple enough parts column
    refine ⟨first, ⟨stop, after⟩, first, stop, 0, read, ?_, same, fun bound => ?_⟩
    · exact Nat.le_of_eq (Nat.zero_add _)
    · rw [Nat.zero_add]

end Chains

theorem refuses_expressionWithin (depth : Nat) (rest : List Char) :
    (expressionWithin depth).Refuses (')' :: rest) := by
  intro column
  cases depth with
  | zero => exact declines_reject
  | succ depth => exact ⟨_, rfl, rfl⟩

/-- Expressions are restored as deep as the grammar is unfolded. -/
theorem restores_expressionWithin (depth : Nat) : Restores (expressionWithin depth) depth := by
  induction depth with
  | zero => exact ⟨fun _ _ short => absurd short (Nat.not_lt_zero _), refuses_expressionWithin 0⟩
  | succ depth ih =>
    refine ⟨?_, refuses_expressionWithin (depth + 1)⟩
    intro expression printable short after ends column
    have operands : RestoresOperands (primary (expressionWithin depth)) depth :=
      fun _ printable simple enough _ parts => takes_primary ih printable simple enough parts
    obtain ⟨first, middle, found, stop, count, read, enough, same, chain⟩ :=
      exists_chain operands expression printable (Nat.le_of_lt_succ short) (.ends ends) column
    refine ⟨found, stop, ?_, same⟩
    have bound : middle.rest.length = count + (middle.rest.length - count) := by omega
    calc expressionWithin (depth + 1) ⟨column, expression.render.toList ++ after⟩
      _ = operations (primary (expressionWithin depth)) middle.rest.length first middle :=
        bind_of_read read
      _ = operations (primary (expressionWithin depth)) (middle.rest.length - count) found
            ⟨stop, after⟩ := by rw [bound, chain]; congr 1; omega
      _ = .read found ⟨stop, after⟩ := operations_of_ends ends ..

/-- A written expression is restored where it ends. -/
theorem takes_expression {expression : Expression} (printable : expression.Printable)
    (ends : Ends after) :
    Grammar.expression.Takes expression.render.toList after (·.erase = expression.erase) := by
  refine takes_remaining.bind_nothing ?_
  rintro _ rfl
  refine (restores_expressionWithin _).takes printable ?_ ends
  rw [List.length_append]
  exact Nat.lt_succ_of_le (Nat.le_add_right ..)

/-- A written declaration is restored. -/
theorem takes_declaration {expression : Expression} (printable : expression.Printable) :
    (declaration true).Takes ('!' :: '$' :: 'x' :: ' ' :: '=' :: ' ' :: expression.render.toList) []
      fun found => ∃ name initializer span,
        found = .whole (.declaration name initializer .unspecified false span) ∧
          name.value = "$x" ∧ initializer.erase = expression.erase := by
  have assigns {after : List Char} : (choose
      [(do literal "?="; return true), (do literal "="; return false)]).Takes ['='] after
      (· = false) :=
    fun column => ⟨_, _, rfl, rfl⟩
  refine takes_directiveStart.bind_cons fun start _ => ?_
  refine (Refuses.optional fun column => ⟨_, rfl, rfl⟩).bind_nothing ?_
  rintro _ rfl
  have named : variableName.Takes ['$', 'x'] (' ' :: '=' :: ' ' :: expression.render.toList ++ [])
      (·.value = "$x") := takes_variableName (by decide) (by decide) rfl
  refine named.bind fun name same => ?_
  refine Takes.bind_cons (takes_spaces rfl rfl) fun _ _ => ?_
  refine assigns.bind_cons ?_
  rintro _ rfl
  refine Takes.directiveRest ?_ _ _
  refine Takes.bind_cons (takes_spaces rfl (not_blank_of_printable printable [])) fun _ _ => ?_
  refine ((takes_expression printable .line).expecting _).bind_last fun initializer restored => ?_
  exact takes_endOfStatement.bind_last fun stop _ =>
    takes_pure ⟨name, initializer, _, rfl, same, restored⟩

end Grammar

/-- A text without a line ending is a single line. -/
theorem Line.split_of_oneLine {text : List Char} (present : text ≠ [])
    (oneLine : Text.OneLine text) : Line.split text = [⟨0, text, .endOfText⟩] := by
  have raw : Line.rawLines text = [(text, false)] := by
    induction text with
    | nil => exact absurd rfl present
    | cons c rest ih =>
      have feed : c ≠ '\n' := (oneLine c List.mem_cons_self).1
      cases rest with
      | nil => simp [Line.rawLines]
      | cons d rest =>
        have later := ih (List.cons_ne_nil _ _) fun c member =>
          oneLine c (List.mem_cons_of_mem _ member)
        rw [Line.rawLines, later]
        exact feed
  have kept : Text.dropFinalReturn text = text := by
    refine if_neg fun last => ?_
    exact (oneLine '\r' (List.mem_of_getLast? last)).2 rfl
  rw [Line.split, raw]
  simp [Line.placeAll, Line.ofRaw, kept]

/-- The written form of a printable expression is restored as the value of a declaration. -/
theorem parse_of_printable {expression : Expression} (printable : expression.Printable) :
    ∃ name initializer span whole,
      parse ("!$x = " ++ expression.render) =
        .ok ⟨[.declaration name initializer .unspecified false span], whole⟩ ∧
      name.value = "$x" ∧ initializer.erase = expression.erase := by
  obtain ⟨_, next, read, name, initializer, span, rfl, named, restored⟩ :=
    Grammar.takes_declaration printable 0
  have text : ("!$x = " ++ expression.render).toList =
      '!' :: '$' :: 'x' :: ' ' :: '=' :: ' ' :: expression.render.toList := by
    rw [String.toList_append]
    rfl
  have oneLine : Text.OneLine ("!$x = " ++ expression.render).toList := by
    rw [String.toList_append, Text.oneLine_append]
    exact ⟨by decide, printable.oneLine⟩
  have lines := Line.split_of_oneLine (by rw [text]; exact List.cons_ne_nil _ _) oneLine
  rw [List.append_nil, ← text] at read
  have said : Line.SayAll (Line.split ("!$x = " ++ expression.render).toList)
      [(Statement.declaration name initializer .unspecified false span).shift 0] := by
    rw [lines]
    exact .cons ⟨_, _, choose_of_read read, rfl⟩ .nil
  refine ⟨name.shift 0, initializer.shift 0, span.shift 0,
    .between 0 (Text.byteLength ("!$x = " ++ expression.render).toList), ?_, named, ?_⟩
  · rw [parse, Grammar.statements_of_sayAll said]
    simp only [Statement.shift]
  · rw [Expression.erase_shift, restored]

/-- In an expression of a document no right operand is an operation. If its numbers read back, the
written form of the expression is restored. -/
theorem parse_render {source : String} {root : Root} {expression : Expression}
    (parsed : parse source = .ok root) (member : .expression expression ∈ root.nodes)
    (numbers : ∀ value span, .expression (.number value span) ∈ expression.walk (fun _ => true) →
      value.ReadsBack) :
    (∀ left operator right span,
      .expression (.binary left operator right span) ∈ expression.walk (fun _ => true) →
        right.kind ≠ .binary) ∧
    ∃ name initializer span whole,
      parse ("!$x = " ++ expression.render) =
        .ok ⟨[.declaration name initializer .unspecified false span], whole⟩ ∧
      name.value = "$x" ∧ initializer.erase = expression.erase := by
  obtain ⟨_, own, _, -, covers⟩ :=
    (covers_of_parse parsed).node (Root.outline_mem_of_nodes member)
  refine ⟨?_, parse_of_printable (expression.printable_of_covers covers numbers)⟩
  intro left operator right span below
  obtain ⟨_, _, _, -, operation⟩ := covers.node (expression.outline_mem_of_walk below)
  simp only [Node.outline, Expression.outline, Outline.Covers, Part.Spelled] at operation
  exact operation.1

/-- A sum that a document declares, with a number. -/
theorem parse_render_sum :
    ∃ root expression, parse "!$x = 1 + b" = .ok root ∧ .expression expression ∈ root.nodes ∧
      expression.render = "1 + b" ∧ ∃ name initializer span whole,
        parse ("!$x = " ++ expression.render) =
          .ok ⟨[.declaration name initializer .unspecified false span], whole⟩ ∧
        name.value = "$x" ∧ initializer.erase = expression.erase := by
  have text : (Binary64.ofDecimal false ['1'] []).render = "1" := by decide +kernel
  have reads : (Binary64.ofDecimal false ['1'] []).ReadsBack := by
    rw [Binary64.ReadsBack, text]
    exact ⟨_, _, rfl⟩
  have printable : (Expression.binary (.number (.ofDecimal false ['1'] []) default)
      ⟨.add, default⟩ (.identifier "b" default) default).Printable := by
    simp only [Expression.Printable]
    exact ⟨reads, by decide, nofun⟩
  have written : "!$x = " ++ (Expression.binary (.number (.ofDecimal false ['1'] []) default)
      ⟨.add, default⟩ (.identifier "b" default) default).render = "!$x = 1 + b" := by
    simp only [Expression.render, text]
    decide
  obtain ⟨name, initializer, span, whole, parsed, -, same⟩ := parse_of_printable printable
  rw [written] at parsed
  have member : Node.expression initializer ∈
      Root.nodes ⟨[.declaration name initializer .unspecified false span], whole⟩ := by
    simp only [Root.nodes, Root.walk, Statement.walkAll, Statement.walkBelow, ↓reduceIte,
      List.append_nil, List.mem_cons, reduceCtorEq, false_or]
    cases initializer <;> simp only [Expression.walk, List.mem_cons, true_or]
  rcases initializer with ⟨left, sign, right, place⟩ | _ | _ | _ | _ | _ <;>
    simp only [Expression.erase, Expression.binary.injEq, and_true, reduceCtorEq] at same
  obtain ⟨first, signed, second⟩ := same
  rcases left with _ | _ | _ | _ | ⟨value, where_⟩ | _ <;>
    simp only [Expression.erase, Expression.number.injEq, and_true, reduceCtorEq] at first
  rcases right with _ | _ | _ | _ | _ | ⟨letter, there⟩ <;>
    simp only [Expression.erase, Expression.identifier.injEq, and_true, reduceCtorEq] at second
  rcases sign with ⟨operator, between⟩
  simp only [Located.erase, Located.mk.injEq, and_true] at signed
  subst first second signed
  refine ⟨_, _, parsed, member, ?_, (parse_render parsed member ?_).2⟩
  · simp only [Expression.render, text]
    decide
  · intro value span below
    simp only [Expression.walk, ↓reduceIte, List.mem_cons, List.mem_append, List.not_mem_nil,
      Node.expression.injEq, Expression.number.injEq, reduceCtorEq, or_false, false_or] at below
    exact below.1 ▸ reads

end DiagramAssist
