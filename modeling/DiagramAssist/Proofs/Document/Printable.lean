import DiagramAssist.Document.Printer
import DiagramAssist.Proofs.Document.Nodes
import DiagramAssist.Proofs.Reader.Recognition

/-! # Expressions that can be written down again

Not every expression has a written form that means the expression: a name may be no name, and a
right operand may be an operation that would be grouped differently. What has been read off a text
has neither fault (`printable_of_covers`). The one thing that can go wrong are numbers too large to
be represented, whose written form is a name. So the same is shown of the expression with something
else in place of its numbers (`printable_mapNumbers_of_covers`).
-/

namespace DiagramAssist

open Outline

/-- Reading the written form of the number gives the number back. -/
def Binary64.ReadsBack (value : Binary64) : Prop :=
  ∃ span column, Reader.numberLiteral ⟨0, value.render.toList⟩ =
    .read (.number value span) ⟨column, []⟩

def Located.erase {α : Type} (located : Located α) : Located α :=
  ⟨located.value, default⟩

mutual

def Expression.erase : Expression → Expression
  | .binary left operator right _ => .binary left.erase operator.erase right.erase default
  | .parenthesized inner _ => .parenthesized inner.erase default
  | .call builtin callee arguments _ =>
    .call builtin callee.erase (Argument.eraseAll arguments) default
  | .string value _ => .string value default
  | .number value _ => .number value default
  | .identifier name _ => .identifier name default

def Argument.erase : Argument → Argument
  | .mk name value _ => .mk (name.map Located.erase) value.erase default

/-- The arguments without their spans. -/
def Argument.eraseAll : List Argument → List Argument
  | [] => []
  | argument :: rest => argument.erase :: Argument.eraseAll rest

end

mutual

/-- The written form of the expression means the expression. -/
def Expression.Printable : Expression → Prop
  | .binary left _ right _ => left.Printable ∧ right.Printable ∧ right.kind ≠ .binary
  | .parenthesized inner _ => inner.Printable
  | .call _ callee arguments _ =>
    Reader.isName callee.value.toList = true ∧ Argument.AllPrintable arguments
  | .string value _ => ∃ quote, (quote = '"' ∨ quote = '\'') ∧
      ∀ c ∈ value.toList, c ≠ quote ∧ c ≠ '\n' ∧ c ≠ '\r'
  | .number value _ => value.ReadsBack
  | .identifier name _ => Reader.isName name.toList = true

/-- The written form of the argument means the argument. -/
def Argument.Printable : Argument → Prop
  | .mk name value _ =>
    (∀ label, name = some label → Reader.isName label.value.toList = true) ∧ value.Printable

/-- The written form of each argument means the argument. -/
def Argument.AllPrintable : List Argument → Prop
  | [] => True
  | argument :: rest => argument.Printable ∧ Argument.AllPrintable rest

end

theorem Argument.eraseAll_eq_map (arguments : List Argument) :
    Argument.eraseAll arguments = arguments.map Argument.erase := by
  induction arguments with
  | nil => rfl
  | cons argument rest ih => simp only [Argument.eraseAll, List.map_cons, ih]

mutual

/-- Where an expression stands does not matter without its spans. -/
@[simp] theorem Expression.erase_shift (distance : Nat) : (expression : Expression) →
    (expression.shift distance).erase = expression.erase
  | .binary left operator right span => by
    simp only [Expression.shift, Expression.erase, left.erase_shift distance,
      right.erase_shift distance, Located.erase, Located.shift]
  | .parenthesized inner span => by
    simp only [Expression.shift, Expression.erase, inner.erase_shift distance]
  | .call builtin callee arguments span => by
    simp only [Expression.shift, Expression.erase, Located.erase, Located.shift,
      Argument.eraseAll_shiftAll distance arguments]
  | .string value span => by simp only [Expression.shift, Expression.erase]
  | .number value span => by simp only [Expression.shift, Expression.erase]
  | .identifier name span => by simp only [Expression.shift, Expression.erase]

theorem Argument.erase_shift (distance : Nat) : (argument : Argument) →
    (argument.shift distance).erase = argument.erase
  | .mk name value span => by
    simp only [Argument.shift, Argument.erase, value.erase_shift distance, Option.map_map]
    rfl

theorem Argument.eraseAll_shiftAll (distance : Nat) : (arguments : List Argument) →
    Argument.eraseAll (Argument.shiftAll distance arguments) = Argument.eraseAll arguments
  | [] => rfl
  | argument :: rest => by
    simp only [Argument.shiftAll, Argument.eraseAll, argument.erase_shift distance,
      Argument.eraseAll_shiftAll distance rest]

end

theorem Argument.allPrintable_iff {arguments : List Argument} :
    Argument.AllPrintable arguments ↔ ∀ argument ∈ arguments, argument.Printable := by
  induction arguments with
  | nil => simp only [Argument.AllPrintable, List.not_mem_nil, false_implies, implies_true]
  | cons argument rest ih => rw [Argument.AllPrintable, ih, List.forall_mem_cons]

/-- A name whose outline covers a text is a name. -/
theorem Located.isName_of_covers {name : Located String} {start : Nat} {text : List Char}
    (covers : name.nameOutline.Covers start text) : Reader.isName name.value.toList = true := by
  simp only [Located.nameOutline, Covers, Part.Spelled] at covers
  obtain ⟨⟨rfl, named⟩, -⟩ := covers
  exact named

/-! ## What stands for a number -/

mutual

/-- The expression with something else in place of its numbers. -/
def Expression.mapNumbers (f : Binary64 → Span → Expression) : Expression → Expression
  | .binary left operator right span =>
    .binary (left.mapNumbers f) operator (right.mapNumbers f) span
  | .parenthesized inner span => .parenthesized (inner.mapNumbers f) span
  | .call builtin callee arguments span =>
    .call builtin callee (Argument.mapNumbersAll f arguments) span
  | .string value span => .string value span
  | .number value span => f value span
  | .identifier name span => .identifier name span

/-- The argument with something else in place of its numbers. -/
def Argument.mapNumbers (f : Binary64 → Span → Expression) : Argument → Argument
  | .mk name value span => .mk name (value.mapNumbers f) span

/-- The arguments with something else in place of their numbers. -/
def Argument.mapNumbersAll (f : Binary64 → Span → Expression) : List Argument → List Argument
  | [] => []
  | argument :: rest => argument.mapNumbers f :: Argument.mapNumbersAll f rest

end

def Node.number? : Node → Option Binary64
  | .expression (.number value _) => some value
  | _ => none

/-- The property holds of every number among the nodes. -/
def AllNumbers (holds : Binary64 → Span → Prop) (nodes : List Node) : Prop :=
  ∀ value span, .expression (.number value span) ∈ nodes → holds value span

section Numbers

variable {holds : Binary64 → Span → Prop} {nodes : List Node}

theorem mem_number?_iff {value : Binary64} :
    value ∈ nodes.filterMap Node.number? ↔ ∃ span, .expression (.number value span) ∈ nodes := by
  rw [List.mem_filterMap]
  constructor
  · rintro ⟨node, member, same⟩
    cases node with
    | expression expression =>
      cases expression with
      | number value' span =>
        cases same
        exact ⟨span, member⟩
      | binary | parenthesized | call | string | identifier => cases same
    | statement | parameter => cases same
  · rintro ⟨span, member⟩
    exact ⟨_, member, rfl⟩

theorem allNumbers_append {first second : List Node} :
    AllNumbers holds (first ++ second) ↔ AllNumbers holds first ∧ AllNumbers holds second := by
  simp only [AllNumbers, List.mem_append, or_imp, forall_and]

theorem allNumbers_number {value : Binary64} {span : Span} :
    AllNumbers holds ((Expression.number value span).walk fun _ => true) ↔ holds value span := by
  simp only [AllNumbers, Expression.walk, List.mem_singleton, Node.expression.injEq,
    Expression.number.injEq]
  exact ⟨fun all => all value span ⟨rfl, rfl⟩, fun held value span same => same.1 ▸ same.2 ▸ held⟩

/-- A node that is no number does not matter. -/
theorem allNumbers_cons {node : Node}
    (other : ∀ value span, node ≠ .expression (.number value span)) :
    AllNumbers holds (node :: nodes) ↔ AllNumbers holds nodes := by
  simp only [AllNumbers, List.mem_cons]
  constructor
  · intro all value span member
    exact all value span (.inr member)
  · intro all value span member
    exact all value span (member.resolve_left fun same => other value span same.symm)

@[simp] theorem allNumbers_binary {left right : Expression} {operator : Located Operator}
    {span : Span} :
    AllNumbers holds ((Expression.binary left operator right span).walk fun _ => true) ↔
      AllNumbers holds (left.walk fun _ => true) ∧ AllNumbers holds (right.walk fun _ => true) := by
  simp only [Expression.walk, ↓reduceIte]
  rw [allNumbers_cons (by rintro _ _ ⟨⟩), allNumbers_append]

@[simp] theorem allNumbers_parenthesized {inner : Expression} {span : Span} :
    AllNumbers holds ((Expression.parenthesized inner span).walk fun _ => true) ↔
      AllNumbers holds (inner.walk fun _ => true) := by
  simp only [Expression.walk, ↓reduceIte]
  rw [allNumbers_cons (by rintro _ _ ⟨⟩)]

@[simp] theorem allNumbers_call {builtin : Bool} {callee : Located String}
    {arguments : List Argument} {span : Span} :
    AllNumbers holds ((Expression.call builtin callee arguments span).walk fun _ => true) ↔
      AllNumbers holds (Argument.walkAll (fun _ => true) arguments) := by
  simp only [Expression.walk, ↓reduceIte]
  rw [allNumbers_cons (by rintro _ _ ⟨⟩)]

@[simp] theorem allNumbers_walkAll_cons {argument : Argument} {rest : List Argument} :
    AllNumbers holds (Argument.walkAll (fun _ => true) (argument :: rest)) ↔
      AllNumbers holds (argument.walk fun _ => true) ∧
        AllNumbers holds (Argument.walkAll (fun _ => true) rest) := by
  rw [Argument.walkAll, allNumbers_append]

end Numbers

section Standing

variable {f : Binary64 → Span → Expression}

mutual

/-- Where numbers are replaced by themselves, nothing is. -/
theorem Expression.mapNumbers_eq_self : (expression : Expression) →
    AllNumbers (fun value span => f value span = .number value span)
      (expression.walk fun _ => true) → expression.mapNumbers f = expression
  | .binary left operator right span, same => by
    rw [allNumbers_binary] at same
    rw [Expression.mapNumbers, left.mapNumbers_eq_self same.1, right.mapNumbers_eq_self same.2]
  | .parenthesized inner span, same => by
    rw [allNumbers_parenthesized] at same
    rw [Expression.mapNumbers, inner.mapNumbers_eq_self same]
  | .call builtin callee arguments span, same => by
    rw [allNumbers_call] at same
    rw [Expression.mapNumbers, Argument.mapNumbersAll_eq_self arguments same]
  | .string value span, _ => by rw [Expression.mapNumbers]
  | .number value span, same => by
    rw [Expression.mapNumbers]
    exact allNumbers_number.mp same
  | .identifier name span, _ => by rw [Expression.mapNumbers]

theorem Argument.mapNumbers_eq_self : (argument : Argument) →
    AllNumbers (fun value span => f value span = .number value span)
      (argument.walk fun _ => true) → argument.mapNumbers f = argument
  | .mk name value span, same => by
    rw [Argument.walk] at same
    rw [Argument.mapNumbers, value.mapNumbers_eq_self same]

theorem Argument.mapNumbersAll_eq_self : (arguments : List Argument) →
    AllNumbers (fun value span => f value span = .number value span)
      (Argument.walkAll (fun _ => true) arguments) → Argument.mapNumbersAll f arguments = arguments
  | [], _ => by rw [Argument.mapNumbersAll]
  | argument :: rest, same => by
    rw [allNumbers_walkAll_cons] at same
    rw [Argument.mapNumbersAll, argument.mapNumbers_eq_self same.1,
      Argument.mapNumbersAll_eq_self rest same.2]

end

/-- What stands for a number is printable, and an operand. -/
def Stands (f : Binary64 → Span → Expression) (value : Binary64) (span : Span) : Prop :=
  (f value span).Printable ∧ (f value span).kind ≠ .binary

theorem Expression.kind_mapNumbers {expression : Expression} (simple : expression.kind ≠ .binary)
    (stands : AllNumbers (Stands f) (expression.walk fun _ => true)) :
    (expression.mapNumbers f).kind ≠ .binary := by
  cases expression with
  | number value span =>
    rw [Expression.mapNumbers]
    exact (allNumbers_number.mp stands).2
  | binary left operator right span => exact absurd rfl simple
  | parenthesized inner span => exact nofun
  | call builtin callee arguments span => exact nofun
  | string value span => exact nofun
  | identifier name span => exact nofun

mutual

/-- An expression whose outline covers a text is printable, up to what stands for its numbers. -/
theorem Expression.printable_mapNumbers_of_covers : (expression : Expression) → {start : Nat} →
    {text : List Char} → expression.outline.Covers start text →
    AllNumbers (Stands f) (expression.walk fun _ => true) → (expression.mapNumbers f).Printable
  | .binary left operator right span, start, text, covers, stands => by
    rw [allNumbers_binary] at stands
    simp only [Expression.outline, Covers, Part.Spelled] at covers
    obtain ⟨simple, -, inTurn⟩ := covers
    obtain ⟨_, _, first⟩ := inTurn.covers List.mem_cons_self
    obtain ⟨_, _, second⟩ := inTurn.covers
      (List.mem_cons_of_mem _ (List.mem_cons_of_mem _ List.mem_cons_self))
    simp only [Expression.mapNumbers, Expression.Printable]
    exact ⟨left.printable_mapNumbers_of_covers first stands.1,
      right.printable_mapNumbers_of_covers second stands.2,
      Expression.kind_mapNumbers simple stands.2⟩
  | .parenthesized inner span, start, text, covers, stands => by
    rw [allNumbers_parenthesized] at stands
    simp only [Expression.outline, Covers] at covers
    obtain ⟨-, -, inTurn⟩ := covers
    obtain ⟨_, _, below⟩ := inTurn.covers List.mem_cons_self
    simp only [Expression.mapNumbers, Expression.Printable]
    exact inner.printable_mapNumbers_of_covers below stands
  | .call builtin callee arguments span, start, text, covers, stands => by
    rw [allNumbers_call] at stands
    simp only [Expression.outline, Covers] at covers
    obtain ⟨-, -, inTurn⟩ := covers
    obtain ⟨_, _, named⟩ := inTurn.covers List.mem_cons_self
    simp only [Expression.mapNumbers, Expression.Printable]
    refine ⟨Located.isName_of_covers named,
      Argument.allPrintable_mapNumbersAll_of_covers arguments ?_ stands⟩
    intro outline member
    exact inTurn.covers (List.mem_cons_of_mem _ member)
  | .string value span, start, text, covers, _ => by
    simp only [Expression.outline, Covers, Part.Spelled] at covers
    obtain ⟨⟨quote, isQuote, -, plain⟩, -⟩ := covers
    simp only [Expression.mapNumbers, Expression.Printable]
    exact ⟨quote, isQuote, plain⟩
  | .number value span, _, _, _, stands => by
    rw [Expression.mapNumbers]
    exact (allNumbers_number.mp stands).1
  | .identifier name span, start, text, covers, _ => by
    simp only [Expression.outline, Covers, Part.Spelled] at covers
    obtain ⟨⟨rfl, named⟩, -⟩ := covers
    simp only [Expression.mapNumbers, Expression.Printable]
    exact named

theorem Argument.printable_mapNumbers_of_covers : (argument : Argument) → {start : Nat} →
    {text : List Char} → argument.outline.Covers start text →
    AllNumbers (Stands f) (argument.walk fun _ => true) → (argument.mapNumbers f).Printable
  | .mk name value span, start, text, covers, stands => by
    simp only [Argument.walk] at stands
    simp only [Argument.outline, Covers] at covers
    obtain ⟨-, -, inTurn⟩ := covers
    simp only [Argument.mapNumbers, Argument.Printable]
    refine ⟨?_, ?_⟩
    · rintro label rfl
      obtain ⟨_, _, named⟩ := inTurn.covers List.mem_cons_self
      exact Located.isName_of_covers named
    · obtain ⟨_, _, passed⟩ := inTurn.covers (List.mem_append_right _ List.mem_cons_self)
      exact value.printable_mapNumbers_of_covers passed stands

theorem Argument.allPrintable_mapNumbersAll_of_covers : (arguments : List Argument) →
    (∀ outline ∈ Argument.outlines arguments, ∃ start text, outline.Covers start text) →
    AllNumbers (Stands f) (Argument.walkAll (fun _ => true) arguments) →
    Argument.AllPrintable (Argument.mapNumbersAll f arguments)
  | [], _, _ => trivial
  | argument :: rest, covers, stands => by
    simp only [Argument.outlines, List.forall_mem_cons] at covers
    rw [allNumbers_walkAll_cons] at stands
    obtain ⟨⟨_, _, first⟩, later⟩ := covers
    simp only [Argument.mapNumbersAll, Argument.AllPrintable]
    exact ⟨argument.printable_mapNumbers_of_covers first stands.1,
      Argument.allPrintable_mapNumbersAll_of_covers rest later stands.2⟩

end

mutual

/-- What is written in place of a number does not matter if it is written like the number. -/
theorem Expression.render_mapNumbers : (expression : Expression) →
    AllNumbers (fun value span => (f value span).render = value.render)
      (expression.walk fun _ => true) → (expression.mapNumbers f).render = expression.render
  | .binary left operator right span, same => by
    rw [allNumbers_binary] at same
    simp only [Expression.mapNumbers, Expression.render, left.render_mapNumbers same.1,
      right.render_mapNumbers same.2]
  | .parenthesized inner span, same => by
    rw [allNumbers_parenthesized] at same
    simp only [Expression.mapNumbers, Expression.render, inner.render_mapNumbers same]
  | .call builtin callee arguments span, same => by
    rw [allNumbers_call] at same
    simp only [Expression.mapNumbers, Expression.render,
      Argument.renderAll_mapNumbersAll arguments same]
  | .string value span, _ => by rw [Expression.mapNumbers]
  | .number value span, same => by
    rw [Expression.mapNumbers, Expression.render]
    exact allNumbers_number.mp same
  | .identifier name span, _ => by rw [Expression.mapNumbers]

theorem Argument.render_mapNumbers : (argument : Argument) →
    AllNumbers (fun value span => (f value span).render = value.render)
      (argument.walk fun _ => true) → (argument.mapNumbers f).render = argument.render
  | .mk name value span, same => by
    rw [Argument.walk] at same
    simp only [Argument.mapNumbers, Argument.render, value.render_mapNumbers same]

theorem Argument.renderAll_mapNumbersAll : (arguments : List Argument) →
    AllNumbers (fun value span => (f value span).render = value.render)
      (Argument.walkAll (fun _ => true) arguments) →
    Argument.renderAll (Argument.mapNumbersAll f arguments) = Argument.renderAll arguments
  | [], _ => by rw [Argument.mapNumbersAll]
  | argument :: rest, same => by
    rw [allNumbers_walkAll_cons] at same
    simp only [Argument.mapNumbersAll, Argument.renderAll, argument.render_mapNumbers same.1,
      Argument.renderAll_mapNumbersAll rest same.2]

end

end Standing

/-- An expression whose outline covers a text is printable, up to its numbers. -/
theorem Expression.printable_of_covers (expression : Expression) {start : Nat} {text : List Char}
    (covers : expression.outline.Covers start text)
    (numbers : ∀ value span, .expression (.number value span) ∈ expression.walk (fun _ => true) →
      value.ReadsBack) : expression.Printable := by
  have same : expression.mapNumbers .number = expression :=
    expression.mapNumbers_eq_self fun _ _ _ => rfl
  rw [← same]
  refine expression.printable_mapNumbers_of_covers covers fun value span member => ⟨?_, nofun⟩
  simp only [Expression.Printable]
  exact numbers value span member

/-! ## The shape of written forms -/

open Reader

/-- The first characters of written operands. -/
def opensOperand (c : Char) : Bool :=
  c == '(' || c == '"' || c == '\'' || c == '-' || c.isDigit || c == '%' || c == '$' ||
    isNameStart c

/-- The first character of a name. -/
theorem exists_cons_of_isName {name : List Char} (named : isName name = true) :
    ∃ c rest, name = c :: rest ∧ (c = '$' ∨ isNameStart c = true) := by
  rcases name with _ | ⟨c, rest⟩
  · cases named
  · refine ⟨c, rest, rfl, ?_⟩
    by_cases sigil : c = '$'
    · exact .inl sigil
    · simp only [isName, Bool.and_eq_true] at named
      exact .inr named.1

theorem opensOperand_of_nameStart {c : Char} (starts : c = '$' ∨ isNameStart c = true) :
    opensOperand c = true := by
  rcases starts with rfl | starts
  · rfl
  · simp only [opensOperand, starts, Bool.or_true]

/-- A number that reads back is spelled as a decimal number. -/
theorem Binary64.ReadsBack.decimal {value : Binary64} (reads : value.ReadsBack) :
    ∃ negative integer fraction, AreDigits integer ∧
      (∀ digits, fraction = some digits → AreDigits digits) ∧
      value.render.toList = decimalText negative integer fraction ∧
      value = .ofDecimal negative integer (fraction.getD []) := by
  obtain ⟨span, column, read⟩ := reads
  obtain ⟨negative, integer, fraction, whole, decimals, passes, value⟩ :=
    decimalText_of_numberLiteral read
  refine ⟨negative, integer, fraction, whole, decimals, ?_, value⟩
  have text := passes.rest
  rwa [List.append_nil] at text

theorem opensOperand_of_decimal (negative : Bool) {integer : List Char}
    (fraction : Option (List Char)) (whole : AreDigits integer) :
    ∃ c rest, decimalText negative integer fraction = c :: rest ∧ (c = '-' ∨ c.isDigit = true) := by
  cases negative with
  | true => exact ⟨'-', _, rfl, .inl rfl⟩
  | false =>
    rcases integer with _ | ⟨digit, more⟩
    · exact absurd rfl whole.1
    · exact ⟨digit, _, rfl, .inr (List.all_eq_true.mp whole.2 digit List.mem_cons_self)⟩

/-- A digit does not start a name. -/
theorem isNameStart_of_isDigit {c : Char} (digit : c.isDigit = true) : isNameStart c = false := by
  simp only [Char.isDigit, Bool.and_eq_true, decide_eq_true_eq, ge_iff_le] at digit
  have high : c.val.toNat ≤ 57 := digit.2
  rw [Bool.eq_false_iff]
  intro starts
  unfold isNameStart Char.isAlpha Char.isUpper Char.isLower at starts
  simp only [Bool.or_eq_true, Bool.and_eq_true, decide_eq_true_eq, beq_iff_eq, ge_iff_le] at starts
  rcases starts with (⟨low, -⟩ | ⟨low, -⟩) | rfl
  · have : 65 ≤ c.val.toNat := low
    omega
  · have : 97 ≤ c.val.toNat := low
    omega
  · exact absurd high (by decide)

/-- What a string is enclosed in, and that it does not occur inside. -/
theorem quoteString_eq {value : String} {quote : Char} (isQuote : quote = '"' ∨ quote = '\'')
    (plain : ∀ c ∈ value.toList, c ≠ quote ∧ c ≠ '\n' ∧ c ≠ '\r') :
    ∃ mark, (mark = '"' ∨ mark = '\'') ∧
      (quoteString value).toList = mark :: (value.toList ++ [mark]) ∧
      ∀ c ∈ value.toList, c ≠ mark ∧ c ≠ '\n' ∧ c ≠ '\r' := by
  by_cases double : value.toList.contains '"' = true
  · refine ⟨'\'', .inr rfl, ?_, ?_⟩
    · simp only [quoteString, double, ↓reduceIte, String.toList_append]
      rfl
    · have single : quote = '\'' := by
        rcases isQuote with rfl | rfl
        · exact absurd rfl (plain '"' (List.contains_iff_mem.mp double)).1
        · rfl
      exact single ▸ plain
  · refine ⟨'"', .inl rfl, ?_, ?_⟩
    · simp only [quoteString, double, Bool.false_eq_true, ↓reduceIte, String.toList_append]
      rfl
    · intro c member
      refine ⟨?_, (plain c member).2⟩
      rintro rfl
      exact double (List.contains_iff_mem.mpr member)

/-- The written form of an expression starts like an operand. -/
theorem Expression.Printable.opens : {expression : Expression} → expression.Printable →
    ∃ c rest, expression.render.toList = c :: rest ∧ opensOperand c = true
  | .binary left operator right span, printable => by
    simp only [Expression.Printable] at printable
    obtain ⟨c, rest, text, opens⟩ := Expression.Printable.opens printable.1
    simp only [Expression.render, String.toList_append, text, List.cons_append]
    exact ⟨c, _, rfl, opens⟩
  | .parenthesized inner span, _ => by
    simp only [Expression.render, String.toList_append]
    exact ⟨'(', _, rfl, rfl⟩
  | .call builtin callee arguments span, printable => by
    simp only [Expression.Printable] at printable
    obtain ⟨c, rest, text, starts⟩ := exists_cons_of_isName printable.1
    cases builtin with
    | true =>
      simp only [Expression.render, String.toList_append, ↓reduceIte]
      exact ⟨'%', _, rfl, rfl⟩
    | false =>
      simp only [Expression.render, String.toList_append, text, Bool.false_eq_true, ↓reduceIte]
      exact ⟨c, _, rfl, opensOperand_of_nameStart starts⟩
  | .string value span, printable => by
    simp only [Expression.Printable] at printable
    obtain ⟨quote, isQuote, plain⟩ := printable
    obtain ⟨mark, isMark, text, -⟩ := quoteString_eq isQuote plain
    simp only [Expression.render, text]
    refine ⟨mark, _, rfl, ?_⟩
    rcases isMark with rfl | rfl <;> rfl
  | .number value span, printable => by
    simp only [Expression.Printable] at printable
    obtain ⟨negative, integer, fraction, whole, -, text, -⟩ := printable.decimal
    obtain ⟨c, rest, split, opens⟩ := opensOperand_of_decimal negative fraction whole
    simp only [Expression.render, text]
    refine ⟨c, rest, split, ?_⟩
    rcases opens with rfl | digit
    · rfl
    · simp only [opensOperand, digit, Bool.or_true, Bool.true_or]
  | .identifier name span, printable => by
    simp only [Expression.Printable] at printable
    obtain ⟨c, rest, text, starts⟩ := exists_cons_of_isName printable
    simp only [Expression.render, text]
    exact ⟨c, rest, rfl, opensOperand_of_nameStart starts⟩

/-- The written form of an argument starts like an operand. -/
theorem Argument.Printable.opens {argument : Argument} (printable : argument.Printable) :
    ∃ c rest, argument.render.toList = c :: rest ∧ opensOperand c = true := by
  rcases argument with ⟨name, value, span⟩
  simp only [Argument.Printable] at printable
  cases name with
  | none =>
    obtain ⟨c, rest, text, opens⟩ := printable.2.opens
    simp only [Argument.render, String.toList_append, text]
    exact ⟨c, rest, rfl, opens⟩
  | some label =>
    obtain ⟨c, rest, text, opens⟩ := exists_cons_of_isName (printable.1 label rfl)
    simp only [Argument.render, String.toList_append, text]
    exact ⟨c, _, rfl, opensOperand_of_nameStart opens⟩

/-- The text holds no line ending, not even a part of one. -/
def Text.OneLine (text : List Char) : Prop :=
  ∀ c ∈ text, c ≠ '\n' ∧ c ≠ '\r'

namespace Text

instance (text : List Char) : Decidable (OneLine text) :=
  List.decidableBAll (fun c => c ≠ '\n' ∧ c ≠ '\r') text

theorem oneLine_append {first second : List Char} :
    OneLine (first ++ second) ↔ OneLine first ∧ OneLine second := by
  simp only [OneLine, List.forall_mem_append]

/-- A text of characters of a class that no line ending belongs to. -/
theorem oneLine_of_all {accepts : Char → Bool} {text : List Char}
    (accepted : text.all accepts = true) (feed : accepts '\n' = false)
    (return_ : accepts '\r' = false) : OneLine text := by
  intro c member
  have holds := List.all_eq_true.mp accepted c member
  refine ⟨?_, ?_⟩
  · rintro rfl
    rw [feed] at holds
    cases holds
  · rintro rfl
    rw [return_] at holds
    cases holds

theorem oneLine_intercalate {gap : List Char} {texts : List (List Char)} (between : OneLine gap)
    (parts : ∀ text ∈ texts, OneLine text) : OneLine (gap.intercalate texts) := by
  cases texts with
  | nil => nofun
  | cons first rest =>
    rw [intercalate_cons_eq, oneLine_append]
    rw [List.forall_mem_cons] at parts
    refine ⟨parts.1, ?_⟩
    intro c member
    obtain ⟨text, listed, member⟩ := List.mem_flatMap.mp member
    exact oneLine_append.mpr ⟨between, parts.2 text listed⟩ c member

theorem oneLine_of_isName {name : List Char} (named : isName name = true) : OneLine name := by
  rcases name with _ | ⟨first, more⟩
  · nofun
  · have characters : (first :: more).all (fun c => c == '$' || isNameChar c) = true := by
      by_cases sigil : first = '$'
      · subst sigil
        simp only [isName, Bool.and_eq_true] at named
        simp_all
      · simp only [isName, isNameStart, Bool.and_eq_true, Bool.or_eq_true] at named
        have starts : isNameChar first = true := by
          simp only [isNameChar, Char.isAlphanum, Bool.or_eq_true]
          exact named.1.imp_left .inl
        simp_all
    exact oneLine_of_all characters (by decide) (by decide)

theorem oneLine_decimalText {negative : Bool} {integer : List Char} {fraction : Option (List Char)}
    (whole : AreDigits integer) (decimals : ∀ digits, fraction = some digits → AreDigits digits) :
    OneLine (decimalText negative integer fraction) := by
  have plain {digits : List Char} (are : AreDigits digits) : OneLine digits :=
    oneLine_of_all are.2 (by decide) (by decide)
  simp only [decimalText, oneLine_append]
  refine ⟨?_, plain whole, ?_⟩
  · cases negative <;> decide
  · cases fraction with
    | none => decide
    | some digits =>
      have point : OneLine ['.'] := by decide
      exact oneLine_append.mpr ⟨point, plain (decimals digits rfl)⟩

end Text

theorem Argument.renderAll_eq_map (arguments : List Argument) :
    Argument.renderAll arguments = arguments.map Argument.render := by
  induction arguments with
  | nil => rfl
  | cons argument rest ih => simp only [Argument.renderAll, List.map_cons, ih]

/-- The written arguments of a call, with what stands between them. -/
def Argument.listText (arguments : List Argument) : List Char :=
  [',', ' '].intercalate (arguments.map fun argument => argument.render.toList)

theorem Argument.toList_renderAll (arguments : List Argument) :
    (", ".intercalate (Argument.renderAll arguments)).toList = Argument.listText arguments := by
  rw [String.toList_intercalate, Argument.renderAll_eq_map, List.map_map]
  rfl

mutual

/-- The written form of an expression is a single line. -/
theorem Expression.Printable.oneLine : {expression : Expression} → expression.Printable →
    Text.OneLine expression.render.toList
  | .binary left operator right span, printable => by
    simp only [Expression.Printable] at printable
    simp only [Expression.render, String.toList_append, Text.oneLine_append]
    have spelling : Text.OneLine operator.value.spelling.toList := by
      cases operator.value <;> decide
    exact ⟨⟨⟨⟨Expression.Printable.oneLine printable.1, by decide⟩, spelling⟩, by decide⟩,
      Expression.Printable.oneLine printable.2.1⟩
  | .parenthesized inner span, printable => by
    simp only [Expression.Printable] at printable
    simp only [Expression.render, String.toList_append, Text.oneLine_append]
    exact ⟨⟨by decide, Expression.Printable.oneLine printable⟩, by decide⟩
  | .call builtin callee arguments span, printable => by
    simp only [Expression.Printable] at printable
    simp only [Expression.render, String.toList_append, Text.oneLine_append,
      Argument.toList_renderAll]
    have sigil : Text.OneLine (if builtin = true then "%" else "").toList := by
      cases builtin <;> decide
    refine ⟨⟨⟨⟨sigil, Text.oneLine_of_isName printable.1⟩, by decide⟩, ?_⟩, by decide⟩
    exact Text.oneLine_intercalate (by decide) (Argument.AllPrintable.oneLine printable.2)
  | .string value span, printable => by
    simp only [Expression.Printable] at printable
    obtain ⟨quote, isQuote, plain⟩ := printable
    obtain ⟨mark, isMark, text, plain⟩ := quoteString_eq isQuote plain
    have closing : Text.OneLine [mark] := by
      rcases isMark with rfl | rfl <;> decide
    simp only [Expression.render, text]
    rw [← List.singleton_append, Text.oneLine_append, Text.oneLine_append]
    exact ⟨closing, fun c member => (plain c member).2, closing⟩
  | .number value span, printable => by
    simp only [Expression.Printable] at printable
    obtain ⟨negative, integer, fraction, whole, decimals, text, -⟩ := printable.decimal
    simp only [Expression.render, text]
    exact Text.oneLine_decimalText whole decimals
  | .identifier name span, printable => by
    simp only [Expression.Printable] at printable
    simp only [Expression.render]
    exact Text.oneLine_of_isName printable

theorem Argument.Printable.oneLine : {argument : Argument} → argument.Printable →
    Text.OneLine argument.render.toList
  | .mk name value span, printable => by
    simp only [Argument.Printable] at printable
    simp only [Argument.render, String.toList_append, Text.oneLine_append]
    refine ⟨?_, Expression.Printable.oneLine printable.2⟩
    cases name with
    | none => decide
    | some label =>
      simp only [String.toList_append, Text.oneLine_append]
      exact ⟨Text.oneLine_of_isName (printable.1 label rfl), by decide⟩

theorem Argument.AllPrintable.oneLine : {arguments : List Argument} →
    Argument.AllPrintable arguments →
    ∀ text ∈ arguments.map (fun argument => argument.render.toList), Text.OneLine text
  | [], _ => by simp only [List.map_nil, List.not_mem_nil, false_implies, implies_true]
  | argument :: rest, printable => by
    simp only [Argument.AllPrintable] at printable
    rw [List.map_cons, List.forall_mem_cons]
    exact ⟨Argument.Printable.oneLine printable.1, Argument.AllPrintable.oneLine printable.2⟩

end

end DiagramAssist
