import DiagramAssist.Proofs.Document.Printable
import DiagramAssist.Proofs.Grammar.Spelling

/-! # The sign of a number has a digit behind it

Where an operand is expected, a minus sign can only be that of a number, so that a digit follows it.
A scan from left to right, which keeps apart where an operand is expected and where one has been,
sees whether a text obeys this. The scan goes through every text that is read as an expression
(`Grammar.scans_expression`), and it gets stuck in the written form of an expression just when an
infinite negative number is in it (`Expression.goes_render`).
-/

namespace DiagramAssist

open Reader

/-! ## The scan -/

/-- Where the scan of an expression stands. -/
inductive Scan where
  /-- An operand is expected. -/
  | expects
  /-- Behind a minus sign where an operand is expected. -/
  | signed
  /-- Inside a string. -/
  | quoted (quote : Char)
  /-- Inside an operand or behind it. -/
  | behind
deriving DecidableEq

namespace Scan

/-- Where the scan stands behind the next character. It is stuck when a sign has no digit. -/
def next : Scan → Char → Option Scan
  | .expects, c =>
    if c == '-' then some .signed
    else if c == '"' || c == '\'' then some (.quoted c)
    else if c == ')' || c == '$' || isNameChar c then some .behind
    else some .expects
  | .signed, c => if c.isDigit then some .behind else none
  | .quoted quote, c => some (if c == quote then .behind else .quoted quote)
  | .behind, c =>
    if c == ')' || c == '.' || Text.isSpace c || isNameChar c then some .behind
    else some .expects

/-- Where the scan stands behind a text. -/
def run : Scan → List Char → Option Scan
  | scan, [] => some scan
  | scan, c :: rest => (scan.next c).bind (·.run rest)

variable {scan : Scan} {text : List Char}

theorem run_append (scan : Scan) (first second : List Char) :
    scan.run (first ++ second) = (scan.run first).bind (·.run second) := by
  induction first generalizing scan with
  | nil => rfl
  | cons c rest ih =>
    rw [List.cons_append, run, run]
    cases scan.next c with
    | none => rfl
    | some later => exact ih later

theorem run_trans {middle later : Scan} {first second : List Char}
    (before : scan.run first = some middle) (after : middle.run second = some later) :
    scan.run (first ++ second) = some later := by
  rw [run_append, before]
  exact after

/-- Characters that leave the scan where it is. -/
theorem run_of_all (stays : ∀ c ∈ text, scan.next c = some scan) :
    scan.run text = some scan := by
  induction text with
  | nil => rfl
  | cons c rest ih =>
    rw [List.forall_mem_cons] at stays
    rw [run, stays.1]
    exact ih stays.2

theorem run_blanks (stands : scan = .expects ∨ scan = .behind)
    (blank : text.all Text.isSpace = true) : scan.run text = some scan := by
  refine run_of_all fun c member => ?_
  have space := List.all_eq_true.mp blank c member
  simp only [Text.isSpace, Bool.or_eq_true, beq_iff_eq] at space
  rcases stands with rfl | rfl <;> rcases space with rfl | rfl <;> rfl

theorem run_nameChars (named : text.all isNameChar = true) :
    Scan.behind.run text = some .behind := by
  refine run_of_all fun c member => ?_
  simp only [next, List.all_eq_true.mp named c member, Bool.or_true, ↓reduceIte]

theorem isNameChar_of_isDigit {c : Char} (digit : c.isDigit = true) : isNameChar c = true := by
  simp only [isNameChar, Char.isAlphanum, digit, Bool.or_true, Bool.true_or]

theorem run_digits {digits : List Char} (all : digits.all Char.isDigit = true) :
    Scan.behind.run digits = some .behind :=
  run_nameChars (List.all_eq_true.mpr fun c member =>
    isNameChar_of_isDigit (List.all_eq_true.mp all c member))

/-- A character of a name is an operand, or the beginning of one. -/
theorem next_of_isNameChar {c : Char} (named : isNameChar c = true) :
    Scan.expects.next c = some .behind := by
  have other (d : Char) (never : isNameChar d = false) : (c == d) = false := by
    rw [beq_eq_false_iff_ne]
    rintro rfl
    rw [never] at named
    cases named
  simp only [next, other '-' rfl, other '"' rfl, other '\'' rfl, named, Bool.or_true, ↓reduceIte,
    Bool.or_self, Bool.false_eq_true]

theorem run_name {name : List Char} (named : isName name = true) :
    Scan.expects.run name = some .behind := by
  rcases name with _ | ⟨first, more⟩
  · cases named
  · by_cases sigil : first = '$'
    · subst sigil
      simp only [isName, Bool.and_eq_true] at named
      exact run_nameChars named.2
    · simp only [isName, Bool.and_eq_true] at named
      have starts : isNameChar first = true := by
        simp only [isNameStart, Bool.or_eq_true] at named
        simp only [isNameChar, Char.isAlphanum, Bool.or_eq_true]
        exact named.1.imp_left .inl
      rw [run, next_of_isNameChar starts]
      exact run_nameChars named.2

theorem run_decimalText (negative : Bool) {integer : List Char} {fraction : Option (List Char)}
    (whole : AreDigits integer) (decimals : ∀ digits, fraction = some digits → AreDigits digits) :
    Scan.expects.run (decimalText negative integer fraction) = some .behind := by
  obtain ⟨digit, more, rfl⟩ := List.exists_cons_of_ne_nil whole.1
  have digits := whole.2
  rw [List.all_cons, Bool.and_eq_true] at digits
  have behind : Scan.behind.run (more ++ fractionText fraction) = some .behind := by
    refine run_trans (run_digits digits.2) ?_
    cases fraction with
    | none => rfl
    | some places =>
      have point : Scan.behind.run ('.' :: places) = Scan.behind.run places := rfl
      rw [fractionText, point, run_digits (decimals places rfl).2]
  cases negative with
  | true =>
    change (Scan.signed.next digit).bind _ = _
    rw [next, if_pos digits.1]
    exact behind
  | false =>
    change (Scan.expects.next digit).bind _ = _
    rw [next_of_isNameChar (isNameChar_of_isDigit digits.1)]
    exact behind

theorem run_quoted {quote : Char} {value : List Char} (plain : ∀ c ∈ value, c ≠ quote) :
    (Scan.quoted quote).run (value ++ [quote]) = some .behind := by
  refine run_trans (run_of_all fun c member => ?_) ?_
  · simp only [next, beq_eq_false_iff_ne.mpr (plain c member), Bool.false_eq_true, ↓reduceIte]
  · simp only [run, next, beq_self_eq_true, ↓reduceIte, Option.bind_some]

theorem run_string {quote : Char} {value : List Char} (isQuote : quote = '"' ∨ quote = '\'')
    (plain : ∀ c ∈ value, c ≠ quote) :
    Scan.expects.run (quote :: (value ++ [quote])) = some .behind := by
  have opens : Scan.expects.next quote = some (.quoted quote) := by
    rcases isQuote with rfl | rfl <;> rfl
  rw [run, opens]
  exact run_quoted plain

theorem run_operator (operator : Operator) :
    Scan.behind.run operator.spelling.toList = some .expects := by
  cases operator <;> decide

end Scan

/-! ## Readers -/

namespace Reader

variable {α β : Type} {reader : Reader α} {before : Scan} {suits : Scan → α → Prop}

/-- The scan goes through what the reader takes, to where it suits the value. -/
def Scans (reader : Reader α) (before : Scan) (suits : Scan → α → Prop) : Prop :=
  ∀ ⦃cursor : Cursor⦄ ⦃value : α⦄ ⦃later : Cursor⦄, reader cursor = .read value later →
    ∃ taken after, cursor.Passes taken later ∧ before.run taken = some after ∧ suits after value

theorem Scans.bind {next : α → Reader β} {wanted : Scan → β → Prop}
    (first : reader.Scans before suits)
    (second : ∀ middle value, suits middle value → (next value).Scans middle wanted) :
    (reader >>= next).Scans before wanted := by
  intro cursor found later read
  obtain ⟨value, _, here, there⟩ := bind_eq_read.mp read
  obtain ⟨taken, middle, passes, goes, suited⟩ := first here
  obtain ⟨more, after, passes', goes', wants⟩ := second middle value suited there
  exact ⟨taken ++ more, after, passes.trans passes', Scan.run_trans goes goes', wants⟩

theorem scans_pure {value : α} (suited : suits before value) :
    (pure value : Reader α).Scans before suits := by
  intro cursor found later read
  obtain ⟨rfl, rfl⟩ := pure_eq_read.mp read
  exact ⟨[], before, cursor.passes_nil, rfl, suited⟩

theorem Scans.expecting (scans : reader.Scans before suits) (what : String) :
    (expecting what reader).Scans before suits :=
  fun _ _ _ read => scans (expecting_eq_read.mp read)

theorem Scans.optional (scans : reader.Scans before suits) :
    (optional reader).Scans before fun after found =>
      found = none ∧ after = before ∨ ∃ value, found = some value ∧ suits after value := by
  intro cursor found later read
  rcases read_of_optional read with ⟨value, rfl, present⟩ | ⟨rfl, rfl⟩
  · obtain ⟨taken, after, passes, goes, suited⟩ := scans present
    exact ⟨taken, after, passes, goes, .inr ⟨value, rfl, suited⟩⟩
  · exact ⟨[], before, cursor.passes_nil, rfl, .inl ⟨rfl, rfl⟩⟩

theorem scans_column : column.Scans before fun after _ => after = before := by
  intro cursor found later read
  obtain ⟨rfl, rfl⟩ := column_eq_read.mp read
  exact ⟨[], before, cursor.passes_nil, rfl, rfl⟩

theorem scans_remaining : remaining.Scans before fun after _ => after = before := by
  intro cursor found later read
  obtain ⟨rfl, rfl⟩ := remaining_eq_read.mp read
  exact ⟨[], before, cursor.passes_nil, rfl, rfl⟩

theorem scans_char {c : Char} {later : Scan} (moves : before.next c = some later) :
    (char c).Scans before fun after _ => after = later := by
  intro cursor found later read
  refine ⟨[c], _, passes_of_char read, ?_, rfl⟩
  rw [Scan.run, moves]
  rfl

theorem scans_notFollowedBy {rejects : Char → Bool} :
    (notFollowedBy rejects).Scans before fun after _ => after = before := by
  intro cursor found later read
  exact ⟨[], before, eq_of_notFollowedBy read ▸ cursor.passes_nil, rfl, rfl⟩

theorem scans_spaces (stands : before = .expects ∨ before = .behind) :
    spaces.Scans before fun after _ => after = before := by
  intro cursor found later read
  simp only [spaces, bind_eq_read, pure_eq_read] at read
  obtain ⟨blanks, _, taken, -, rfl⟩ := read
  obtain ⟨passes, blank⟩ := passes_of_takeWhile taken
  exact ⟨blanks, before, passes, Scan.run_blanks stands blank, rfl⟩

theorem scans_anyName : anyName.Scans .expects fun after _ => after = .behind := by
  intro cursor found later read
  obtain ⟨name, passes, named, -⟩ := passes_of_anyName read
  exact ⟨name, .behind, passes, Scan.run_name named, rfl⟩

theorem scans_operator : operator.Scans .behind fun after _ => after = .expects := by
  intro cursor found later read
  obtain ⟨taken, passes, covers⟩ := spells_operator read
  simp only [Located.operatorOutline, Outline.Covers, Part.Spelled] at covers
  obtain ⟨rfl, -⟩ := covers
  exact ⟨_, .expects, passes, Scan.run_operator _, rfl⟩

/-- The reader of elements of a series, and of what is between them. -/
theorem scans_moreSeparated {separator : Reader Unit} {item : Reader α} {holds : α → Prop}
    (apart : separator.Scans .behind fun after _ => after = .expects)
    (scans : item.Scans .expects fun after value => after = .behind ∧ holds value) (bound : Nat) :
    (moreSeparated separator item bound).Scans .behind fun after values =>
      after = .behind ∧ ∀ value ∈ values, holds value := by
  induction bound with
  | zero => exact scans_pure ⟨rfl, List.forall_mem_nil _⟩
  | succ bound ih =>
    have element := (apart.bind fun _ _ same => same ▸ scans).optional
    refine element.bind ?_
    rintro _ _ (⟨rfl, rfl⟩ | ⟨value, rfl, rfl, held⟩)
    · exact scans_pure ⟨rfl, List.forall_mem_nil _⟩
    · refine ih.bind ?_
      rintro _ values ⟨rfl, others⟩
      exact scans_pure ⟨rfl, List.forall_mem_cons.mpr ⟨held, others⟩⟩

theorem scans_separated {separator : Reader Unit} {item : Reader α} {holds : α → Prop}
    (apart : separator.Scans .behind fun after _ => after = .expects)
    (scans : item.Scans .expects fun after value => after = .behind ∧ holds value) :
    (separated separator item).Scans .expects fun after values =>
      (after = .expects ∨ after = .behind) ∧ ∀ value ∈ values, holds value := by
  refine scans.optional.bind ?_
  rintro _ _ (⟨rfl, rfl⟩ | ⟨value, rfl, rfl, held⟩)
  · exact scans_pure ⟨.inl rfl, List.forall_mem_nil _⟩
  · refine scans_remaining.bind ?_
    rintro _ rest rfl
    refine (scans_moreSeparated apart scans _).bind ?_
    rintro _ values ⟨rfl, others⟩
    exact scans_pure ⟨.inr rfl, List.forall_mem_cons.mpr ⟨held, others⟩⟩

end Reader

/-! ## Expressions -/

/-- The number is denoted by a decimal literal. -/
def Binary64.IsLiteral (value : Binary64) : Prop :=
  ∃ negative integer fraction, value = .ofDecimal negative integer fraction

/-- All numbers of the expression are denoted by literals. -/
def Expression.HoldsLiterals (expression : Expression) : Prop :=
  AllNumbers (fun value _ => value.IsLiteral) (expression.walk fun _ => true)

/-- All numbers of the argument are denoted by literals. -/
def Argument.HoldsLiterals (argument : Argument) : Prop :=
  AllNumbers (fun value _ => value.IsLiteral) (argument.walk fun _ => true)

theorem Argument.holdsLiterals_all {arguments : List Argument}
    (each : ∀ argument ∈ arguments, argument.HoldsLiterals) :
    AllNumbers (fun value _ => value.IsLiteral) (Argument.walkAll (fun _ => true) arguments) := by
  induction arguments with
  | nil => exact nofun
  | cons argument rest ih =>
    rw [List.forall_mem_cons] at each
    exact allNumbers_walkAll_cons.mpr ⟨each.1, ih each.2⟩

namespace Grammar

/-- Where the scan stands behind an expression that has been read. -/
def Scanned (after : Scan) (expression : Expression) : Prop :=
  after = .behind ∧ expression.HoldsLiterals

theorem scans_stringLiteral : stringLiteral.Scans .expects Scanned := by
  intro cursor value later read
  have shape : ∃ text span, value = .string text span := by
    simp only [stringLiteral, bind_eq_read, pure_eq_read] at read
    obtain ⟨_, _, _, _, _, _, _, _, _, _, _, _, _, _, _, rfl, _⟩ := read
    exact ⟨_, _, rfl⟩
  obtain ⟨text, span, rfl⟩ := shape
  obtain ⟨taken, passes, covers⟩ := spells_stringLiteral read
  simp only [Expression.outline, Outline.Covers, Part.Spelled] at covers
  obtain ⟨⟨quote, isQuote, rfl, plain⟩, -⟩ := covers
  refine ⟨_, .behind, passes, Scan.run_string isQuote fun c member => (plain c member).1, rfl, ?_⟩
  simp only [Expression.HoldsLiterals, AllNumbers, Expression.walk, List.mem_singleton,
    Node.expression.injEq, reduceCtorEq, false_implies, implies_true]

theorem scans_numberLiteral : numberLiteral.Scans .expects Scanned := by
  intro cursor value later read
  have shape : ∃ number span, value = .number number span := by
    simp only [numberLiteral, bind_eq_read, pure_eq_read] at read
    obtain ⟨_, _, _, _, _, _, _, _, _, _, _, _, _, _, _, rfl, _⟩ := read
    exact ⟨_, _, rfl⟩
  obtain ⟨number, span, rfl⟩ := shape
  obtain ⟨negative, integer, fraction, whole, decimals, passes, rfl⟩ :=
    decimalText_of_numberLiteral read
  refine ⟨_, .behind, passes, Scan.run_decimalText negative whole decimals, rfl, ?_⟩
  exact allNumbers_number.mpr ⟨negative, integer, fraction.getD [], rfl⟩

theorem scans_identifier : identifier.Scans .expects Scanned := by
  refine scans_anyName.bind ?_
  rintro _ name rfl
  refine scans_pure ⟨rfl, ?_⟩
  simp only [Expression.HoldsLiterals, AllNumbers, Expression.walk, List.mem_singleton,
    Node.expression.injEq, reduceCtorEq, false_implies, implies_true]

theorem scans_comma : comma.Scans .behind fun after _ => after = .expects := by
  refine (scans_spaces (.inr rfl)).bind ?_
  rintro _ _ rfl
  refine (scans_char rfl).bind ?_
  rintro _ _ rfl
  exact scans_spaces (.inl rfl)

theorem scans_argumentName : argumentName.Scans .expects fun after _ => after = .expects := by
  refine scans_anyName.bind ?_
  rintro _ name rfl
  refine (scans_spaces (.inr rfl)).bind ?_
  rintro _ _ rfl
  refine (scans_char rfl).bind ?_
  rintro _ _ rfl
  refine scans_notFollowedBy.bind ?_
  rintro _ _ rfl
  refine (scans_spaces (.inl rfl)).bind ?_
  rintro _ _ rfl
  exact scans_pure rfl

section Nested

variable {nested : Reader Expression} (scans : nested.Scans .expects Scanned)
include scans

theorem scans_parenthesized : (parenthesized nested).Scans .expects Scanned := by
  refine scans_column.bind ?_
  rintro _ start rfl
  refine (scans_char rfl).bind ?_
  rintro _ _ rfl
  refine (scans_spaces (.inl rfl)).bind ?_
  rintro _ _ rfl
  refine scans.bind ?_
  rintro _ inner ⟨rfl, literals⟩
  refine (scans_spaces (.inr rfl)).bind ?_
  rintro _ _ rfl
  refine ((scans_char rfl).expecting _).bind ?_
  rintro _ _ rfl
  refine scans_column.bind ?_
  rintro _ stop rfl
  exact scans_pure ⟨rfl, allNumbers_parenthesized.mpr literals⟩

theorem scans_argument : (argument nested).Scans .expects fun after found =>
    after = .behind ∧ found.HoldsLiterals := by
  refine scans_column.bind ?_
  rintro _ start rfl
  refine scans_argumentName.optional.bind ?_
  rintro _ name (⟨rfl, rfl⟩ | ⟨_, rfl, rfl⟩)
  all_goals
    refine scans.bind ?_
    rintro _ value ⟨rfl, literals⟩
    exact scans_pure ⟨rfl, literals⟩

theorem scans_call : (call nested).Scans .expects fun after found =>
    Scanned after found.toExpression := by
  have sign : (char '%').Scans .expects fun after _ => after = .expects := scans_char rfl
  refine scans_column.bind ?_
  rintro _ start rfl
  refine sign.optional.bind ?_
  rintro _ sigil standing
  have standing : _ = Scan.expects := standing.elim And.right fun ⟨_, _, same⟩ => same
  subst standing
  refine scans_anyName.bind ?_
  rintro _ callee rfl
  refine (scans_char rfl).bind ?_
  rintro _ _ rfl
  refine (scans_spaces (.inl rfl)).bind ?_
  rintro _ _ rfl
  refine (scans_separated scans_comma (scans_argument scans)).bind ?_
  rintro _ arguments ⟨standing, literals⟩
  refine (scans_spaces standing).bind ?_
  rintro middle _ rfl
  have closing : (char ')').Scans middle fun after _ => after = .behind :=
    scans_char (by rcases standing with rfl | rfl <;> rfl)
  refine (closing.expecting _).bind ?_
  rintro _ _ rfl
  refine scans_column.bind ?_
  rintro _ stop rfl
  exact scans_pure ⟨rfl, allNumbers_call.mpr (Argument.holdsLiterals_all literals)⟩

theorem scans_primary : (primary nested).Scans .expects Scanned := by
  intro cursor value later read
  obtain ⟨reader, member, read⟩ := read_of_choose (expecting_eq_read.mp read)
  simp only [List.mem_cons, List.not_mem_nil, or_false] at member
  rcases member with rfl | rfl | rfl | rfl | rfl
  · exact scans_parenthesized scans read
  · exact scans_stringLiteral read
  · exact scans_numberLiteral read
  · obtain ⟨found, called, rfl⟩ := map_eq_read.mp read
    exact scans_call scans called
  · exact scans_identifier read

end Nested

theorem scans_operations {operand : Reader Expression} (scans : operand.Scans .expects Scanned)
    (bound : Nat) {left : Expression} (literals : left.HoldsLiterals) :
    (operations operand bound left).Scans .behind Scanned := by
  have further : Scans (do spaces; operator) .behind fun after _ => after = .expects := by
    refine (scans_spaces (.inr rfl)).bind ?_
    rintro _ _ rfl
    exact scans_operator
  induction bound generalizing left with
  | zero => exact scans_pure ⟨rfl, literals⟩
  | succ bound ih =>
    refine further.optional.bind ?_
    rintro _ _ (⟨rfl, rfl⟩ | ⟨sign, rfl, rfl⟩)
    · exact scans_pure ⟨rfl, literals⟩
    · refine (scans_spaces (.inl rfl)).bind ?_
      rintro _ _ rfl
      refine (scans.expecting _).bind ?_
      rintro _ right ⟨rfl, others⟩
      exact ih (allNumbers_binary.mpr ⟨literals, others⟩)

theorem scans_expressionWithin (depth : Nat) :
    (expressionWithin depth).Scans .expects Scanned := by
  induction depth with
  | zero =>
    intro cursor value later read
    exact (reject_ne_read read).elim
  | succ depth ih =>
    refine (scans_primary ih).bind ?_
    rintro _ left ⟨rfl, literals⟩
    refine scans_remaining.bind ?_
    rintro _ rest rfl
    exact scans_operations (scans_primary ih) _ literals

/-- The scan goes through the text of every expression that is read, and the numbers of the
expression are denoted by literals. -/
theorem scans_expression : expression.Scans .expects Scanned := by
  refine scans_remaining.bind ?_
  rintro _ rest rfl
  exact scans_expressionWithin _

end Grammar

/-! ## Written forms -/

/-- What has the written form of the number, up to the sign of an infinite one: a number, or a name
if the number is infinite. -/
def Binary64.named : Binary64 → Span → Expression
  | .infinite _, span => .identifier "inf" span
  | value, span => .number value span

/-- The number is not the one whose written form has a sign without a digit. -/
def Binary64.HasDigits (value : Binary64) : Prop :=
  value ≠ .infinite true

/-- The scan goes through the text if the condition holds, and gets stuck if it does not. -/
def Goes (condition : Prop) (text : List Char) : Prop :=
  condition ∧ Scan.expects.run text = some .behind ∨ ¬condition ∧ Scan.expects.run text = none

section Goes

variable {condition other : Prop} {text more : List Char}

theorem goes_of_run (holds : condition) (goes : Scan.expects.run text = some .behind) :
    Goes condition text :=
  .inl ⟨holds, goes⟩

theorem Goes.congr (goes : Goes condition text) (same : other ↔ condition) : Goes other text :=
  propext same ▸ goes

/-- Two operands with something between them. -/
theorem Goes.append (first : Goes condition text) {gap : List Char}
    (between : Scan.behind.run gap = some .expects) (second : Goes other more) :
    Goes (condition ∧ other) (text ++ (gap ++ more)) := by
  rcases first with ⟨holds, goes⟩ | ⟨fails, stuck⟩
  · have joined : Scan.expects.run (text ++ (gap ++ more)) = Scan.expects.run more := by
      rw [Scan.run_append, goes, Option.bind_some, Scan.run_append, between, Option.bind_some]
    rcases second with ⟨holds', goes'⟩ | ⟨fails', stuck'⟩
    · exact .inl ⟨⟨holds, holds'⟩, joined.trans goes'⟩
    · exact .inr ⟨fun both => fails' both.2, joined.trans stuck'⟩
  · refine .inr ⟨fun both => fails both.1, ?_⟩
    rw [Scan.run_append, stuck, Option.bind_none]

/-- An operand with something around it. -/
theorem Goes.wrap (inside : Goes condition text) {before after : List Char}
    (opening : Scan.expects.run before = some .expects)
    (closing : Scan.behind.run after = some .behind) :
    Goes condition (before ++ (text ++ after)) := by
  have opened : Scan.expects.run (before ++ (text ++ after)) =
      Scan.expects.run (text ++ after) := by
    rw [Scan.run_append, opening, Option.bind_some]
  rcases inside with ⟨holds, goes⟩ | ⟨fails, stuck⟩
  · exact .inl ⟨holds, opened.trans (Scan.run_trans goes closing)⟩
  · refine .inr ⟨fails, opened.trans ?_⟩
    rw [Scan.run_append, stuck, Option.bind_none]

end Goes

theorem Binary64.goes_render {value : Binary64} {span : Span}
    (printable : (value.named span).Printable) : Goes value.HasDigits value.render.toList := by
  cases value with
  | finite negative mantissa exponent =>
    simp only [named, Expression.Printable] at printable
    obtain ⟨negative, integer, fraction, whole, decimals, text, -⟩ := printable.decimal
    refine goes_of_run (by rintro ⟨⟩) ?_
    rw [text]
    exact Scan.run_decimalText negative whole decimals
  | infinite negative =>
    cases negative with
    | false => exact goes_of_run (by rintro ⟨⟩) (by decide)
    | true => exact .inr ⟨fun digits => digits rfl, by decide⟩

mutual

/-- The scan goes through the written form of an expression, unless an infinite negative number is
in it. -/
theorem Expression.goes_render : (expression : Expression) →
    (expression.mapNumbers Binary64.named).Printable →
    Goes (AllNumbers (fun value _ => value.HasDigits) (expression.walk fun _ => true))
      expression.render.toList
  | .binary left operator right span, printable => by
    simp only [Expression.mapNumbers, Expression.Printable] at printable
    have gap : Scan.behind.run (' ' :: (operator.value.spelling.toList ++ [' '])) =
        some .expects :=
      Scan.run_trans (Scan.run_operator operator.value) rfl
    have text : (Expression.binary left operator right span).render.toList = left.render.toList ++
        (' ' :: (operator.value.spelling.toList ++ [' ']) ++ right.render.toList) := by
      simp only [Expression.render, String.toList_append, List.append_assoc, List.cons_append]
      rfl
    rw [text]
    exact ((left.goes_render printable.1).append gap (right.goes_render printable.2.1)).congr
      allNumbers_binary
  | .parenthesized inner span, printable => by
    simp only [Expression.mapNumbers, Expression.Printable] at printable
    have text : (Expression.parenthesized inner span).render.toList =
        ['('] ++ (inner.render.toList ++ [')']) := by
      simp only [Expression.render, String.toList_append]
      rfl
    rw [text]
    exact ((inner.goes_render printable).wrap rfl rfl).congr allNumbers_parenthesized
  | .call builtin callee arguments span, printable => by
    simp only [Expression.mapNumbers, Expression.Printable] at printable
    have opening : Scan.expects.run
        ((if builtin then ['%'] else []) ++ (callee.value.toList ++ ['('])) = some .expects := by
      have sigil : Scan.expects.run (if builtin then ['%'] else []) = some .expects := by
        cases builtin <;> rfl
      exact Scan.run_trans sigil (Scan.run_trans (Scan.run_name printable.1) rfl)
    have text : (Expression.call builtin callee arguments span).render.toList =
        ((if builtin then ['%'] else []) ++ (callee.value.toList ++ ['('])) ++
          (Argument.listText arguments ++ [')']) := by
      simp only [Expression.render, String.toList_append, Argument.toList_renderAll,
        List.append_assoc]
      cases builtin <;> rfl
    rw [text]
    cases arguments with
    | nil => exact goes_of_run (allNumbers_call.mpr nofun) (Scan.run_trans opening rfl)
    | cons argument rest =>
      have listed := Argument.goes_listText (argument :: rest) (List.cons_ne_nil _ _) printable.2
      exact (listed.wrap opening rfl).congr allNumbers_call
  | .string value span, printable => by
    simp only [Expression.mapNumbers, Expression.Printable] at printable
    obtain ⟨quote, isQuote, plain⟩ := printable
    obtain ⟨mark, isMark, text, plain⟩ := quoteString_eq isQuote plain
    simp only [Expression.render, text]
    refine goes_of_run ?_ (Scan.run_string isMark fun c member => (plain c member).1)
    simp only [AllNumbers, Expression.walk, List.mem_singleton, Node.expression.injEq,
      reduceCtorEq, false_implies, implies_true]
  | .number value span, printable => by
    rw [Expression.mapNumbers] at printable
    rw [Expression.render]
    exact (Binary64.goes_render printable).congr allNumbers_number
  | .identifier name span, printable => by
    simp only [Expression.mapNumbers, Expression.Printable] at printable
    simp only [Expression.render]
    refine goes_of_run ?_ (Scan.run_name printable)
    simp only [AllNumbers, Expression.walk, List.mem_singleton, Node.expression.injEq,
      reduceCtorEq, false_implies, implies_true]

theorem Argument.goes_render : (argument : Argument) →
    (argument.mapNumbers Binary64.named).Printable →
    Goes (AllNumbers (fun value _ => value.HasDigits) (argument.walk fun _ => true))
      argument.render.toList
  | .mk name value span, printable => by
    simp only [Argument.mapNumbers, Argument.Printable] at printable
    have inner := value.goes_render printable.2
    simp only [Argument.render, Argument.walk]
    cases name with
    | none => exact inner
    | some label =>
      have opening : Scan.expects.run (label.value.toList ++ ['=']) = some .expects :=
        Scan.run_trans (Scan.run_name (printable.1 label rfl)) rfl
      have nothing : Scan.behind.run [] = some .behind := rfl
      have wrapped := inner.wrap opening nothing
      rw [List.append_nil] at wrapped
      simp only [String.toList_append]
      exact wrapped

theorem Argument.goes_listText : (arguments : List Argument) → arguments ≠ [] →
    Argument.AllPrintable (Argument.mapNumbersAll Binary64.named arguments) →
    Goes (AllNumbers (fun value _ => value.HasDigits)
      (Argument.walkAll (fun _ => true) arguments)) (Argument.listText arguments)
  | [], present, _ => absurd rfl present
  | [argument], _, printable => by
    simp only [Argument.mapNumbersAll, Argument.AllPrintable] at printable
    rw [Argument.listText, List.map_singleton, List.intercalate_singleton]
    refine (argument.goes_render printable.1).congr ?_
    simp only [Argument.walkAll, List.append_nil]
  | argument :: next :: rest, _, printable => by
    rw [Argument.mapNumbersAll, Argument.AllPrintable] at printable
    have text : Argument.listText (argument :: next :: rest) =
        argument.render.toList ++ ([',', ' '] ++ Argument.listText (next :: rest)) := by
      simp only [Argument.listText, List.map_cons, List.intercalate_cons_cons, List.append_assoc]
    have others := Argument.goes_listText (next :: rest) (List.cons_ne_nil _ _) printable.2
    rw [text]
    exact ((argument.goes_render printable.1).append rfl others).congr allNumbers_walkAll_cons

end

end DiagramAssist
