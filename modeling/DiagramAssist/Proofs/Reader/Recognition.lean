import DiagramAssist.Proofs.Reader.Decline

/-! # Texts that readers take

The converse of passing a text: a reader takes a text when the text stands in front of it, whatever
the column, provided that what follows cannot be taken for more of it. Texts are taken piece by
piece by the readers of a sequence (`Takes.bind`), and an alternative is passed over on texts that
it refuses (`Refuses`).
-/

namespace DiagramAssist.Reader

variable {α β : Type} {text more after : List Char}

/-- The reader takes `text` when `after` follows, and what it reads has the property. -/
def Takes (reader : Reader α) (text after : List Char) (holds : α → Prop) : Prop :=
  ∀ column, ∃ value next, reader ⟨column, text ++ after⟩ = .read value ⟨next, after⟩ ∧ holds value

/-- The reader declines the text. -/
def Refuses (reader : Reader α) (text : List Char) : Prop :=
  ∀ column, reader.Declines ⟨column, text⟩

section Combinators

variable {reader : Reader α} {next : α → Reader β} {holds : α → Prop} {wanted : β → Prop}

/-- A sequence takes the texts of its steps. -/
theorem Takes.bind (first : reader.Takes text (more ++ after) holds)
    (second : ∀ value, holds value → (next value).Takes more after wanted) :
    (reader >>= next).Takes (text ++ more) after wanted := by
  intro column
  rw [List.append_assoc]
  obtain ⟨value, middle, read, held⟩ := first column
  obtain ⟨found, stop, behind, meant⟩ := second value held middle
  exact ⟨found, stop, (bind_of_read read).trans behind, meant⟩

/-- A first step that takes nothing. -/
theorem Takes.bind_nothing (first : reader.Takes [] (text ++ after) holds)
    (second : ∀ value, holds value → (next value).Takes text after wanted) :
    (reader >>= next).Takes text after wanted :=
  first.bind second

/-- A first step that takes one character. -/
theorem Takes.bind_cons {c : Char} (first : reader.Takes [c] (text ++ after) holds)
    (second : ∀ value, holds value → (next value).Takes text after wanted) :
    (reader >>= next).Takes (c :: text) after wanted :=
  first.bind second

/-- A last step that takes nothing. -/
theorem Takes.bind_last (first : reader.Takes text after holds)
    (second : ∀ value, holds value → (next value).Takes [] after wanted) :
    (reader >>= next).Takes text after wanted := by
  have both : (reader >>= next).Takes (text ++ []) after wanted := Takes.bind first second
  rwa [List.append_nil] at both

theorem takes_pure {value : α} (held : holds value) :
    (pure value : Reader α).Takes [] after holds :=
  fun column => ⟨value, column, rfl, held⟩

theorem Takes.mono (takes : reader.Takes text after holds) {weaker : α → Prop}
    (weaken : ∀ value, holds value → weaker value) : reader.Takes text after weaker := by
  intro column
  obtain ⟨value, stop, read, held⟩ := takes column
  exact ⟨value, stop, read, weaken value held⟩

theorem Takes.map {f : α → β} (takes : reader.Takes text after fun value => wanted (f value)) :
    (f <$> reader).Takes text after wanted :=
  takes.bind_last fun _ held => takes_pure held

theorem Takes.withClue (takes : reader.Takes text after holds) (clue : Clue) :
    (withClue clue reader).Takes text after holds := by
  intro column
  obtain ⟨value, stop, read, held⟩ := takes column
  exact ⟨value, stop, withClue_eq_read.mpr read, held⟩

theorem Takes.expecting (takes : reader.Takes text after holds) (what : String) :
    (expecting what reader).Takes text after holds :=
  takes.withClue _

theorem Takes.commit (takes : reader.Takes text after holds) :
    (commit reader).Takes text after holds := by
  intro column
  obtain ⟨value, stop, read, held⟩ := takes column
  exact ⟨value, stop, commit_eq_read.mpr read, held⟩

theorem Takes.directiveRest (takes : reader.Takes text after holds) (start : Nat) (fault : Fault) :
    (directiveRest start fault reader).Takes text after holds :=
  (takes.commit.withClue _).withClue _

theorem takes_column : column.Takes [] after fun _ => True :=
  fun start => ⟨start, start, rfl, trivial⟩

theorem takes_remaining : remaining.Takes [] after (· = after) :=
  fun start => ⟨after, start, rfl, rfl⟩

theorem Takes.optional (takes : reader.Takes text after holds) :
    (optional reader).Takes text after fun found => ∃ value, found = some value ∧ holds value := by
  intro column
  obtain ⟨value, stop, read, held⟩ := takes column
  exact ⟨some value, stop, optional_of_read read, value, rfl, held⟩

theorem Refuses.optional (refuses : reader.Refuses after) :
    (optional reader).Takes [] after (· = none) :=
  fun column => ⟨none, column, optional_of_declines (refuses column), rfl⟩

theorem Takes.orElse (takes : reader.Takes text after holds) (second : Reader α) :
    (orElse reader second).Takes text after holds := by
  intro column
  obtain ⟨value, stop, read, held⟩ := takes column
  exact ⟨value, stop, orElse_of_read read, held⟩

theorem Refuses.orElse (refuses : reader.Refuses (text ++ after)) {second : Reader α}
    (takes : second.Takes text after holds) : (orElse reader second).Takes text after holds := by
  intro column
  rw [orElse_of_declines (refuses column)]
  exact takes column

theorem Takes.choose (takes : reader.Takes text after holds) (rest : List (Reader α)) :
    (choose (reader :: rest)).Takes text after holds := by
  intro column
  obtain ⟨value, stop, read, held⟩ := takes column
  exact ⟨value, stop, choose_of_read read, held⟩

/-- An alternative that refuses the text is passed over. -/
theorem Refuses.choose (refuses : reader.Refuses (text ++ after)) {other : Reader α}
    {rest : List (Reader α)} (takes : (choose (other :: rest)).Takes text after holds) :
    (choose (reader :: other :: rest)).Takes text after holds :=
  refuses.orElse takes

theorem Refuses.bind (refuses : reader.Refuses text) : (reader >>= next).Refuses text :=
  fun column => declines_bind.mpr (.inl (refuses column))

/-- A sequence refuses a text when one of its steps refuses what is left of it. -/
theorem Takes.refuses (first : reader.Takes text after holds)
    (second : ∀ value, holds value → (next value).Refuses after) :
    (reader >>= next).Refuses (text ++ after) := by
  intro column
  obtain ⟨value, middle, read, held⟩ := first column
  exact declines_bind.mpr (.inr ⟨value, _, read, second value held middle⟩)

theorem Takes.refuses_nothing (first : reader.Takes [] text holds)
    (second : ∀ value, holds value → (next value).Refuses text) : (reader >>= next).Refuses text :=
  first.refuses second

theorem Refuses.map {f : α → β} (refuses : reader.Refuses text) : (f <$> reader).Refuses text :=
  fun column => declines_map.mpr (refuses column)

end Combinators

section Characters

variable {accepts : Char → Bool}

theorem takes_takeWhile (accepted : text.all accepts = true)
    (stops : after.head?.any accepts = false) :
    (takeWhile accepts).Takes text after (· = text) := by
  have tail : after.takeWhile accepts = [] ∧ after.dropWhile accepts = after := by
    cases after with
    | nil => exact ⟨rfl, rfl⟩
    | cons c rest =>
      have other : accepts c = false := stops
      simp [other]
  intro column
  have taken : (text ++ after).takeWhile accepts = text := by
    rw [List.takeWhile_append_of_pos (List.all_eq_true.mp accepted), tail.1, List.append_nil]
  have left : (text ++ after).dropWhile accepts = after := by
    rw [List.dropWhile_append_of_pos (List.all_eq_true.mp accepted), tail.2]
  refine ⟨text, column + Text.byteLength text, ?_, rfl⟩
  simp only [takeWhile, taken, left, Cursor.advance]

theorem takes_takeWhile1 (present : text ≠ []) (accepted : text.all accepts = true)
    (stops : after.head?.any accepts = false) :
    (takeWhile1 accepts).Takes text after (· = text) := by
  intro column
  obtain ⟨value, stop, read, rfl⟩ := takes_takeWhile accepted stops column
  refine ⟨value, stop, ?_, rfl⟩
  simp only [takeWhile, Outcome.read.injEq] at read
  have some : ((value ++ after).takeWhile accepts).isEmpty = false := by
    rw [read.1, List.isEmpty_eq_false_iff]
    exact present
  simp only [takeWhile1, some, Bool.false_eq_true, ↓reduceIte, Outcome.read.injEq]
  exact read

theorem takes_one {c : Char} (accepted : accepts c = true) :
    (one accepts).Takes [c] after (· = c) :=
  fun column => ⟨c, column + Text.byteLength [c], by simp [one, accepted, Cursor.advance], rfl⟩

theorem takes_char (c : Char) : (char c).Takes [c] after fun _ => True :=
  (takes_one (beq_self_eq_true c)).bind_last fun _ _ => takes_pure trivial

theorem refuses_char {c : Char} (other : text.head? ≠ some c) : (char c).Refuses text :=
  fun _ => declines_char.mpr other

theorem takes_notFollowedBy (stops : after.head?.any accepts = false) :
    (notFollowedBy accepts).Takes [] after fun _ => True := by
  intro column
  refine ⟨(), column, ?_, trivial⟩
  cases after with
  | nil => rfl
  | cons c rest =>
    have other : accepts c = false := stops
    simp [notFollowedBy, other]

theorem takes_spaces (blank : text.all Text.isSpace = true)
    (stops : after.head?.any Text.isSpace = false) : spaces.Takes text after fun _ => True :=
  (takes_takeWhile blank stops).bind_last fun _ _ => takes_pure trivial

theorem takes_spaces1 (present : text ≠ []) (blank : text.all Text.isSpace = true)
    (stops : after.head?.any Text.isSpace = false) : spaces1.Takes text after fun _ => True :=
  (takes_takeWhile1 present blank stops).bind_last fun _ _ => takes_pure trivial

/-- A directive starts with its mark. -/
theorem takes_directiveStart : directiveStart.Takes ['!'] after fun _ => True :=
  fun _ => ⟨_, _, rfl, trivial⟩

/-- A statement may end where the text ends. -/
theorem takes_endOfStatement : (endOfStatement true).Takes [] [] fun _ => True :=
  fun _ => ⟨_, _, rfl, trivial⟩

end Characters

section Words

variable {name : List Char}

theorem takes_variableName {more : List Char} (present : more ≠ [])
    (named : more.all isNameChar = true) (ends : after.head?.any isNameChar = false) :
    variableName.Takes ('$' :: more) after (·.value = String.ofList ('$' :: more)) := by
  refine takes_column.bind_nothing fun start _ => ?_
  refine (takes_char '$').bind_cons fun _ _ => ?_
  refine (takes_takeWhile1 present named ends).bind_last ?_
  rintro _ rfl
  exact takes_pure rfl

/-- A name is read as a whole where it cannot go on. -/
theorem takes_anyName (named : isName name = true) (ends : after.head?.any isNameChar = false) :
    anyName.Takes name after (·.value = String.ofList name) := by
  rcases name with _ | ⟨first, more⟩
  · cases named
  · by_cases sigil : first = '$'
    · subst sigil
      simp only [isName, Bool.and_eq_true, Bool.not_eq_true', List.isEmpty_eq_false_iff] at named
      exact (takes_variableName named.1 named.2 ends).orElse _
    · simp only [isName, Bool.and_eq_true] at named
      have bare : variableName.Refuses (first :: more ++ after) :=
        takes_column.refuses_nothing fun _ _ => (refuses_char (by simpa using sigil)).bind
      refine bare.orElse (takes_column.bind_nothing fun start _ => ?_)
      refine (takes_one named.1).bind_cons ?_
      rintro _ rfl
      refine (takes_takeWhile named.2 ends).bind_last ?_
      rintro _ rfl
      exact takes_pure rfl

theorem refuses_anyName (other : text.head?.any (fun c => c == '$' || isNameStart c) = false) :
    anyName.Refuses text := by
  intro column
  have plain : text.head? ≠ some '$' ∧ text.head?.any isNameStart = false := by
    cases text with
    | nil => simp
    | cons c rest => simpa using other
  simp only [anyName, declines_orElse, variableName, bareName, declines_bind, declines_char,
    declines_one, not_declines_column, false_or, column_eq_read]
  exact ⟨⟨_, _, ⟨rfl, rfl⟩, .inl plain.1⟩, ⟨_, _, ⟨rfl, rfl⟩, .inl plain.2⟩⟩

theorem takes_stringLiteral {quote : Char} {value : List Char}
    (isQuote : quote = '"' ∨ quote = '\'')
    (plain : ∀ c ∈ value, c ≠ quote ∧ c ≠ '\n' ∧ c ≠ '\r') :
    stringLiteral.Takes (quote :: (value ++ [quote])) after
      fun found => ∃ span, found = .string (String.ofList value) span := by
  refine takes_column.bind_nothing fun start _ => ?_
  refine (takes_one (by simpa using isQuote)).bind_cons ?_
  rintro quote rfl
  have kept : (value.all fun c => !(c == quote || c == '\n' || c == '\r')) = true := by
    simpa [List.all_eq_true, and_assoc] using plain
  have ends : ([quote] ++ after).head?.any
      (fun c => !(c == quote || c == '\n' || c == '\r')) = false := by simp
  refine (takes_takeWhile kept ends).bind ?_
  rintro _ rfl
  have closing : (char quote).Takes [quote] after fun _ => True := takes_char quote
  refine ((((closing.commit.expecting _).withClue _).withClue _).withClue _).bind_last fun _ _ => ?_
  exact takes_column.bind_nothing fun _ _ => takes_pure ⟨_, rfl⟩

/-- A blank behind an operator keeps it from being taken for a longer one. -/
theorem takes_operator (operator : Operator) :
    Reader.operator.Takes operator.spelling.toList (' ' :: after) (·.value = operator) := by
  intro column
  cases operator <;> exact ⟨_, _, rfl, rfl⟩

end Words

section Numbers

/-- Digits of a number: at least one, and nothing else. -/
def AreDigits (digits : List Char) : Prop :=
  digits ≠ [] ∧ digits.all Char.isDigit = true

/-- The text of a fraction, with its point. -/
def fractionText (fraction : Option (List Char)) : List Char :=
  match fraction with
  | some digits => '.' :: digits
  | none => []

/-- The text of a decimal number. -/
def decimalText (negative : Bool) (integer : List Char) (fraction : Option (List Char)) :
    List Char :=
  (if negative then ['-'] else []) ++ (integer ++ fractionText fraction)

variable {negative : Bool} {integer : List Char} {fraction : Option (List Char)}

/-- A decimal number is read as a whole where neither digits nor a fraction can follow. -/
theorem takes_numberLiteral (whole : AreDigits integer)
    (decimals : ∀ digits, fraction = some digits → AreDigits digits)
    (stops : after.head?.any (fun c => c.isDigit || c == '.') = false) :
    numberLiteral.Takes (decimalText negative integer fraction) after fun found =>
      ∃ span, found = .number (.ofDecimal negative integer (fraction.getD [])) span := by
  have noDigit : after.head?.any Char.isDigit = false ∧ after.head? ≠ some '.' := by
    cases after with
    | nil => simp
    | cons c rest => simpa using stops
  have sign : (optional (char '-')).Takes (if negative then ['-'] else [])
      ((integer ++ fractionText fraction) ++ after) (·.isSome = negative) := by
    cases negative with
    | true =>
      refine (takes_char '-').optional.mono ?_
      rintro _ ⟨_, rfl, -⟩
      rfl
    | false =>
      refine Takes.mono (Refuses.optional (refuses_char ?_)) (by rintro _ rfl; rfl)
      rcases integer with _ | ⟨digit, more⟩
      · exact absurd rfl whole.1
      · have isDigit : digit.isDigit = true := List.all_eq_true.mp whole.2 digit List.mem_cons_self
        rintro same
        rw [List.append_assoc, List.cons_append, List.head?_cons, Option.some.injEq] at same
        subst same
        exact absurd isDigit (by decide)
  have leading : (takeWhile1 Char.isDigit).Takes integer (fractionText fraction ++ after)
      (· = integer) := by
    refine takes_takeWhile1 whole.1 whole.2 ?_
    cases fraction with
    | none => exact noDigit.1
    | some digits => rfl
  have rest : (optional (do char '.'; takeWhile1 Char.isDigit)).Takes (fractionText fraction) after
      (· = fraction) := by
    cases fraction with
    | none => exact (refuses_char noDigit.2).bind.optional
    | some digits =>
      have present := decimals _ rfl
      have point := (takes_char '.').bind_cons fun _ _ =>
        takes_takeWhile1 present.1 present.2 noDigit.1
      refine point.optional.mono ?_
      rintro _ ⟨_, rfl, rfl⟩
      rfl
  refine takes_column.bind_nothing fun start _ => sign.bind fun found signed => leading.bind ?_
  rintro _ rfl
  refine rest.bind_last ?_
  rintro _ rfl
  exact takes_column.bind_nothing fun _ _ => takes_pure ⟨_, by rw [signed]⟩

/-- A number that is read is spelled as a decimal number. -/
theorem decimalText_of_numberLiteral {cursor later : Cursor} {value : Binary64} {span : Span}
    (read : numberLiteral cursor = .read (.number value span) later) :
    ∃ negative integer fraction, AreDigits integer ∧
      (∀ digits, fraction = some digits → AreDigits digits) ∧
      cursor.Passes (decimalText negative integer fraction) later ∧
      value = .ofDecimal negative integer (fraction.getD []) := by
  simp only [numberLiteral, bind_eq_read, column_eq_read, pure_eq_read,
    Expression.number.injEq] at read
  obtain ⟨_, _, ⟨rfl, rfl⟩, sign, middle, signed, integer, _, digits, fraction, _, rest, _, _,
    ⟨rfl, rfl⟩, ⟨rfl, -⟩, rfl⟩ := read
  obtain ⟨holds, whole⟩ := passes_of_takeWhile1 digits
  have before : cursor.Passes (if sign.isSome then ['-'] else []) middle := by
    rcases read_of_optional signed with ⟨_, rfl, mark⟩ | ⟨rfl, rfl⟩
    · exact passes_of_char mark
    · exact cursor.passes_nil
  rcases read_of_optional rest with ⟨decimals, rfl, present⟩ | ⟨rfl, rfl⟩
  · simp only [bind_eq_read] at present
    obtain ⟨_, _, point, read⟩ := present
    obtain ⟨behind, present⟩ := passes_of_takeWhile1 read
    have fractional := (passes_of_char point).trans behind
    refine ⟨_, integer, some decimals, whole, ?_, before.trans (holds.trans fractional), rfl⟩
    rintro _ ⟨⟩
    exact present
  · refine ⟨_, integer, none, whole, by simp, before.trans ?_, rfl⟩
    simp only [fractionText, List.append_nil]
    exact holds

end Numbers

section Series

variable {γ δ : Type} {separator : Reader Unit} {item : Reader α} {write : γ → List Char}
  {gap : List Char} {read : α → δ} {meant : γ → δ} {stops : List Char → Prop}

variable (write) in
/-- What follows an element of a series stops the element. -/
theorem stops_series (between : ∀ tail, stops (gap ++ tail)) (ends : stops after)
    (values : List γ) : stops ((values.flatMap fun value => gap ++ write value) ++ after) := by
  cases values with
  | nil => exact ends
  | cons value rest =>
    rw [List.flatMap_cons, List.append_assoc, List.append_assoc]
    exact between _

theorem length_le_length_series (present : gap ≠ []) (values : List γ) :
    values.length ≤ (values.flatMap fun value => gap ++ write value).length := by
  have positive : 0 < gap.length := List.length_pos_iff.mpr present
  induction values with
  | nil => exact Nat.zero_le _
  | cons value rest ih =>
    rw [List.flatMap_cons, List.length_append, List.length_append, List.length_cons]
    omega

/-- Written elements behind separators are read one by one, up to a text that no separator takes. -/
theorem takes_moreSeparated {values : List γ} {bound : Nat} (enough : values.length ≤ bound)
    (between : ∀ tail, stops (gap ++ tail)) (ends : stops after)
    (parts : ∀ value ∈ values, ∀ tail, separator.Takes gap (write value ++ tail) fun _ => True)
    (items : ∀ value ∈ values, ∀ tail, stops tail →
      item.Takes (write value) tail fun found => read found = meant value)
    (last : separator.Refuses after) :
    (moreSeparated separator item bound).Takes (values.flatMap fun value => gap ++ write value)
      after fun found => found.map read = values.map meant := by
  induction values generalizing bound with
  | nil =>
    cases bound with
    | zero => exact takes_pure rfl
    | succ bound =>
      refine last.bind.optional.bind_nothing ?_
      rintro _ rfl
      exact takes_pure rfl
  | cons value rest ih =>
    cases bound with
    | zero => cases enough
    | succ bound =>
      rw [List.forall_mem_cons] at parts items
      have first := Takes.bind (parts.1 _) fun _ _ =>
        items.1 _ (stops_series write between ends rest)
      rw [List.flatMap_cons]
      refine first.optional.bind ?_
      rintro _ ⟨found, rfl, same⟩
      refine (ih (Nat.le_of_succ_le_succ enough) parts.2 items.2).bind_last fun others rest => ?_
      exact takes_pure (by rw [List.map_cons, List.map_cons, same, rest])

theorem intercalate_cons_eq (gap first : List Char) (rest : List (List Char)) :
    gap.intercalate (first :: rest) = first ++ rest.flatMap (gap ++ ·) := by
  induction rest generalizing first with
  | nil => rw [List.intercalate_singleton, List.flatMap_nil, List.append_nil]
  | cons second rest ih =>
    rw [List.intercalate_cons_cons, ih, List.flatMap_cons, List.append_assoc, List.append_assoc]

theorem length_le_intercalate {gap text : List Char} {texts : List (List Char)}
    (member : text ∈ texts) : text.length ≤ (gap.intercalate texts).length := by
  cases texts with
  | nil => cases member
  | cons first rest =>
    rw [intercalate_cons_eq, List.length_append]
    rcases List.mem_cons.mp member with rfl | later
    · exact Nat.le_add_right ..
    · obtain ⟨before, behind, rfl⟩ := List.append_of_mem later
      simp only [List.flatMap_append, List.flatMap_cons, List.length_append]
      omega

/-- Written elements with separators between them. -/
theorem takes_separated {values : List γ} (present : gap ≠ [])
    (between : ∀ tail, stops (gap ++ tail)) (ends : stops after)
    (parts : ∀ value ∈ values, ∀ tail, separator.Takes gap (write value ++ tail) fun _ => True)
    (items : ∀ value ∈ values, ∀ tail, stops tail →
      item.Takes (write value) tail fun found => read found = meant value)
    (nothing : item.Refuses after) (last : separator.Refuses after) :
    (separated separator item).Takes (gap.intercalate (values.map write)) after
      fun found => found.map read = values.map meant := by
  cases values with
  | nil =>
    refine nothing.optional.bind_nothing ?_
    rintro _ rfl
    exact takes_pure rfl
  | cons value rest =>
    rw [List.forall_mem_cons] at parts items
    rw [List.map_cons, intercalate_cons_eq, List.flatMap_map]
    refine (items.1 _ (stops_series write between ends rest)).optional.bind ?_
    rintro _ ⟨found, rfl, same⟩
    refine takes_remaining.bind_nothing ?_
    rintro _ rfl
    have enough : rest.length ≤
        ((rest.flatMap fun value => gap ++ write value) ++ after).length := by
      rw [List.length_append]
      exact Nat.le_add_right_of_le (length_le_length_series present rest)
    refine (takes_moreSeparated enough between ends parts.2 items.2 last).bind_last
      fun others behind => ?_
    exact takes_pure (by rw [List.map_cons, List.map_cons, same, behind])

end Series

end DiagramAssist.Reader
