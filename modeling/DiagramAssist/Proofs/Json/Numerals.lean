import DiagramAssist.Json.Real
import DiagramAssist.Proofs.Number.Shortest
import Mathlib.Data.List.DropRight

/-! # JSON numbers are read back

A numeral is read off its text as far as it goes, if its digits are there, no zero leads others and
nothing that could belong to a number stands behind it. What is written for an integer or for a
binary64 number is such a text. An integer that fits a 64-bit word has the integer as its value;
what the value of any other text is, the digits decide.
-/

namespace DiagramAssist.Json.Numeral

/-- One digit or more. -/
def AreDigits (digits : List Char) : Prop :=
  digits ≠ [] ∧ ∀ c ∈ digits, c.isDigit = true

/-- What a number is made of. -/
structure WellFormed (numeral : Numeral) : Prop where
  whole : AreDigits numeral.whole
  leading : 1 < numeral.whole.length → numeral.whole.head? ≠ some '0'
  fraction : ∀ digits, numeral.fraction = some digits → AreDigits digits
  exponent : ∀ isNegative digits, numeral.exponent = some (isNegative, digits) → AreDigits digits

/-- Nothing that goes on with a number stands at the start of a text. -/
def Stops (rest : List Char) : Prop :=
  ∀ c, rest.head? = some c → c.isDigit = false ∧ c ≠ '.' ∧ c ≠ 'e' ∧ c ≠ 'E'

/-! ## Reading the parts -/

section Parts

variable {digits rest : List Char}

theorem digits?_append (present : AreDigits digits)
    (stops : ∀ c, rest.head? = some c → c.isDigit = false) :
    digits? (digits ++ rest) = some (digits, rest) := by
  have last : rest.takeWhile Char.isDigit = [] ∧ rest.dropWhile Char.isDigit = rest := by
    cases rest with
    | nil => exact ⟨rfl, rfl⟩
    | cons c rest => simp [stops c rfl]
  rw [digits?, List.takeWhile_append_of_pos present.2, List.dropWhile_append_of_pos present.2,
    last.1, last.2, List.append_nil]
  simp [present.1]

theorem whole?_append (present : AreDigits digits)
    (leading : 1 < digits.length → digits.head? ≠ some '0')
    (stops : ∀ c, rest.head? = some c → c.isDigit = false) :
    whole? (digits ++ rest) = some (digits, rest) := by
  simp only [whole?, digits?_append present stops, bind, Option.bind_some]
  rw [if_neg]
  · rfl
  · simpa using leading

end Parts

section Texts

variable {rest : List Char}

theorem exponent?_append {exponent : Option (Bool × List Char)}
    (present : ∀ isNegative digits, exponent = some (isNegative, digits) → AreDigits digits)
    (stops : Stops rest) : exponent? (exponentText exponent ++ rest) = some (exponent, rest) := by
  cases exponent with
  | none =>
    rw [exponentText, List.nil_append, exponent?]
    · rintro later rfl
      exact (stops 'e' rfl).2.2.1 rfl
    · rintro later rfl
      exact (stops 'E' rfl).2.2.2 rfl
  | some exponent =>
    obtain ⟨isNegative, digits⟩ := exponent
    have read := digits?_append (present isNegative digits rfl) fun c first => (stops c first).1
    cases isNegative <;> simp [exponentText, exponent?, power?, read]

theorem head_exponentText (exponent : Option (Bool × List Char)) (stops : Stops rest) {c : Char}
    (first : (exponentText exponent ++ rest).head? = some c) : c.isDigit = false ∧ c ≠ '.' := by
  cases exponent with
  | none => exact ⟨(stops c first).1, (stops c first).2.1⟩
  | some exponent =>
    cases first
    decide

theorem fraction?_append {fraction : Option (List Char)}
    (present : ∀ digits, fraction = some digits → AreDigits digits)
    (stops : ∀ c, rest.head? = some c → c.isDigit = false ∧ c ≠ '.') :
    fraction? (fractionText fraction ++ rest) = some (fraction, rest) := by
  cases fraction with
  | none =>
    rw [fractionText, List.nil_append, fraction?]
    rintro later rfl
    exact (stops '.' rfl).2 rfl
  | some digits =>
    have read := digits?_append (present digits rfl) fun c first => (stops c first).1
    simp [fractionText, fraction?, read]

theorem head_fractionText (fraction : Option (List Char))
    (stops : ∀ c, rest.head? = some c → c.isDigit = false ∧ c ≠ '.') {c : Char}
    (first : (fractionText fraction ++ rest).head? = some c) : c.isDigit = false := by
  cases fraction with
  | none => exact (stops c first).1
  | some digits =>
    cases first
    decide

/-- A number is read off its text. -/
theorem read?_text_append {numeral : Numeral} (formed : numeral.WellFormed) (stops : Stops rest) :
    read? (numeral.text ++ rest) = some (numeral, rest) := by
  have exponent := exponent?_append formed.exponent stops
  have behind := fun c => head_exponentText numeral.exponent stops (c := c)
  have fraction := fraction?_append formed.fraction behind
  have whole := whole?_append formed.whole formed.leading fun c =>
    head_fractionText numeral.fraction behind (c := c)
  obtain ⟨negative, digits, _, _⟩ := numeral
  cases negative with
  | true =>
    simp only [read?, text, ↓reduceIte, List.append_assoc, List.cons_append, List.nil_append, bind,
      whole, fraction, exponent, Option.bind_some, pure]
  | false =>
    obtain ⟨first, later, rfl⟩ := List.exists_cons_of_ne_nil formed.whole.1
    have unsigned : first ≠ '-' := by
      rintro rfl
      exact absurd (formed.whole.2 '-' List.mem_cons_self) (by decide)
    dsimp only at whole fraction exponent
    rw [List.cons_append] at whole
    rw [read?]
    · simp only [text, Bool.false_eq_true, ↓reduceIte, List.nil_append, List.append_assoc,
        List.cons_append, whole, fraction, exponent, bind, Option.bind_some, pure]
    · intro signed same
      exact unsigned (List.cons.inj same).1

end Texts

/-- A number starts with its sign or a digit. -/
theorem exists_text_eq_cons {numeral : Numeral} (formed : numeral.WellFormed) :
    ∃ c later, numeral.text = c :: later ∧ (c = '-' ∨ c.isDigit = true) := by
  obtain ⟨first, digits, whole⟩ := List.exists_cons_of_ne_nil formed.whole.1
  have digit := formed.whole.2 first (by rw [whole]; exact List.mem_cons_self)
  rw [text, whole]
  cases numeral.negative with
  | true => exact ⟨'-', _, rfl, .inl rfl⟩
  | false => exact ⟨first, _, rfl, .inr digit⟩

/-! ## What is written -/

theorem areDigits_toDigits (value : Nat) : AreDigits (Nat.toDigits 10 value) :=
  ⟨Nat.toDigits_ne_nil, fun _ => Nat.isDigit_of_mem_toDigits (by decide) (le_refl _)⟩

theorem digitChar_ne_zero : ∀ value < 10, 0 < value → Nat.digitChar value ≠ '0' := by
  decide

/-- No zero leads the digits of a positive number. -/
theorem head_toDigits_ne {value : Nat} (positive : 0 < value) :
    (Nat.toDigits 10 value).head? ≠ some '0' := by
  induction value using Nat.strongRecOn with
  | ind value ih =>
    rcases Nat.lt_or_ge value 10 with single | several
    · rw [Nat.toDigits_of_lt_base single]
      exact fun same => digitChar_ne_zero value single positive (Option.some.inj same)
    · rw [Nat.toDigits_of_base_le (by decide) several,
        List.head?_append_of_ne_nil _ Nat.toDigits_ne_nil]
      exact ih _ (by omega) (by omega)

def ofInt (value : Int) : Numeral :=
  ⟨value < 0, Nat.toDigits 10 value.natAbs, none, none⟩

theorem wellFormed_ofInt (value : Int) : (ofInt value).WellFormed where
  whole := areDigits_toDigits _
  leading several := by
    refine head_toDigits_ne (Nat.pos_of_ne_zero fun zero => ?_)
    simp only [ofInt, zero] at several
    exact absurd several (by decide)
  fraction := nofun
  exponent := nofun

theorem toList_toString (value : Int) : (toString value).toList = (ofInt value).text := by
  rw [Int.toString_eq_repr]
  cases value <;>
    simp [Int.repr, ofInt, text, fractionText, exponentText, Nat.repr_eq_ofList_toDigits]

/-- An integer that fits a word is the value of its numeral. -/
theorem value?_ofInt {value : Int} (low : minSigned ≤ value) (high : value ≤ maxUnsigned) :
    (ofInt value).value? = some (.integer value) := by
  have size : Binary64.digitsValue (ofInt value).whole = value.natAbs :=
    Binary64.digitsValue_toDigits _
  have signed : (if (ofInt value).negative then -Int.ofNat value.natAbs
      else Int.ofNat value.natAbs) = value := by
    simp only [ofInt, decide_eq_true_eq, Int.ofNat_eq_natCast]
    split <;> omega
  have proper : ((ofInt value).negative && Int.ofNat value.natAbs == 0) = false := by
    simp only [ofInt, Int.ofNat_eq_natCast, Bool.and_eq_false_iff, decide_eq_false_iff_not,
      beq_eq_false_iff_ne]
    omega
  simp only [value?, size, signed, proper]
  rw [if_pos]
  simp [ofInt, low, high]

theorem areDigits_zero : AreDigits ['0'] :=
  ⟨List.cons_ne_nil _ _, List.forall_mem_singleton.mpr rfl⟩

theorem isDigit_of_mem_zeros {count : Nat} {c : Char} (member : c ∈ List.replicate count '0') :
    c.isDigit = true := by
  rw [List.eq_of_mem_replicate member]
  decide

section Written

variable {digits : List Char}

theorem AreDigits.zeros_append (present : AreDigits digits) (count : Nat) :
    AreDigits (List.replicate count '0' ++ digits) :=
  ⟨List.append_ne_nil_of_right_ne_nil _ present.1, fun c member =>
    (List.mem_append.mp member).elim isDigit_of_mem_zeros (present.2 c)⟩

theorem AreDigits.append_zeros (present : AreDigits digits) (count : Nat) :
    AreDigits (digits ++ List.replicate count '0') :=
  ⟨List.append_ne_nil_of_left_ne_nil present.1 _, fun c member =>
    (List.mem_append.mp member).elim (present.2 c) isDigit_of_mem_zeros⟩

theorem AreDigits.take (present : AreDigits digits) {count : Nat} (some : 0 < count) :
    AreDigits (digits.take count) := by
  refine ⟨?_, fun c member => present.2 c (List.mem_of_mem_take member)⟩
  rw [ne_eq, List.take_eq_nil_iff, not_or]
  exact ⟨Nat.ne_of_gt some, present.1⟩

theorem AreDigits.drop (present : AreDigits digits) {count : Nat}
    (more : (digits.drop count).isEmpty = false) : AreDigits (digits.drop count) :=
  ⟨by simpa using more, fun c member => present.2 c (List.mem_of_mem_drop member)⟩

theorem wellFormed_ofDigits (negative : Bool) (point : Int)
    (chars : ∀ c ∈ digits, c.isDigit = true) (leading : digits.head? ≠ some '0') :
    (ofDigits negative digits point).WellFormed := by
  unfold ofDigits
  split_ifs with none small middle
  · exact ⟨areDigits_zero, fun several => absurd several (Nat.lt_irrefl 1),
      fun _ same => Option.some.inj same ▸ areDigits_zero, nofun⟩
  all_goals
    have present : AreDigits digits := ⟨by simpa using none, chars⟩
  · exact ⟨areDigits_zero, fun several => absurd several (Nat.lt_irrefl 1),
      fun _ same => Option.some.inj same ▸ present.zeros_append _, nofun⟩
  · simp only [Bool.and_eq_true, decide_eq_true_eq] at middle
    have places : 0 < point.toNat := by omega
    refine ⟨(present.take places).append_zeros _, fun _ => ?_, fun _ same => ?_, nofun⟩
    · rw [List.head?_append_of_ne_nil _ (present.take places).1, List.head?_take, if_neg (by omega)]
      exact leading
    · cases same
      split_ifs with last
      · exact areDigits_zero
      · exact present.drop (by simpa using last)
  · refine ⟨present.take Nat.one_pos, fun several => ?_, fun _ same => ?_, fun _ _ same => ?_⟩
    · rw [List.length_take] at several
      omega
    · dsimp only at same
      split_ifs at same with last
      cases same
      exact present.drop (by simpa using last)
    · cases same
      exact areDigits_toDigits _

end Written

theorem wellFormed_ofFinite (negative : Bool) (mantissa : Nat) (exponent : Int) :
    (ofFinite negative mantissa exponent).WellFormed := by
  have starts (digits : List Char) : (digits.reverse.dropWhile (· == '0')).reverse <+: digits :=
    List.rdropWhile_prefix _ _
  unfold ofFinite
  generalize (if mantissa = 0 then (0, 0) else evenDigits mantissa exponent) = written
  refine wellFormed_ofDigits negative _ (fun c member => ?_) fun leads => ?_
  · exact (areDigits_toDigits written.1).2 c ((starts _).subset member)
  · rcases Nat.eq_zero_or_pos written.1 with zero | positive
    · rw [zero] at leads
      exact absurd leads (by decide)
    · -- What is left behind dropping zeros at the end starts as all digits do.
      obtain ⟨tail, whole⟩ := starts (Nat.toDigits 10 written.1)
      apply head_toDigits_ne positive
      rw [← whole, List.head?_append, leads, Option.some_or]

end DiagramAssist.Json.Numeral
