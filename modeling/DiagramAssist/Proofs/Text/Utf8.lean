import DiagramAssist.Text.Utf8
import Mathlib.Tactic.Common

/-! # UTF-8 has one form for each text

One to four bytes make up a `Sequence`, which stands for a code point. Sequences are what the bytes
of characters are, and they are what decoding reads. So decoding gives back the text that was
encoded, and bytes that can be decoded are those of the result (`decodeUtf8_eq_ok_iff`).
-/

namespace DiagramAssist.Text

/-! ## Bytes of sequences -/

theorem startsSequence_iff {byte : UInt8} :
    startsSequence byte = true ↔ 0xC2 ≤ byte.toNat ∧ byte.toNat ≤ 0xF4 := by
  simp [startsSequence, UInt8.le_iff_toNat_le]

theorem isContinuation_iff {byte : UInt8} :
    isContinuation byte = true ↔ 0x80 ≤ byte.toNat ∧ byte.toNat ≤ 0xBF := by
  simp [isContinuation, UInt8.le_iff_toNat_le]

/-- A second byte continues the sequence, and after some first bytes only a part of the continuing
bytes does. -/
theorem isSecond_iff {first second : UInt8} :
    isSecond first second = true ↔ 0x80 ≤ second.toNat ∧ second.toNat ≤ 0xBF ∧
      (first.toNat = 0xE0 → 0xA0 ≤ second.toNat) ∧ (first.toNat = 0xED → second.toNat ≤ 0x9F) ∧
      (first.toNat = 0xF0 → 0x90 ≤ second.toNat) ∧ (first.toNat = 0xF4 → second.toNat ≤ 0x8F) := by
  simp only [isSecond, isContinuation, ← UInt8.toNat_inj, UInt8.le_iff_toNat_le]
  split_ifs <;> simp_all <;> omega

/-- The bytes of a code point. -/
inductive Sequence : List UInt8 → Nat → Prop where
  | one {a : UInt8} (small : a.toNat < 0x80) : Sequence [a] a.toNat
  | two {a b : UInt8} (starts : startsSequence a = true) (second : isSecond a b = true)
    (short : a.toNat < 0xE0) : Sequence [a, b] (a.toNat % 32 * 64 + low6 b)
  | three {a b c : UInt8} (second : isSecond a b = true) (third : isContinuation c = true)
    (long : 0xE0 ≤ a.toNat) (short : a.toNat < 0xF0) :
    Sequence [a, b, c] ((a.toNat % 16 * 64 + low6 b) * 64 + low6 c)
  | four {a b c d : UInt8} (starts : startsSequence a = true) (second : isSecond a b = true)
    (third : isContinuation c = true) (fourth : isContinuation d = true) (long : 0xF0 ≤ a.toNat) :
    Sequence [a, b, c, d] (((a.toNat % 8 * 64 + low6 b) * 64 + low6 c) * 64 + low6 d)

theorem toNat_ofNat {code : Nat} (valid : code.isValidChar) : (Char.ofNat code).toNat = code := by
  rw [Char.ofNat, dif_pos valid]
  rfl

section Sequences

variable {bytes : List UInt8} {code : Nat}

/-- A sequence stands for a code point that is no surrogate. -/
theorem Sequence.isValidChar (sequence : Sequence bytes code) : code.isValidChar := by
  unfold Nat.isValidChar
  cases sequence with
  | one small => omega
  | two starts second short =>
    rw [startsSequence_iff] at starts
    rw [isSecond_iff] at second
    unfold low6
    omega
  | three second third long short =>
    rw [isSecond_iff] at second
    rw [isContinuation_iff] at third
    unfold low6
    omega
  | four starts second third fourth long =>
    rw [startsSequence_iff] at starts
    rw [isSecond_iff] at second
    rw [isContinuation_iff] at third fourth
    unfold low6
    omega

/-- A sequence is the bytes of its character. -/
theorem Sequence.utf8EncodeChar_eq (sequence : Sequence bytes code) :
    String.utf8EncodeChar (Char.ofNat code) = bytes := by
  have number : (Char.ofNat code).val.toNat = code := toNat_ofNat sequence.isValidChar
  have byte (a : UInt8) {value : Nat} (same : value = a.toNat) : UInt8.ofNat value = a := by
    rw [same, UInt8.ofNat_toNat]
  rw [String.utf8EncodeChar, number]
  clear number
  cases sequence with
  | @one a small => rw [if_pos (by omega), byte a rfl]
  | @two a b starts second short =>
    rw [startsSequence_iff] at starts
    rw [isSecond_iff] at second
    unfold low6
    rw [if_neg (by omega), if_pos (by omega), byte a (by omega), byte b (by omega)]
  | @three a b c second third long short =>
    rw [isSecond_iff] at second
    rw [isContinuation_iff] at third
    unfold low6
    rw [if_neg (by omega), if_neg (by omega), if_pos (by omega), byte a (by omega),
      byte b (by omega), byte c (by omega)]
  | @four a b c d starts second third fourth long =>
    rw [startsSequence_iff] at starts
    rw [isSecond_iff] at second
    rw [isContinuation_iff] at third fourth
    unfold low6
    rw [if_neg (by omega), if_neg (by omega), if_neg (by omega), byte a (by omega),
      byte b (by omega), byte c (by omega), byte d (by omega)]

/-- A sequence is read as its character. -/
theorem Sequence.decodeFrom_append (sequence : Sequence bytes code) (index : Nat)
    (rest : List UInt8) :
    decodeFrom index (bytes ++ rest) =
      consOk (Char.ofNat code) (decodeFrom (index + bytes.length) rest) := by
  rw [decodeFrom.eq_def]
  cases sequence with
  | @one a small =>
    have single : a < 0x80 := UInt8.lt_iff_toNat_lt.mpr small
    simp [single]
  | @two a b starts second short =>
    have := startsSequence_iff.mp starts
    have single : ¬a < 0x80 := by rw [UInt8.lt_iff_toNat_lt]; change ¬_ < 128; omega
    have double : a < 0xE0 := UInt8.lt_iff_toNat_lt.mpr short
    simp [single, starts, second, double]
  | @three a b c second third long short =>
    have starts : startsSequence a = true := startsSequence_iff.mpr ⟨by omega, by omega⟩
    have single : ¬a < 0x80 := by rw [UInt8.lt_iff_toNat_lt]; change ¬_ < 128; omega
    have double : ¬a < 0xE0 := by rw [UInt8.lt_iff_toNat_lt]; change ¬_ < 224; omega
    have triple : a < 0xF0 := UInt8.lt_iff_toNat_lt.mpr short
    simp [single, starts, second, double, third, triple]
  | @four a b c d starts second third fourth long =>
    have single : ¬a < 0x80 := by rw [UInt8.lt_iff_toNat_lt]; change ¬_ < 128; omega
    have double : ¬a < 0xE0 := by rw [UInt8.lt_iff_toNat_lt]; change ¬_ < 224; omega
    have triple : ¬a < 0xF0 := by rw [UInt8.lt_iff_toNat_lt]; change ¬_ < 240; omega
    simp [single, starts, second, double, third, triple, fourth]

end Sequences

/-- The bytes of a character are a sequence. -/
theorem sequence_utf8EncodeChar (c : Char) : Sequence (String.utf8EncodeChar c) c.toNat := by
  have valid : c.toNat.isValidChar := c.valid
  have byte (value : Nat) (small : value < 256) :
      ∃ a : UInt8, a.toNat = value ∧ UInt8.ofNat value = a :=
    ⟨_, UInt8.toNat_ofNat_of_lt' small, rfl⟩
  unfold Nat.isValidChar at valid
  rw [String.utf8EncodeChar, Char.toNat_val]
  generalize c.toNat = code at valid
  split_ifs with one two three
  · obtain ⟨a, first, eq⟩ := byte code (by omega)
    rw [eq, ← first]
    exact .one (by omega)
  · obtain ⟨a, first, eqA⟩ := byte (code / 64 % 32 + 192) (by omega)
    obtain ⟨b, second, eqB⟩ := byte (code % 64 + 128) (by omega)
    have payload : code = a.toNat % 32 * 64 + low6 b := by unfold low6; omega
    rw [eqA, eqB, payload]
    exact .two (startsSequence_iff.mpr (by omega)) (isSecond_iff.mpr (by omega)) (by omega)
  · obtain ⟨a, first, eqA⟩ := byte (code / 4096 % 16 + 224) (by omega)
    obtain ⟨b, second, eqB⟩ := byte (code / 64 % 64 + 128) (by omega)
    obtain ⟨d, third, eqD⟩ := byte (code % 64 + 128) (by omega)
    have payload : code = (a.toNat % 16 * 64 + low6 b) * 64 + low6 d := by unfold low6; omega
    rw [eqA, eqB, eqD, payload]
    exact .three (isSecond_iff.mpr (by omega)) (isContinuation_iff.mpr (by omega)) (by omega)
      (by omega)
  · obtain ⟨a, first, eqA⟩ := byte (code / 262144 % 8 + 240) (by omega)
    obtain ⟨b, second, eqB⟩ := byte (code / 4096 % 64 + 128) (by omega)
    obtain ⟨d, third, eqD⟩ := byte (code / 64 % 64 + 128) (by omega)
    obtain ⟨e, fourth, eqE⟩ := byte (code % 64 + 128) (by omega)
    have payload : code = ((a.toNat % 8 * 64 + low6 b) * 64 + low6 d) * 64 + low6 e := by
      unfold low6
      omega
    rw [eqA, eqB, eqD, eqE, payload]
    exact .four (startsSequence_iff.mpr (by omega)) (isSecond_iff.mpr (by omega))
      (isContinuation_iff.mpr (by omega)) (isContinuation_iff.mpr (by omega)) (by omega)

/-! ## Whole texts -/

theorem consOk_eq_ok_iff {c : Char} {result : Except Utf8Fault (List Char)} {text : List Char} :
    consOk c result = .ok text ↔ ∃ rest, result = .ok rest ∧ text = c :: rest := by
  cases result with
  | ok rest => simp [consOk, eq_comm]
  | error fault => simp [consOk]

/-- The bytes of a text are read as the text. -/
theorem decodeFrom_flatMap (text : List Char) (index : Nat) :
    decodeFrom index (text.flatMap String.utf8EncodeChar) = .ok text := by
  induction text generalizing index with
  | nil => rw [List.flatMap_nil, decodeFrom.eq_def]
  | cons c text ih =>
    rw [List.flatMap_cons, (sequence_utf8EncodeChar c).decodeFrom_append, ih, Char.ofNat_toNat]
    rfl

/-- What is read is the bytes of the result. -/
theorem eq_flatMap_of_decodeFrom {index : Nat} {bytes : List UInt8} {text : List Char}
    (decoded : decodeFrom index bytes = .ok text) :
    bytes = text.flatMap String.utf8EncodeChar := by
  -- A successful step reads one sequence, and the rest comes from the induction.
  have step {start rest : List UInt8} {code index : Nat} {text : List Char}
      (sequence : Sequence start code)
      (ih : ∀ {text}, decodeFrom index rest = .ok text →
        rest = text.flatMap String.utf8EncodeChar)
      (decoded : consOk (Char.ofNat code) (decodeFrom index rest) = .ok text) :
      start ++ rest = text.flatMap String.utf8EncodeChar := by
    obtain ⟨text, read, rfl⟩ := consOk_eq_ok_iff.mp decoded
    rw [List.flatMap_cons, sequence.utf8EncodeChar_eq, ← ih read]
  have below {a b : UInt8} (less : a < b) : a.toNat < b.toNat := UInt8.lt_iff_toNat_lt.mp less
  have above {a b : UInt8} (more : ¬a < b) : b.toNat ≤ a.toNat :=
    UInt8.le_iff_toNat_le.mp (UInt8.not_lt.mp more)
  fun_induction decodeFrom index bytes generalizing text
  case case1 => cases decoded; rfl
  case case2 small ih => exact step (.one (below small)) ih decoded
  case case6 starts _ _ second short ih =>
    simp only [Bool.not_eq_true', Bool.not_eq_false] at starts second
    exact step (.two starts second (below short)) ih decoded
  case case9 second long _ _ third short ih =>
    simp only [Bool.not_eq_true', Bool.not_eq_false] at second third
    exact step (.three second third (above long) (below short)) ih decoded
  case case12 starts _ second _ _ third long _ _ fourth ih =>
    simp only [Bool.not_eq_true', Bool.not_eq_false] at starts second third fourth
    exact step (.four starts second third fourth (above long)) ih decoded
  all_goals cases decoded

/-- Bytes decode to a text exactly when they are its encoding. -/
theorem decodeUtf8_eq_ok_iff {bytes : List UInt8} {text : String} :
    decodeUtf8 bytes = .ok text ↔ bytes = encodeUtf8 text := by
  constructor
  · intro decoded
    unfold decodeUtf8 at decoded
    split at decoded
    next read =>
      cases decoded
      rw [encodeUtf8, String.toList_ofList]
      exact eq_flatMap_of_decodeFrom read
    next => cases decoded
  · rintro rfl
    rw [decodeUtf8, encodeUtf8, decodeFrom_flatMap]
    simp

end DiagramAssist.Text
