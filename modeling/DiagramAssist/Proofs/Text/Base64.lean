import DiagramAssist.Text.Base64
import DiagramAssist.Text.Blank
import Mathlib.Tactic.Common

/-! # Base64 has one form for each byte sequence

Digits and the numbers below 64 correspond to each other, and so do four digits and three bytes. The
last four digits may stand for two bytes or one, and then the bits that are left over have to be
zero. So decoding gives back what was encoded, and what can be decoded is what encoding makes of the
result (`Base64.decode?_eq_some_iff`).
-/

namespace DiagramAssist.Text.Base64

/-! ## Digits -/

theorem value?_digit {number : Nat} (below : number < 64) :
    value? (digit number) = some number := by
  decide +revert

/-- The digits in a range of characters stand for numbers in order. -/
theorem ofNat_add_sub {c first : Char} (behind : first ≤ c) :
    Char.ofNat (first.toNat + (c.toNat - first.toNat)) = c := by
  have ordered : first.toNat ≤ c.toNat := behind
  rw [Nat.add_sub_cancel' ordered, Char.ofNat_toNat]

theorem digit_of_value? {c : Char} {number : Nat} (read : value? c = some number) :
    number < 64 ∧ digit number = c := by
  simp only [value?, Bool.and_eq_true, decide_eq_true_eq] at read
  split_ifs at read with upper lower figure plus slash <;> cases read
  · have last : c.toNat ≤ 'Z'.toNat := upper.2
    have small : c.toNat - 'A'.toNat < 26 := by simp at last ⊢; omega
    exact ⟨by omega, by rw [digit, if_pos small, ofNat_add_sub upper.1]⟩
  · have last : c.toNat ≤ 'z'.toNat := lower.2
    have small : c.toNat - 'a'.toNat < 26 := by simp at last ⊢; omega
    refine ⟨by omega, ?_⟩
    rw [digit, if_neg (by omega), if_pos (by omega), Nat.add_sub_cancel, ofNat_add_sub lower.1]
  · have last : c.toNat ≤ '9'.toNat := figure.2
    have small : c.toNat - '0'.toNat < 10 := by simp at last ⊢; omega
    refine ⟨by omega, ?_⟩
    rw [digit, if_neg (by omega), if_neg (by omega), if_pos (by omega), Nat.add_sub_cancel,
      ofNat_add_sub figure.1]
  · exact ⟨by decide, plus ▸ rfl⟩
  · exact ⟨by decide, slash ▸ rfl⟩

theorem value?_eq_some_iff {c : Char} {number : Nat} :
    value? c = some number ↔ number < 64 ∧ digit number = c := by
  constructor
  · exact digit_of_value?
  · rintro ⟨below, rfl⟩
    exact value?_digit below

theorem digit_ne_pad {number : Nat} (below : number < 64) : digit number ≠ '=' := by
  decide +revert

theorem isAsciiBlank_digit {number : Nat} (below : number < 64) :
    isAsciiBlank (digit number) = false := by
  decide +revert

/-! ## Groups of four digits -/

/-- Three bytes are taken apart into four numbers and put together again. -/
theorem bytes_of_split (x y z : UInt8) :
    bytes (x.toNat / 4) (x.toNat % 4 * 16 + y.toNat / 16) (y.toNat % 16 * 4 + z.toNat / 64)
      (z.toNat % 64) = [x, y, z] := by
  have := x.toNat_lt
  have := y.toNat_lt
  have := z.toNat_lt
  have first : x.toNat / 4 * 4 + (x.toNat % 4 * 16 + y.toNat / 16) / 16 = x.toNat := by omega
  have second : (x.toNat % 4 * 16 + y.toNat / 16) % 16 * 16 +
      (y.toNat % 16 * 4 + z.toNat / 64) / 4 = y.toNat := by omega
  have third : (y.toNat % 16 * 4 + z.toNat / 64) % 4 * 64 + z.toNat % 64 = z.toNat := by omega
  simp only [bytes, first, second, third, UInt8.ofNat_toNat]

section Groups

variable {a b c d : Nat}

/-- Four numbers are put together into three bytes and taken apart again. -/
theorem encode_bytes_append (first : a < 64) (second : b < 64) (third : c < 64) (fourth : d < 64)
    (rest : List UInt8) :
    encode (bytes a b c d ++ rest) = digit a :: digit b :: digit c :: digit d :: encode rest := by
  have x : (a * 4 + b / 16) % 256 = a * 4 + b / 16 := Nat.mod_eq_of_lt (by omega)
  have y : (b % 16 * 16 + c / 4) % 256 = b % 16 * 16 + c / 4 := Nat.mod_eq_of_lt (by omega)
  have z : (c % 4 * 64 + d) % 256 = c % 4 * 64 + d := Nat.mod_eq_of_lt (by omega)
  have one : (a * 4 + b / 16) / 4 = a := by omega
  have two : (a * 4 + b / 16) % 4 * 16 + (b % 16 * 16 + c / 4) / 16 = b := by omega
  have three : (b % 16 * 16 + c / 4) % 16 * 4 + (c % 4 * 64 + d) / 64 = c := by omega
  have four : (c % 4 * 64 + d) % 64 = d := by omega
  simp only [bytes, List.cons_append, List.nil_append, encode, UInt8.toNat_ofNat', Nat.reducePow,
    x, y, z, one, two, three, four]

/-- With bits left over that are zero, two numbers are one byte. -/
theorem encode_bytes_take_one (first : a < 64) (second : b < 64) (clear : b % 16 = 0) :
    encode ((bytes a b 0 0).take 1) = [digit a, digit b, '=', '='] := by
  have x : (a * 4 + b / 16) % 256 = a * 4 + b / 16 := Nat.mod_eq_of_lt (by omega)
  have one : (a * 4 + b / 16) / 4 = a := by omega
  have two : (a * 4 + b / 16) % 4 * 16 = b := by omega
  simp only [bytes, List.take_succ_cons, List.take_zero, encode, UInt8.toNat_ofNat', Nat.reducePow,
    x, one, two]

/-- With bits left over that are zero, three numbers are two bytes. -/
theorem encode_bytes_take_two (first : a < 64) (second : b < 64) (third : c < 64)
    (clear : c % 4 = 0) :
    encode ((bytes a b c 0).take 2) = [digit a, digit b, digit c, '='] := by
  have x : (a * 4 + b / 16) % 256 = a * 4 + b / 16 := Nat.mod_eq_of_lt (by omega)
  have y : (b % 16 * 16 + c / 4) % 256 = b % 16 * 16 + c / 4 := Nat.mod_eq_of_lt (by omega)
  have one : (a * 4 + b / 16) / 4 = a := by omega
  have two : (a * 4 + b / 16) % 4 * 16 + (b % 16 * 16 + c / 4) / 16 = b := by omega
  have three : (b % 16 * 16 + c / 4) % 16 * 4 = c := by omega
  simp only [bytes, List.take_succ_cons, List.take_zero, encode, UInt8.toNat_ofNat', Nat.reducePow,
    x, y, one, two, three]

end Groups

/-! ## Whole texts -/

/-- What has been encoded is decoded again. -/
theorem decode?_encode (content : List UInt8) : decode? (encode content) = some content := by
  fun_induction encode content with
  | case1 => rfl
  | case2 x =>
    have size := x.toNat_lt
    have joined : bytes (x.toNat / 4) (x.toNat % 4 * 16) 0 0 = [x, 0, 0] := bytes_of_split x 0 0
    have clear : x.toNat % 4 * 16 % 16 = 0 := by omega
    simp only [decode?, value?_digit (show x.toNat / 4 < 64 by omega),
      value?_digit (show x.toNat % 4 * 16 < 64 by omega), bind, Option.bind_some, pure, clear,
      joined, ↓reduceIte, List.take_succ_cons, List.take_zero]
  | case3 x y =>
    have size := x.toNat_lt
    have size' := y.toNat_lt
    have joined := bytes_of_split x y 0
    have below : y.toNat % 16 * 4 < 64 := by omega
    have clear : y.toNat % 16 * 4 % 4 = 0 := by omega
    rw [decode?.eq_3 _ _ _ (digit_ne_pad below)]
    simp only [value?_digit (show x.toNat / 4 < 64 by omega),
      value?_digit (show x.toNat % 4 * 16 + y.toNat / 16 < 64 by omega), value?_digit below, bind,
      Option.bind_some, pure, clear, ↓reduceIte]
    exact congrArg (some <| List.take 2 ·) joined
  | case4 x y z rest ih =>
    have size := x.toNat_lt
    have size' := y.toNat_lt
    have size'' := z.toNat_lt
    have below : z.toNat % 64 < 64 := by omega
    rw [decode?.eq_4]
    · simp only [value?_digit (show x.toNat / 4 < 64 by omega),
        value?_digit (show x.toNat % 4 * 16 + y.toNat / 16 < 64 by omega),
        value?_digit (show y.toNat % 16 * 4 + z.toNat / 64 < 64 by omega), value?_digit below, ih,
        bind, Option.bind_some, pure, bytes_of_split, List.cons_append, List.nil_append]
    · exact fun _ pad _ => digit_ne_pad below pad
    · exact fun pad _ => digit_ne_pad below pad

/-- What can be decoded is the encoding of the result. -/
theorem eq_encode_of_decode? {text : List Char} {content : List UInt8}
    (read : decode? text = some content) : text = encode content := by
  fun_induction decode? text generalizing content with
  | case1 =>
    cases read
    rfl
  | case2 a b =>
    simp only [bind, Option.bind_eq_some_iff, value?_eq_some_iff] at read
    obtain ⟨first, ⟨below, rfl⟩, second, ⟨below', rfl⟩, read⟩ := read
    split_ifs at read with clear
    cases read
    exact (encode_bytes_take_one below below' clear).symm
  | case3 a b c other =>
    simp only [bind, Option.bind_eq_some_iff, value?_eq_some_iff] at read
    obtain ⟨first, ⟨below, rfl⟩, second, ⟨below', rfl⟩, third, ⟨below'', rfl⟩, read⟩ := read
    split_ifs at read with clear
    cases read
    exact (encode_bytes_take_two below below' below'' clear).symm
  | case4 a b c d rest two one ih =>
    simp only [bind, Option.bind_eq_some_iff, value?_eq_some_iff] at read
    obtain ⟨first, ⟨below, rfl⟩, second, ⟨below', rfl⟩, third, ⟨below'', rfl⟩, fourth,
      ⟨last, rfl⟩, later, decoded, read⟩ := read
    cases read
    rw [encode_bytes_append below below' below'' last, ih decoded]
  | case5 => cases read

theorem decode?_eq_some_iff {text : List Char} {content : List UInt8} :
    decode? text = some content ↔ text = encode content := by
  constructor
  · exact eq_encode_of_decode?
  · rintro rfl
    exact decode?_encode content

/-- The form has no blanks of its own. -/
theorem isAsciiBlank_of_mem_encode {content : List UInt8} {c : Char} (mem : c ∈ encode content) :
    isAsciiBlank c = false := by
  have pad : isAsciiBlank '=' = false := by decide
  fun_induction encode content with
  | case1 => cases mem
  | case2 x =>
    have size := x.toNat_lt
    simp only [List.mem_cons, List.not_mem_nil, or_false] at mem
    obtain rfl | rfl | rfl | rfl := mem
    · exact isAsciiBlank_digit (by omega)
    · exact isAsciiBlank_digit (by omega)
    all_goals exact pad
  | case3 x y =>
    have size := x.toNat_lt
    have size' := y.toNat_lt
    simp only [List.mem_cons, List.not_mem_nil, or_false] at mem
    obtain rfl | rfl | rfl | rfl := mem
    · exact isAsciiBlank_digit (by omega)
    · exact isAsciiBlank_digit (by omega)
    · exact isAsciiBlank_digit (by omega)
    · exact pad
  | case4 x y z rest ih =>
    have size := x.toNat_lt
    have size' := y.toNat_lt
    have size'' := z.toNat_lt
    simp only [List.mem_cons] at mem
    obtain rfl | rfl | rfl | rfl | later := mem
    · exact isAsciiBlank_digit (by omega)
    · exact isAsciiBlank_digit (by omega)
    · exact isAsciiBlank_digit (by omega)
    · exact isAsciiBlank_digit (by omega)
    · exact ih later

end DiagramAssist.Text.Base64
