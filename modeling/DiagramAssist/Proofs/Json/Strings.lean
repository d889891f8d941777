import DiagramAssist.Json.Lexical
import DiagramAssist.Json.Writer
import Mathlib.Tactic.Common

/-! # JSON strings are read back

What is written for a character is read as the character, be it as it is, with a short escape or
with the number of a control character. So a string in quotes is read as the string, whatever stands
behind it.
-/

namespace DiagramAssist.Json.Text

theorem codeUnit?_hexDigit {code : Nat} (control : code < 0x20) :
    codeUnit? '0' '0' (hexDigit (code / 16)) (hexDigit (code % 16)) = some code := by
  decide +revert

/-- A character that needs no escape is read as it is. -/
theorem stringRest_cons {c : Char} (quote : c ≠ '"') (escape : c ≠ '\\') (visible : ¬c.toNat < 0x20)
    (rest : List Char) : stringRest none (c :: rest) = push c (stringRest none rest) := by
  rw [stringRest.eq_8, if_neg visible]
  · exact fun _ _ _ _ _ same _ => escape same
  · exact quote
  · exact fun _ _ same _ => escape same

/-- The number of a control character is read as the character. -/
theorem stringRest_control {c : Char} (control : c.toNat < 0x20) (rest : List Char) :
    stringRest none ('\\' :: 'u' :: '0' :: '0' :: hexDigit (c.toNat / 16) ::
      hexDigit (c.toNat % 16) :: rest) = push c (stringRest none rest) := by
  have high : ¬0xD800 ≤ c.toNat := by omega
  have low : ¬0xDC00 ≤ c.toNat := by omega
  rw [stringRest.eq_3 _ _ _ _ _ _ (codeUnit?_hexDigit control), Char.ofNat_toNat]
  simp only [high, low, decide_false, Bool.false_and, Bool.false_eq_true, ↓reduceIte]

/-- A character is read from the short escape for it. -/
theorem stringRest_short {c short : Char} (other : short ≠ 'u')
    (means : shortEscape? short = some c) (rest : List Char) :
    stringRest none ('\\' :: short :: rest) = push c (stringRest none rest) := by
  rw [stringRest.eq_7 _ _ fun _ _ _ _ _ same _ => other same, means]

theorem stringRest_escape (c : Char) (rest : List Char) :
    stringRest none (escape c ++ rest) = push c (stringRest none rest) := by
  fun_cases escape c
  case case8 control => exact stringRest_control control rest
  case case9 quote escape _ _ _ _ _ visible => exact stringRest_cons quote escape visible rest
  all_goals exact stringRest_short (by decide) rfl rest

/-- A string is read up to its closing quote. -/
theorem stringRest_flatMap_escape (text rest : List Char) :
    stringRest none (text.flatMap escape ++ '"' :: rest) = some (text, rest) := by
  induction text with
  | nil => simp [stringRest]
  | cons c text ih =>
    rw [List.flatMap_cons, List.append_assoc, stringRest_escape, ih]
    rfl

end DiagramAssist.Json.Text
