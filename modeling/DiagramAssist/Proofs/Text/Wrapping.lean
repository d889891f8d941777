import DiagramAssist.Payload
import DiagramAssist.Proofs.Text.Base64
import DiagramAssist.Proofs.Text.Utf8

/-! # Text that is fetched in base64

A source may break the base64 form of a text into lines, or put other ASCII blanks into it, also
between the signs of its padding. Decoding gives the text of every such content, and of no other
(`Payload.decode_base64_eq_ok_iff`).
-/

namespace DiagramAssist

open Text

/-- A text laid out with ASCII blanks, which stand anywhere in it. -/
inductive Wrapped : List Char → List Char → Prop where
  | nil : Wrapped [] []
  | blank {c : Char} {text layout : List Char} (blank : isAsciiBlank c = true)
    (rest : Wrapped text layout) : Wrapped text (c :: layout)
  | char {c : Char} {text layout : List Char} (rest : Wrapped text layout) :
    Wrapped (c :: text) (c :: layout)

section Layouts

variable {text layout : List Char}

/-- What is left without its blanks has been laid out with them. -/
theorem wrapped_filter (layout : List Char) :
    Wrapped (layout.filter fun c => !isAsciiBlank c) layout := by
  induction layout with
  | nil => exact .nil
  | cons c layout ih =>
    cases blank : isAsciiBlank c with
    | true =>
      rw [List.filter_cons_of_neg (by simp [blank])]
      exact .blank blank ih
    | false =>
      rw [List.filter_cons_of_pos (by simp [blank])]
      exact .char ih

theorem Wrapped.filter_eq (wrapped : Wrapped text layout)
    (solid : ∀ c ∈ text, isAsciiBlank c = false) :
    (layout.filter fun c => !isAsciiBlank c) = text := by
  induction wrapped with
  | nil => rfl
  | blank blank rest ih => rw [List.filter_cons_of_neg (by simp [blank]), ih solid]
  | @char c text layout rest ih =>
    have other := solid c List.mem_cons_self
    rw [List.filter_cons_of_pos (by simp [other]),
      ih fun c mem => solid c (List.mem_cons_of_mem _ mem)]

/-- For a text without blanks, to be laid out is to be what is left when they are dropped. -/
theorem filter_eq_iff_wrapped (solid : ∀ c ∈ text, isAsciiBlank c = false) :
    (layout.filter fun c => !isAsciiBlank c) = text ↔ Wrapped text layout := by
  constructor
  · rintro rfl
    exact wrapped_filter layout
  · exact fun wrapped => wrapped.filter_eq solid

end Layouts

namespace Payload

/-- The canonical base64 form of a text: that of its UTF-8 bytes. -/
def canonical (text : String) : List Char :=
  Base64.encode (encodeUtf8 text)

/-- Base64 content is decoded in two steps. -/
theorem decode_base64_eq_ok_iff_exists {content url text : String} :
    decode ⟨content, .base64⟩ url = .ok text ↔
      ∃ bytes, Base64.decode? (content.toList.filter fun c => !isAsciiBlank c) = some bytes ∧
        decodeUtf8 bytes = .ok text := by
  simp only [decode]
  cases Base64.decode? (content.toList.filter fun c => !isAsciiBlank c) with
  | none => simp
  | some bytes => cases read : decodeUtf8 bytes <;> simp [read]

/-- Base64 content has a text exactly when it is the canonical form of the text laid out with ASCII
blanks, and what is left of it without them is then the form. -/
theorem decode_base64_eq_ok_iff (content url text : String) :
    (decode ⟨content, .base64⟩ url = .ok text ↔ Wrapped (canonical text) content.toList) ∧
      (decode ⟨content, .base64⟩ url = .ok text ↔
        (content.toList.filter fun c => !isAsciiBlank c) = canonical text) := by
  have stripped : decode ⟨content, .base64⟩ url = .ok text ↔
      (content.toList.filter fun c => !isAsciiBlank c) = canonical text := by
    simp only [decode_base64_eq_ok_iff_exists, Base64.decode?_eq_some_iff, decodeUtf8_eq_ok_iff,
      exists_eq_right, canonical]
  exact ⟨stripped.trans (filter_eq_iff_wrapped fun _ => Base64.isAsciiBlank_of_mem_encode),
    stripped⟩

/-- Blanks may part the signs of the padding, and padding that is missing is not made up for. -/
example :
    decode ⟨"ISRh\nID0gMQ=\t=", .base64⟩ "a" = .ok "!$a = 1" ∧
      decode ⟨"ISRhID0gMQ=", .base64⟩ "a" = .error (.decode "a" "invalid base64") := by
  decide +kernel

end Payload

end DiagramAssist
