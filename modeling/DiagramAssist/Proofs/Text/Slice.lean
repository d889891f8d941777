import DiagramAssist.Span

/-! # Slices of a text

Cutting a text at a byte offset gives the two pieces on either side of the offset, and a slice
between two offsets is a piece of the text together with what stands before and behind it. The line
feeds of a slice are counted by `feedsBetween?`.
-/

namespace DiagramAssist

namespace Text

theorem splitBytes?_eq_some_iff {text taken left : List Char} {count : Nat} :
    splitBytes? text count = some (taken, left) ↔
      text = taken ++ left ∧ byteLength taken = count := by
  fun_induction splitBytes? text count generalizing taken with
  | case1 text =>
    constructor
    · intro same
      cases same
      exact ⟨rfl, rfl⟩
    · rintro ⟨rfl, none⟩
      cases taken with
      | nil => rfl
      | cons c rest =>
        have size := c.utf8Size_pos
        rw [byteLength_cons] at none
        omega
  | case2 count =>
    constructor
    · exact nofun
    · rintro ⟨whole, size⟩
      obtain ⟨rfl, -⟩ := List.nil_eq_append_iff.mp whole
      cases size
  | case3 c rest count fits ih =>
    constructor
    · intro found
      obtain ⟨⟨later, behind⟩, cut, same⟩ := Option.map_eq_some_iff.mp found
      cases same
      obtain ⟨rfl, size⟩ := ih.mp cut
      refine ⟨rfl, ?_⟩
      rw [byteLength_cons, size]
      omega
    · rintro ⟨whole, size⟩
      cases taken with
      | nil => cases size
      | cons d later =>
        rw [List.cons_append, List.cons.injEq] at whole
        obtain ⟨rfl, rfl⟩ := whole
        rw [byteLength_cons] at size
        have cut := ih.mpr ⟨rfl, show byteLength later = count + 1 - c.utf8Size by omega⟩
        rw [cut, Option.map_some]
  | case4 c rest count wide =>
    constructor
    · exact nofun
    · rintro ⟨whole, size⟩
      cases taken with
      | nil => cases size
      | cons d later =>
        rw [List.cons_append, List.cons.injEq] at whole
        obtain ⟨rfl, rfl⟩ := whole
        rw [byteLength_cons] at size
        omega

theorem slice?_eq_some_iff {text own : List Char} {start stop : Nat} (ordered : start ≤ stop) :
    slice? text start stop = some own ↔
      ∃ before after, text = before ++ (own ++ after) ∧ byteLength before = start ∧
        start + byteLength own = stop := by
  simp only [slice?, bind, Option.bind_eq_some_iff, Prod.exists, splitBytes?_eq_some_iff, pure,
    Option.some.injEq]
  constructor
  · rintro ⟨before, tail, ⟨rfl, starts⟩, taken, after, ⟨rfl, size⟩, rfl⟩
    exact ⟨before, after, rfl, starts, by omega⟩
  · rintro ⟨before, after, rfl, starts, stops⟩
    exact ⟨before, own ++ after, ⟨rfl, starts⟩, own, after, ⟨rfl, by omega⟩, rfl⟩

/-- A piece of a text is the slice between the offsets at its ends. -/
theorem slice?_append (before own after : List Char) :
    slice? (before ++ (own ++ after)) (byteLength before) (byteLength before + byteLength own) =
      some own :=
  (slice?_eq_some_iff (Nat.le_add_right ..)).mpr ⟨before, after, rfl, rfl, rfl⟩

/-- The offset stands between two characters of the text, or at one of its ends. -/
def IsBoundary (text : List Char) (offset : Nat) : Prop :=
  ∃ before after, text = before ++ after ∧ byteLength before = offset

/-- Of two offsets between characters, the first one cuts off a part of what the second one does. -/
theorem IsBoundary.exists_between {text : List Char} {first second : Nat}
    (starts : IsBoundary text first) (stops : IsBoundary text second) (ordered : first < second) :
    ∃ before own after, text = before ++ (own ++ after) ∧ byteLength before = first ∧
      byteLength (before ++ own) = second := by
  obtain ⟨before, rest, whole, rfl⟩ := starts
  obtain ⟨longer, after, cut, rfl⟩ := stops
  rcases List.append_eq_append_iff.mp (whole.symm.trans cut) with
    ⟨own, rfl, rfl⟩ | ⟨own, rfl, rfl⟩
  · exact ⟨before, own, after, whole, rfl, rfl⟩
  · rw [byteLength_append] at ordered
    omega

/-- The number of line feeds between two offsets, when both stand between characters. -/
def feedsBetween? (text : List Char) (start stop : Nat) : Option Nat :=
  (slice? text start stop).map (List.count '\n')

theorem feedsBetween?_append (before own after : List Char) :
    feedsBetween? (before ++ (own ++ after)) (byteLength before)
      (byteLength before + byteLength own) = some (own.count '\n') := by
  rw [feedsBetween?, slice?_append, Option.map_some]

end Text

/-- A piece of a document is the slice of the span between its ends. -/
theorem Span.slice?_of_append {source : String} {span : Span} {before own after : List Char}
    (text : source.toList = before ++ (own ++ after))
    (place : span = .between (Text.byteLength before)
      (Text.byteLength before + Text.byteLength own)) :
    span.slice? source = some (String.ofList own) := by
  have ordered := Nat.le_add_right (Text.byteLength before) (Text.byteLength own)
  rw [place, slice?, Span.start_between_of_le ordered, Span.stop_between_of_le ordered, text,
    Text.slice?_append, Option.map_some]

end DiagramAssist
