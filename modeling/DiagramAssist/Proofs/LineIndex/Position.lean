import DiagramAssist.Proofs.LineIndex.Rows

/-! # Positions count line feeds and code units

The position of an offset between two characters is what counting gives: the line feeds before the
offset, and the UTF-16 code units behind the last of them. So a later offset has a later position,
and a span that is not empty becomes a range that is not empty either. Neither number of a position
exceeds the bytes of the text.
-/

namespace DiagramAssist

open Text

theorem Position.compare_eq_lt_iff {left right : Position} : left.compare right = .lt ↔
    left.line < right.line ∨ left.line = right.line ∧ left.character < right.character := by
  simp only [compare, Ordering.then_eq_lt, Nat.compare_eq_lt, Nat.compare_eq_eq]

namespace Text

theorem unitSize_pos (c : Char) : 0 < unitSize c := by
  rw [unitSize]
  split <;> decide

/-- A character of two code units takes four bytes. -/
theorem unitSize_le (c : Char) : unitSize c ≤ c.utf8Size := by
  rw [unitSize]
  split
  · exact c.utf8Size_pos
  · next wide =>
    have above (limit : UInt32) (low : limit.toNat < 0x10000) : ¬c.val ≤ limit := fun below =>
      wide (Nat.lt_of_le_of_lt (UInt32.le_iff_toNat_le.mp below) low)
    rw [Char.utf8Size, if_neg (above _ (by decide)), if_neg (above _ (by decide)),
      if_neg (above _ (by decide))]
    decide

theorem unitLength_le (text : List Char) : unitLength text ≤ byteLength text := by
  induction text with
  | nil => exact Nat.le_refl 0
  | cons c rest ih => exact Nat.add_le_add (unitSize_le c) ih

theorem unitLength_pos {text : List Char} (present : text ≠ []) : 0 < unitLength text := by
  obtain ⟨c, rest, rfl⟩ := List.exists_cons_of_ne_nil present
  exact Nat.add_pos_left (unitSize_pos c) _

theorem count_le_byteLength (c : Char) (text : List Char) : text.count c ≤ byteLength text := by
  induction text with
  | nil => exact Nat.le_refl 0
  | cons d rest ih =>
    have present := d.utf8Size_pos
    rw [List.count_cons, byteLength_cons]
    split <;> omega

end Text

namespace LineIndex

/-- The position of an offset in a row, up to the end of the row. -/
theorem position_of_row {source : String} {number start : Nat} {own rest : List Char}
    (found : (ofText source).rows[number]? = some (start, own ++ rest)) :
    (ofText source).position (start + byteLength own) = ⟨number, unitLength own⟩ := by
  obtain ⟨before, behind, whole, -, -, place, -⟩ := exists_row_eq found
  have inside : min (start + byteLength own) (byteLength (ofText source).text) =
      start + byteLength own := by
    have text : (ofText source).text = source.toList := rfl
    rw [text, whole, byteLength_append, byteLength_append, byteLength_append]
    omega
  have ordered := pairwise_rows_ofText source
  obtain ⟨first, later, rows⟩ : ∃ first later, (ofText source).rows = first :: later :=
    ⟨_, _, rfl⟩
  rw [rows] at found ordered
  have searched : rowAt (start + byteLength own) 0 first later =
      (0 + number, start, own ++ rest) := by
    refine rowAt_eq ordered found (Nat.le_add_right ..) ?_
    rw [byteLength_append]
    omega
  have cut : splitBytes? (own ++ rest) (start + byteLength own - start) = some (own, rest) :=
    splitBytes?_eq_some_iff.mpr ⟨rfl, by omega⟩
  rw [position, inside]
  simp only [rows, searched, cut, Nat.zero_add]

/-- The position of a cut: the line feeds before it, and the code units behind the last of them. -/
theorem position_ofText {source : String} {before after : List Char}
    (whole : source.toList = before ++ after) :
    (ofText source).position (byteLength before) =
      ⟨before.count '\n', unitLength (lastRow before)⟩ := by
  have place := position_of_row (getElem?_rows_ofText whole)
  rwa [← byteLength_append, wholeRows_append_lastRow] at place

/-- An offset past the end is taken for the end. -/
theorem position_of_le {source : String} {offset : Nat}
    (past : byteLength source.toList ≤ offset) :
    (ofText source).position offset = (ofText source).position (byteLength source.toList) := by
  have text : (ofText source).text = source.toList := rfl
  rw [position, position, text, Nat.min_eq_right past, Nat.min_self]

/-- A later cut has a later position. -/
theorem compare_position {source : String} {before own after : List Char}
    (whole : source.toList = before ++ (own ++ after)) (present : own ≠ []) :
    ((ofText source).position (byteLength before)).compare
      ((ofText source).position (byteLength (before ++ own))) = .lt := by
  rw [position_ofText whole, position_ofText (whole.trans (List.append_assoc ..).symm),
    Position.compare_eq_lt_iff, List.count_append]
  by_cases feed : '\n' ∈ own
  · have counted := List.count_pos_iff.mpr feed
    exact .inl (Nat.lt_add_of_pos_right counted)
  · refine .inr ⟨?_, ?_⟩
    · rw [List.count_eq_zero.mpr feed, Nat.add_zero]
    · rw [lastRow_append feed, unitLength_append]
      exact Nat.lt_add_of_pos_right (unitLength_pos present)

theorem compare_position_of_lt {source : String} {first second : Nat}
    (starts : IsBoundary source.toList first) (stops : IsBoundary source.toList second)
    (ordered : first < second) :
    ((ofText source).position first).compare ((ofText source).position second) = .lt := by
  obtain ⟨before, own, after, whole, rfl, rfl⟩ := starts.exists_between stops ordered
  refine compare_position whole ?_
  rintro rfl
  rw [List.append_nil] at ordered
  exact Nat.lt_irrefl _ ordered

/-- At an offset between two characters, the position says how many line feeds stand before the
offset and how many code units stand behind the last of them, and neither exceeds the bytes of the
text. An offset past the end has the position of the end. Of two offsets between characters the
later one has the later position, so the positions of a span that is not empty are in order and
differ. -/
theorem position_counts (source : String) :
    (∀ before after, source.toList = before ++ after →
      (ofText source).position (byteLength before) =
          ⟨before.count '\n', unitLength (lastRow before)⟩ ∧
        before.count '\n' ≤ byteLength source.toList ∧
        unitLength (lastRow before) ≤ byteLength source.toList) ∧
    (∀ offset, byteLength source.toList ≤ offset →
      (ofText source).position offset =
        (ofText source).position (byteLength source.toList)) ∧
    (∀ first second, IsBoundary source.toList first → IsBoundary source.toList second →
      first < second →
        ((ofText source).position first).compare ((ofText source).position second) = .lt) ∧
    ∀ span : Span, IsBoundary source.toList span.start → IsBoundary source.toList span.stop →
      span.isEmpty = false →
        ((ofText source).spanPositions span).1.compare ((ofText source).spanPositions span).2 =
          .lt := by
  refine ⟨?_, fun _ past => position_of_le past,
    fun _ _ starts stops ordered => compare_position_of_lt starts stops ordered, ?_⟩
  · intro before after whole
    have feeds := count_le_byteLength '\n' before
    have units := unitLength_le (lastRow before)
    have size : byteLength (wholeRows before) + byteLength (lastRow before) =
        byteLength before := by
      rw [← byteLength_append, wholeRows_append_lastRow]
    have total : byteLength source.toList = byteLength before + byteLength after := by
      rw [whole, byteLength_append]
    exact ⟨position_ofText whole, by omega, by omega⟩
  · intro span starts stops present
    have ordered := span.ordered
    simp only [Span.isEmpty, Span.size, beq_eq_false_iff_ne] at present
    dsimp only [spanPositions]
    exact compare_position_of_lt starts stops (by omega)

/-- A character of two code units stands on the second line, behind one of two bytes on the
first. -/
theorem position_counts_astral :
    (ofText "é\n😀x").position 7 = ⟨1, 2⟩ ∧
      (ofText "é\n😀x").position 100 = (ofText "é\n😀x").position 8 ∧
      IsBoundary "é\n😀x".toList 3 ∧ IsBoundary "é\n😀x".toList 7 ∧
      ((ofText "é\n😀x").position 3).compare ((ofText "é\n😀x").position 7) = .lt := by
  obtain ⟨counts, past, forward, -⟩ := position_counts "é\n😀x"
  have starts : IsBoundary "é\n😀x".toList 3 := ⟨['é', '\n'], ['😀', 'x'], rfl, rfl⟩
  have stops : IsBoundary "é\n😀x".toList 7 := ⟨['é', '\n', '😀'], ['x'], rfl, rfl⟩
  have place := (counts ['é', '\n', '😀'] ['x'] rfl).1
  exact ⟨place, past 100 (by decide), starts, stops, forward 3 7 starts stops (by decide)⟩

end LineIndex

end DiagramAssist
