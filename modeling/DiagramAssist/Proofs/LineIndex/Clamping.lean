import DiagramAssist.Proofs.LineIndex.Position
import Mathlib.Order.Bounds.Basic

/-! # Offsets of positions

A position is turned into the offset of the first character of its line that starts at or behind its
column, or of the end of the line. Turning an offset into a position and back is therefore the
identity, but for an offset behind the carriage return of a line's ending, which goes back to the
end of the line; and turning a position into an offset and back moves its column to the next place
between two characters, if there is one on the line.
-/

namespace DiagramAssist

open Text

namespace Text

/-- Some beginning of the line has this many code units. -/
def IsColumn (line : List Char) (column : Nat) : Prop :=
  ∃ own rest, line = own ++ rest ∧ unitLength own = column

theorem IsColumn.cons {line : List Char} {column : Nat} (isColumn : IsColumn line column)
    (c : Char) : IsColumn (c :: line) (unitSize c + column) := by
  obtain ⟨own, rest, rfl, rfl⟩ := isColumn
  exact ⟨c :: own, rest, rfl, rfl⟩

/-- A column of a line is the first one, or behind the first character. -/
theorem IsColumn.eq_zero_or {line : List Char} {c : Char} {column : Nat}
    (isColumn : IsColumn (c :: line) column) :
    column = 0 ∨ ∃ later, IsColumn line later ∧ column = unitSize c + later := by
  obtain ⟨own, rest, whole, rfl⟩ := isColumn
  cases own with
  | nil => exact .inl rfl
  | cons d own =>
    rw [List.cons_append, List.cons.injEq] at whole
    obtain ⟨rfl, rfl⟩ := whole
    exact .inr ⟨unitLength own, ⟨own, rest, rfl, rfl⟩, rfl⟩

theorem dropFinalReturn_concat (text : List Char) : dropFinalReturn (text ++ ['\r']) = text := by
  rw [dropFinalReturn, List.getLast?_concat, if_pos rfl, List.dropLast_concat]

theorem dropFinalReturn_of_ne {text : List Char} (other : text.getLast? ≠ some '\r') :
    dropFinalReturn text = text :=
  if_neg other

/-- Dropping a final carriage return leaves alone what stands before the rest of a line. -/
theorem dropFinalReturn_append {rest : List Char} (text : List Char) (present : rest ≠ []) :
    dropFinalReturn (text ++ rest) = text ++ dropFinalReturn rest := by
  obtain ⟨front, last, rfl⟩ := (List.eq_nil_or_concat rest).resolve_left present
  rw [List.concat_eq_append, ← List.append_assoc]
  by_cases returned : last = '\r'
  · subst returned
    rw [dropFinalReturn_concat, dropFinalReturn_concat]
  · have kept (front : List Char) : (front ++ [last]).getLast? ≠ some '\r' := by
      rw [List.getLast?_concat]
      exact fun same => returned (Option.some.inj same)
    rw [dropFinalReturn_of_ne (kept _), dropFinalReturn_of_ne (kept _), List.append_assoc]

theorem exists_eq_dropFinalReturn_append (text : List Char) :
    ∃ tail, text = dropFinalReturn text ++ tail := by
  by_cases returned : text.getLast? = some '\r'
  · obtain ⟨front, rfl⟩ := List.getLast?_eq_some_iff.mp returned
    exact ⟨['\r'], by rw [dropFinalReturn_concat]⟩
  · exact ⟨[], by rw [dropFinalReturn_of_ne returned, List.append_nil]⟩

theorem firstRow_eq_nil_iff {text : List Char} :
    firstRow text = [] ↔ text = [] ∨ text.head? = some '\n' := by
  cases text with
  | nil => exact iff_of_true rfl (.inl rfl)
  | cons c rest =>
    by_cases feed : c = '\n'
    · subst feed
      exact iff_of_true rfl (.inr rfl)
    · simp [firstRow, feed]

end Text

namespace LineIndex

/-! ## Columns of a line -/

theorem columnOffset_cons {column : Nat} (behind : 0 < column) (c : Char) (rest : List Char) :
    columnOffset column (c :: rest) = c.utf8Size + columnOffset (column - unitSize c) rest := by
  cases column with
  | zero => cases behind
  | succ column => rfl

theorem columnOffset_zero (line : List Char) : columnOffset 0 line = 0 := by
  cases line <;> rfl

/-- A column between two characters is where the second one starts. -/
theorem columnOffset_append (own rest : List Char) :
    columnOffset (unitLength own) (own ++ rest) = byteLength own := by
  induction own with
  | nil => exact columnOffset_zero rest
  | cons c own ih =>
    have behind := Nat.add_pos_left (unitSize_pos c) (unitLength own)
    rw [unitLength_cons, List.cons_append, columnOffset_cons behind, Nat.add_sub_cancel_left, ih,
      byteLength_cons]

/-- A column past the end of a line is taken for the end. -/
theorem columnOffset_of_le {column : Nat} {line : List Char} (past : unitLength line ≤ column) :
    columnOffset column line = byteLength line := by
  induction line generalizing column with
  | nil => cases column <;> rfl
  | cons c rest ih =>
    have behind := unitSize_pos c
    rw [unitLength_cons] at past
    rw [columnOffset_cons (by omega), ih (by omega), byteLength_cons]

/-- Any other column is moved to the next one between two characters. -/
theorem exists_columnOffset {column : Nat} {line : List Char}
    (within : column ≤ unitLength line) :
    ∃ own rest, line = own ++ rest ∧ columnOffset column line = byteLength own ∧
      IsLeast {place | IsColumn line place ∧ column ≤ place} (unitLength own) := by
  induction line generalizing column with
  | nil =>
    obtain rfl := Nat.le_zero.mp within
    exact ⟨[], [], rfl, rfl, ⟨⟨[], [], rfl, rfl⟩, Nat.le_refl 0⟩, fun _ _ => Nat.zero_le _⟩
  | cons c line ih =>
    rcases Nat.eq_zero_or_pos column with rfl | behind
    · exact ⟨[], c :: line, rfl, columnOffset_zero _, ⟨⟨[], _, rfl, rfl⟩, Nat.le_refl 0⟩,
        fun _ _ => Nat.zero_le _⟩
    · rw [unitLength_cons] at within
      have within : column - unitSize c ≤ unitLength line := by omega
      obtain ⟨own, rest, rfl, offset, ⟨isColumn, reached⟩, least⟩ := ih within
      refine ⟨c :: own, rest, rfl, ?_, ⟨isColumn.cons c, ?_⟩, ?_⟩
      · rw [columnOffset_cons behind, offset, byteLength_cons]
      · rw [unitLength_cons]
        omega
      · rintro place ⟨other, enough⟩
        rcases other.eq_zero_or with rfl | ⟨later, shorter, rfl⟩
        · omega
        · have bound := least ⟨shorter, show column - unitSize c ≤ later by omega⟩
          rw [unitLength_cons]
          omega

/-! ## Offsets -/

/-- No line of an index holds a line feed. -/
theorem not_mem_of_line? {source : String} {number : Nat} {line : List Char}
    (found : (ofText source).line? number = some line) : '\n' ∉ line := by
  obtain ⟨⟨start, row⟩, listed, rfl⟩ := Option.map_eq_some_iff.mp found
  obtain ⟨-, -, -, -, -, -, unbroken⟩ := exists_row_eq listed
  obtain ⟨tail, ending⟩ := exists_eq_dropFinalReturn_append row
  intro feed
  apply unbroken
  rw [ending]
  exact List.mem_append_left tail feed

theorem offset?_eq_none_iff {index : LineIndex} {position : Position} :
    index.offset? position = none ↔ index.lineCount ≤ position.line := by
  simp only [offset?, bind, Option.bind_eq_none_iff, pure, reduceCtorEq, imp_false, Prod.forall,
    lineCount, ← List.getElem?_eq_none_iff]
  exact ⟨fun none => Option.eq_none_iff_forall_ne_some.mpr fun row => none row.1 row.2,
    fun none start row some => by rw [none] at some; cases some⟩

theorem offset?_of_row {index : LineIndex} {position : Position} {start : Nat} {row : List Char}
    (found : index.rows[position.line]? = some (start, row)) :
    index.offset? position =
      some (start + columnOffset position.character (dropFinalReturn row)) := by
  simp only [offset?, found, bind, Option.bind_some, pure]

/-- The offset of the position of a cut is that of the cut, unless the cut is behind a carriage
return that belongs to the ending of its line. -/
theorem offset?_position {source : String} {before after : List Char}
    (whole : source.toList = before ++ after) :
    (ofText source).offset? ((ofText source).position (byteLength before)) =
      some (if before.getLast? = some '\r' ∧ (after = [] ∨ after.head? = some '\n') then
        byteLength before - 1 else byteLength before) := by
  have size : byteLength before = byteLength (wholeRows before) + byteLength (lastRow before) := by
    rw [← byteLength_append, wholeRows_append_lastRow]
  have closed := wholeRows_append_lastRow before
  rw [position_ofText whole, offset?_of_row (getElem?_rows_ofText whole)]
  simp only [← firstRow_eq_nil_iff, size, Option.some.injEq]
  by_cases last : firstRow after = []
  · rw [last, List.append_nil]
    by_cases returned : before.getLast? = some '\r'
    · -- The carriage return stands on the open row, since no line feed stands behind it.
      obtain ⟨front, rfl⟩ := List.getLast?_eq_some_iff.mp returned
      rw [lastRow_concat (by decide), dropFinalReturn_concat, unitLength_append,
        columnOffset_of_le (Nat.le_add_right ..), byteLength_append, if_pos ⟨returned, rfl⟩]
      rfl
    · have other : (lastRow before).getLast? ≠ some '\r' := by
        intro ends
        apply returned
        rw [← closed, List.getLast?_append, ends, Option.some_or]
      have exact_ := columnOffset_append (lastRow before) []
      rw [List.append_nil] at exact_
      rw [dropFinalReturn_of_ne other, exact_, if_neg fun both => returned both.1]
  · rw [dropFinalReturn_append _ last, columnOffset_append, if_neg fun both => last both.2]

/-- Where the offset of a position is: behind `own`, the beginning of the line of the position, of
which `rest` is what follows up to its ending. It is the next place between two characters at or
behind the column, or the end of the line if the column is past it. -/
structure Clamps (source : String) (position : Position)
    (before own rest behind : List Char) : Prop where
  whole : source.toList = before ++ (own ++ (rest ++ behind))
  starts : Line.AreWhole before
  counts : before.count '\n' = position.line
  line : (ofText source).line? position.line = some (own ++ rest)
  within : position.character ≤ unitLength (own ++ rest) →
    IsLeast {place | IsColumn (own ++ rest) place ∧ position.character ≤ place} (unitLength own)
  past : unitLength (own ++ rest) < position.character → rest = []

/-- The offset of a position on a line of the text. -/
theorem exists_clamps {source : String} {position : Position}
    (known : position.line < (ofText source).lineCount) :
    ∃ before own rest behind, Clamps source position before own rest behind ∧
      (ofText source).offset? position = some (byteLength (before ++ own)) := by
  obtain ⟨⟨start, row⟩, found⟩ : ∃ row, (ofText source).rows[position.line]? = some row :=
    ⟨_, List.getElem?_eq_getElem known⟩
  obtain ⟨before, behind, whole, starts, counts, rfl, -⟩ := exists_row_eq found
  have line : (ofText source).line? position.line = some (dropFinalReturn row) := by
    rw [line?, found, Option.map_some]
  obtain ⟨tail, ending⟩ := exists_eq_dropFinalReturn_append row
  rw [offset?_of_row found]
  generalize dropFinalReturn row = content at line ending ⊢
  rw [ending, List.append_assoc] at whole
  rcases Nat.lt_or_ge (unitLength content) position.character with past | within
  · refine ⟨before, content, [], tail ++ behind, ⟨whole, starts, counts, ?_, ?_, fun _ => rfl⟩, ?_⟩
    · rw [line, List.append_nil]
    · intro within
      rw [List.append_nil] at within
      omega
    · rw [columnOffset_of_le (Nat.le_of_lt past), byteLength_append]
  · obtain ⟨own, rest, rfl, offset, least⟩ := exists_columnOffset within
    rw [List.append_assoc] at whole
    refine ⟨before, own, rest, tail ++ behind, ⟨whole, starts, counts, line, fun _ => least, ?_⟩,
      ?_⟩
    · intro past
      omega
    · rw [offset, byteLength_append]

/-- A place on a line has the position that counting on the line gives. -/
theorem Clamps.position_eq {source : String} {position : Position}
    {before own rest behind : List Char} (clamps : Clamps source position before own rest behind)
    (unbroken : '\n' ∉ own) :
    (ofText source).position (byteLength (before ++ own)) = ⟨position.line, unitLength own⟩ := by
  rw [position_ofText (clamps.whole.trans (List.append_assoc ..).symm), List.count_append,
    List.count_eq_zero.mpr unbroken, Nat.add_zero, clamps.counts, lastRow_append unbroken,
    lastRow_eq_nil_iff.mpr clamps.starts, List.nil_append]

/-- Positions and offsets are inverse up to clamping. An offset between two characters comes back
from its position, or the offset before it does if a carriage return that ends the line stands
before it. A position has an offset unless its line does not exist, and the offset is on that line,
where `Clamps` says; its column is the number of code units up to there. -/
theorem positions_invert_up_to_clamping (source : String) :
    (∀ before after, source.toList = before ++ after →
      (ofText source).offset? ((ofText source).position (byteLength before)) =
        some (if before.getLast? = some '\r' ∧ (after = [] ∨ after.head? = some '\n') then
          byteLength before - 1 else byteLength before)) ∧
    ∀ position : Position,
      ((ofText source).offset? position = none ↔ (ofText source).lineCount ≤ position.line) ∧
      (position.line < (ofText source).lineCount →
        ∃ before own rest behind, Clamps source position before own rest behind ∧
          (ofText source).offset? position = some (byteLength (before ++ own)) ∧
          (ofText source).position (byteLength (before ++ own)) =
            ⟨position.line, unitLength own⟩) := by
  refine ⟨fun _ _ whole => offset?_position whole, fun position => ⟨offset?_eq_none_iff, ?_⟩⟩
  intro known
  obtain ⟨before, own, rest, behind, clamps, offset⟩ := exists_clamps known
  have unbroken := not_mem_of_line? clamps.line
  rw [List.mem_append, not_or] at unbroken
  exact ⟨before, own, rest, behind, clamps, offset, clamps.position_eq unbroken.1⟩

/-- Behind a carriage return of an ending, and inside a character of two code units. -/
theorem positions_invert_inside_pair :
    (ofText "a😀\r\nb").offset? ((ofText "a😀\r\nb").position 6) = some 5 ∧
      (⟨0, 2⟩ : Position).line < (ofText "a😀\r\nb").lineCount ∧
      ∃ before own rest behind, Clamps "a😀\r\nb" ⟨0, 2⟩ before own rest behind ∧
        (ofText "a😀\r\nb").offset? ⟨0, 2⟩ = some (byteLength (before ++ own)) ∧
        (ofText "a😀\r\nb").position (byteLength (before ++ own)) = ⟨0, unitLength own⟩ := by
  obtain ⟨back, clamped⟩ := positions_invert_up_to_clamping "a😀\r\nb"
  have known : (⟨0, 2⟩ : Position).line < (ofText "a😀\r\nb").lineCount := by decide
  exact ⟨back ['a', '😀', '\r'] ['\n', 'b'] rfl, known, (clamped ⟨0, 2⟩).2 known⟩

end LineIndex

end DiagramAssist
