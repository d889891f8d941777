import DiagramAssist.LineIndex
import DiagramAssist.Proofs.Line.Split
import DiagramAssist.Proofs.Text.Slice
import Mathlib.Data.List.DropRight

/-! # The rows of a line index

A cut through a text falls into one row of its index: the row whose number is the number of line
feeds before the cut. The row starts behind the last of them and runs on to the next one, or to the
end of the text (`drop_rows_ofText`). Rows are in order, each behind the one before it with its line
feed, so the search for the last row that starts at or before an offset finds the row that the
offset stands in (`rowAt_eq`).
-/

namespace DiagramAssist

namespace Text

/-- The rows of a text that a line feed ends, line feeds included. -/
def wholeRows (text : List Char) : List Char :=
  text.rdropWhile (· != '\n')

/-- What stands behind the last line feed of a text. -/
def lastRow (text : List Char) : List Char :=
  text.rtakeWhile (· != '\n')

/-- What stands before the first line feed of a text. -/
def firstRow (text : List Char) : List Char :=
  text.takeWhile (· != '\n')

theorem wholeRows_append_lastRow (text : List Char) : wholeRows text ++ lastRow text = text :=
  List.rdropWhile_append_rtakeWhile ..

theorem lastRow_concat_feed (text : List Char) : lastRow (text ++ ['\n']) = [] :=
  List.rtakeWhile_concat_neg _ _ _ (by decide)

theorem wholeRows_concat_feed (text : List Char) : wholeRows (text ++ ['\n']) = text ++ ['\n'] :=
  List.rdropWhile_concat_neg _ _ _ (by decide)

variable {text : List Char} {c : Char}

theorem lastRow_concat (other : c ≠ '\n') : lastRow (text ++ [c]) = lastRow text ++ [c] :=
  List.rtakeWhile_concat_pos _ _ _ (bne_iff_ne.mpr other)

theorem wholeRows_concat (other : c ≠ '\n') : wholeRows (text ++ [c]) = wholeRows text :=
  List.rdropWhile_concat_pos _ _ _ (bne_iff_ne.mpr other)

theorem not_mem_firstRow (text : List Char) : '\n' ∉ firstRow text := by
  intro feed
  have other := List.mem_takeWhile_imp feed
  exact absurd other (by decide)

/-- A text without line feeds goes on with the row that is open before it. -/
theorem lastRow_append {own : List Char} (unbroken : '\n' ∉ own) :
    lastRow (text ++ own) = lastRow text ++ own := by
  induction own using List.reverseRecOn with
  | nil => rw [List.append_nil, List.append_nil]
  | append_singleton own c ih =>
    simp only [List.mem_append, List.mem_singleton, not_or] at unbroken
    rw [← List.append_assoc, lastRow_concat (Ne.symm unbroken.2), ih unbroken.1, List.append_assoc]

/-- A text of whole rows leaves no row open. -/
theorem lastRow_eq_nil_iff : lastRow text = [] ↔ Line.AreWhole text := by
  rcases List.eq_nil_or_concat text with rfl | ⟨front, c, rfl⟩
  · exact iff_of_true rfl (.inl rfl)
  · rw [List.concat_eq_append]
    by_cases feed : c = '\n'
    · subst feed
      exact iff_of_true (lastRow_concat_feed front) (.inr List.getLast?_concat)
    · rw [lastRow_concat feed, Line.AreWhole, List.getLast?_concat, Option.some.injEq]
      simp only [List.append_eq_nil_iff, List.cons_ne_self, and_false, feed, or_self]

/-- Some text of whole rows in front holds any number of the line feeds of a text. -/
theorem exists_whole_rows {number : Nat} (enough : number ≤ text.count '\n') :
    ∃ before after, text = before ++ after ∧ Line.AreWhole before ∧ before.count '\n' = number := by
  induction text generalizing number with
  | nil => exact ⟨[], [], rfl, .inl rfl, (Nat.le_zero.mp enough).symm⟩
  | cons c rest ih =>
    cases number with
    | zero => exact ⟨[], c :: rest, rfl, .inl rfl, rfl⟩
    | succ number =>
      by_cases feed : c = '\n'
      · subst feed
        rw [List.count_cons_self] at enough
        obtain ⟨before, after, rfl, whole, counts⟩ := ih (Nat.le_of_succ_le_succ enough)
        exact ⟨'\n' :: before, after, rfl, Line.areWhole_cons_feed.mpr whole,
          by rw [List.count_cons_self, counts]⟩
      · rw [List.count_cons_of_ne feed] at enough
        obtain ⟨before, after, rfl, whole, counts⟩ := ih enough
        have present : before ≠ [] := by
          rintro rfl
          cases counts
        exact ⟨c :: before, after, rfl, (Line.areWhole_cons present).mpr whole,
          by rw [List.count_cons_of_ne feed, counts]⟩

end Text

namespace LineIndex

open Text

/-! ## Rows against a cut -/

theorem partRows_fst (text : List Char) : (partRows text).1 = firstRow text := by
  induction text with
  | nil => rfl
  | cons c rest ih =>
    by_cases feed : c = '\n'
    · simp [partRows, firstRow, feed]
    · simp [partRows, firstRow, feed, ih]

theorem rows_ofText (source : String) :
    (ofText source).rows =
      placeRows 0 ((partRows source.toList).1 :: (partRows source.toList).2) := rfl

/-- From the row of a cut on, the rows are what is open before the cut with the first row behind it,
and then the other rows behind the cut. -/
theorem drop_rows_ofText {source : String} {before after : List Char}
    (whole : source.toList = before ++ after) :
    (ofText source).rows.drop (before.count '\n') =
      placeRows (byteLength (wholeRows before))
        ((lastRow before ++ (partRows after).1) :: (partRows after).2) := by
  induction before using List.reverseRecOn generalizing after with
  | nil =>
    rw [rows_ofText, whole]
    rfl
  | append_singleton before c ih =>
    rw [List.append_assoc, List.singleton_append] at whole
    have behind := ih whole
    by_cases feed : c = '\n'
    · -- The cut is at the start of the next row.
      subst feed
      have stop : byteLength (wholeRows before) + byteLength (lastRow before) + 1 =
          byteLength (before ++ ['\n']) := by
        rw [← byteLength_append, wholeRows_append_lastRow, byteLength_append]
        rfl
      rw [List.count_append, List.count_singleton_self, ← List.drop_drop, behind,
        wholeRows_concat_feed, lastRow_concat_feed]
      simp only [partRows, ↓reduceIte, List.append_nil, List.nil_append, placeRows, stop,
        List.drop_succ_cons, List.drop_zero]
    · rw [List.count_append, List.count_singleton, if_neg (by simpa using feed), Nat.add_zero,
        behind, wholeRows_concat feed, lastRow_concat feed]
      simp only [partRows, feed, ↓reduceIte, List.append_assoc, List.singleton_append]

/-- The row of a cut. -/
theorem getElem?_rows_ofText {source : String} {before after : List Char}
    (whole : source.toList = before ++ after) :
    (ofText source).rows[before.count '\n']? =
      some (byteLength (wholeRows before), lastRow before ++ firstRow after) := by
  rw [← List.head?_drop, drop_rows_ofText whole, placeRows, List.head?_cons, partRows_fst]

/-- There is one row more than line feeds. -/
theorem lineCount_ofText (source : String) :
    (ofText source).lineCount = source.toList.count '\n' + 1 := by
  have last := drop_rows_ofText (List.append_nil source.toList).symm
  have one := congrArg List.length last
  rw [List.length_drop] at one
  simp only [partRows, placeRows, List.length_cons, List.length_nil] at one
  rw [lineCount]
  omega

/-- Whatever row there is starts at a cut behind whole rows. -/
theorem exists_cut_of_lt {source : String} {number : Nat}
    (known : number < (ofText source).lineCount) :
    ∃ before after, source.toList = before ++ after ∧ Line.AreWhole before ∧
      before.count '\n' = number ∧
      (ofText source).rows[number]? = some (byteLength before, firstRow after) := by
  rw [lineCount_ofText] at known
  obtain ⟨before, after, whole, rows, rfl⟩ := exists_whole_rows (Nat.le_of_lt_succ known)
  have row := getElem?_rows_ofText whole
  have closed := wholeRows_append_lastRow before
  rw [lastRow_eq_nil_iff.mpr rows] at row closed
  rw [List.append_nil] at closed
  rw [closed, List.nil_append] at row
  exact ⟨before, after, whole, rows, rfl, row⟩

/-- A row is a piece of the text, at its offset. -/
theorem exists_row_eq {source : String} {number start : Nat} {row : List Char}
    (found : (ofText source).rows[number]? = some (start, row)) :
    ∃ before behind, source.toList = before ++ (row ++ behind) ∧ Line.AreWhole before ∧
      before.count '\n' = number ∧ byteLength before = start ∧ '\n' ∉ row := by
  obtain ⟨before, after, whole, rows, counts, same⟩ :=
    exists_cut_of_lt (List.getElem?_eq_some_iff.mp found).1
  rw [same] at found
  cases found
  refine ⟨before, after.dropWhile (· != '\n'), ?_, rows, counts, rfl, not_mem_firstRow after⟩
  rw [whole, firstRow, List.takeWhile_append_dropWhile]

/-! ## The search for a row -/

/-- The first row is before the second one, with its line feed. -/
def Precedes (first second : Nat × List Char) : Prop :=
  first.1 + byteLength first.2 < second.1

theorem le_start_of_mem_placeRows {start : Nat} {rows : List (List Char)} {row : Nat × List Char}
    (member : row ∈ placeRows start rows) : start ≤ row.1 := by
  induction rows generalizing start with
  | nil => cases member
  | cons first rest ih =>
    rw [placeRows, List.mem_cons] at member
    rcases member with rfl | later
    · exact Nat.le_refl start
    · have behind := ih later
      omega

theorem pairwise_placeRows (start : Nat) (rows : List (List Char)) :
    (placeRows start rows).Pairwise Precedes := by
  induction rows generalizing start with
  | nil => exact .nil
  | cons first rest ih => exact .cons (fun _ later => le_start_of_mem_placeRows later) (ih _)

/-- Rows are in order. -/
theorem pairwise_rows_ofText (source : String) : (ofText source).rows.Pairwise Precedes :=
  pairwise_placeRows 0 _

/-- Among rows that are in order, the last one that starts at or before an offset is the one that
the offset stands in. -/
theorem rowAt_eq {first row : Nat × List Char} {later : List (Nat × List Char)}
    {offset number index : Nat} (ordered : (first :: later).Pairwise Precedes)
    (found : (first :: later)[index]? = some row) (starts : row.1 ≤ offset)
    (stops : offset ≤ row.1 + byteLength row.2) :
    rowAt offset number first later = (number + index, row) := by
  induction later generalizing first number index with
  | nil =>
    rw [List.getElem?_singleton, Option.ite_none_right_eq_some] at found
    obtain ⟨rfl, same⟩ := found
    cases same
    rfl
  | cons next later ih =>
    cases index with
    | zero =>
      cases found
      have behind : row.1 + byteLength row.2 < next.1 :=
        (List.pairwise_cons.mp ordered).1 next List.mem_cons_self
      rw [rowAt, if_neg (by omega), Nat.add_zero]
    | succ index =>
      rw [List.getElem?_cons_succ] at found
      have ordered := (List.pairwise_cons.mp ordered).2
      have passed : next.1 ≤ row.1 := by
        rcases List.mem_cons.mp (List.mem_of_getElem? found) with rfl | behind
        · exact Nat.le_refl _
        · have apart : next.1 + byteLength next.2 < row.1 :=
            (List.pairwise_cons.mp ordered).1 row behind
          omega
      rw [rowAt, if_pos (Nat.le_trans passed starts), ih ordered found]
      congr 1
      omega

end LineIndex

end DiagramAssist
