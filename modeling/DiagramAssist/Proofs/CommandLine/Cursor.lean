import DiagramAssist.CommandLine.Execute
import DiagramAssist.Proofs.LineIndex.Clamping

/-! # The word before a cursor

A cursor on a line of a diagram stands where its position is clamped to, and a suggestion for it
replaces the word that ends there: the longest end of the text before the cursor that consists of
characters of words. No such character is a line feed, so the word lies on the line of the cursor,
and its range starts and stops there, between the two offsets of the word
(`Diagram.wordAt_covers_last_word`).
-/

namespace DiagramAssist

open Text

/-! ## Rows of clamped positions -/

namespace LineIndex

section Places

variable {source : String} {position : Position} {before own rest behind : List Char}

/-- The line of a clamped position is on a row that starts behind `before`. -/
theorem Clamps.row (clamps : Clamps source position before own rest behind) :
    ∃ tail, (ofText source).rows[position.line]? =
        some (byteLength before, own ++ (rest ++ tail)) ∧
      dropFinalReturn (own ++ (rest ++ tail)) = own ++ rest := by
  have found := getElem?_rows_ofText clamps.whole
  have closed := wholeRows_append_lastRow before
  rw [lastRow_eq_nil_iff.mpr clamps.starts] at found closed
  rw [List.append_nil] at closed
  rw [closed, List.nil_append, clamps.counts] at found
  have line := clamps.line
  rw [line?, found, Option.map_some, Option.some.injEq] at line
  dsimp only at line
  obtain ⟨tail, ending⟩ := exists_eq_dropFinalReturn_append
    (firstRow (own ++ (rest ++ behind)))
  rw [line, List.append_assoc] at ending
  rw [ending] at found line
  exact ⟨tail, found, line⟩

/-- An offset on the line up to the clamped position has the column that counting gives, and is the
offset of that column. -/
theorem Clamps.place_eq {front word : List Char}
    (clamps : Clamps source position before (front ++ word) rest behind) :
    (ofText source).position (byteLength (before ++ front)) = ⟨position.line, unitLength front⟩ ∧
      (ofText source).offset? ⟨position.line, unitLength front⟩ =
        some (byteLength (before ++ front)) := by
  obtain ⟨tail, found, dropped⟩ := clamps.row
  have offset : (ofText source).offset? ⟨position.line, unitLength front⟩ = _ :=
    offset?_of_row found
  rw [dropped, List.append_assoc, columnOffset_append] at offset
  rw [List.append_assoc] at found
  rw [byteLength_append]
  exact ⟨position_of_row found, offset⟩

end Places

end LineIndex

/-! ## Words -/

namespace CommandLine.Diagram

open LineIndex

/-- The longest end of a text that consists of characters of words. -/
structure IsLastWord (before word : List Char) : Prop where
  ends : word <:+ before
  chars : ∀ c ∈ word, isWordChar c = true
  longest : ∀ other, other <:+ before → (∀ c ∈ other, isWordChar c = true) → other <:+ word

theorem lastWord_eq_rtakeWhile (before : List Char) :
    lastWord before = before.rtakeWhile isWordChar := rfl

theorem isLastWord_lastWord (before : List Char) : IsLastWord before (lastWord before) where
  ends := List.rtakeWhile_suffix _ before
  chars _ member := List.mem_rtakeWhile_imp member
  longest := by
    rintro other ⟨front, rfl⟩ chars
    have read : ∀ c ∈ other.reverse, isWordChar c = true := fun c member =>
      chars c (List.mem_reverse.mp member)
    rw [lastWord, List.reverse_append, List.takeWhile_append_of_pos read, List.reverse_append,
      List.reverse_reverse]
    exact List.suffix_append ..

/-- A word does not reach behind the line feed that closes the lines before. -/
theorem lastWord_append {before : List Char} (whole : Line.AreWhole before) (own : List Char) :
    lastWord (before ++ own) = lastWord own := by
  induction own using List.reverseRecOn with
  | nil =>
    rw [List.append_nil, lastWord_eq_rtakeWhile, lastWord_eq_rtakeWhile, List.rtakeWhile_nil,
      List.rtakeWhile_eq_nil_iff]
    intro present reached
    have last := whole.resolve_left present
    rw [List.getLast?_eq_some_getLast present, Option.some.injEq] at last
    rw [last, not_isWordChar_feed] at reached
    cases reached
  | append_singleton own c ih =>
    rw [lastWord_eq_rtakeWhile, lastWord_eq_rtakeWhile] at ih ⊢
    rw [← List.append_assoc]
    by_cases read : isWordChar c = true
    · rw [List.rtakeWhile_concat_pos _ _ _ read, List.rtakeWhile_concat_pos _ _ _ read, ih]
    · rw [List.rtakeWhile_concat_neg _ _ _ read, List.rtakeWhile_concat_neg _ _ _ read]

/-- The range on a line that covers the word behind `front`: its ends are the offsets of the word,
and as many columns apart as the word has code units. -/
structure Covers (index : LineIndex) (line : Nat) (range : Range) (front word : List Char) :
    Prop where
  startLine : range.start.line = line
  stopLine : range.stop.line = line
  start : index.offset? range.start = some (byteLength front)
  stop : index.offset? range.stop = some (byteLength (front ++ word))
  width : range.stop.character = range.start.character + unitLength word

section Cursors

variable {diagram : Diagram} {cursor : Position}

/-- What is found at an offset between two characters. -/
theorem wordAt_of_offset? {before after : List Char}
    (whole : diagram.text.toList = before ++ after)
    (offset : (LineIndex.ofText diagram.text).offset? cursor = some (byteLength before)) :
    diagram.wordAt cursor =
      (⟨(LineIndex.ofText diagram.text).position
          (byteLength before - byteLength (lastWord before)),
        (LineIndex.ofText diagram.text).position (byteLength before)⟩,
        String.ofList (lastWord before)) := by
  have cut : splitBytes? diagram.text.toList (byteLength before) = some (before, after) :=
    splitBytes?_eq_some_iff.mpr ⟨whole, rfl⟩
  simp only [wordAt, offset, cut]

end Cursors

/-- On a line of the diagram, the word at a cursor is the last word of the text before the offset of
the cursor, and the range covers it on the line of the cursor. A cursor behind the last line has no
word, and the range is the empty one at the cursor. -/
theorem wordAt_covers_last_word (diagram : Diagram) (cursor : Position) :
    (cursor.line < (LineIndex.ofText diagram.text).lineCount →
      ∃ front word after, diagram.text.toList = front ++ (word ++ after) ∧
        (LineIndex.ofText diagram.text).offset? cursor = some (byteLength (front ++ word)) ∧
        (diagram.wordAt cursor).2 = String.ofList word ∧ IsLastWord (front ++ word) word ∧
        Covers (LineIndex.ofText diagram.text) cursor.line (diagram.wordAt cursor).1 front word) ∧
    ((LineIndex.ofText diagram.text).lineCount ≤ cursor.line →
      diagram.wordAt cursor = (.point cursor, "")) := by
  constructor
  · intro known
    obtain ⟨before, own, rest, behind, clamps, offset⟩ := exists_clamps known
    have found := wordAt_of_offset? (clamps.whole.trans (List.append_assoc ..).symm) offset
    have last := isLastWord_lastWord (before ++ own)
    rw [lastWord_append clamps.starts] at found last
    -- The word is the end of what stands before the cursor on its line.
    obtain ⟨front, cut⟩ := (isLastWord_lastWord own).ends
    generalize lastWord own = word at found last cut
    subst cut
    have whole : Clamps diagram.text cursor before ((front ++ word) ++ []) rest behind := by
      rwa [List.append_nil]
    obtain ⟨stop, stop'⟩ := whole.place_eq
    obtain ⟨start, start'⟩ := clamps.place_eq
    have place : byteLength (before ++ (front ++ word)) - byteLength word =
        byteLength (before ++ front) := by
      rw [← List.append_assoc, byteLength_append, Nat.add_sub_cancel]
    rw [place, start, stop] at found
    refine ⟨before ++ front, word, rest ++ behind, ?_, ?_, ?_, ?_, ?_⟩
    · rw [clamps.whole, List.append_assoc, List.append_assoc]
    · rw [offset, List.append_assoc]
    · rw [found]
    · rwa [List.append_assoc]
    · rw [found]
      exact ⟨rfl, rfl, start', by rw [stop', List.append_assoc], unitLength_append ..⟩
  · intro past
    rw [wordAt, offset?_eq_none_iff.mpr past]

/-- A cursor past the end of its line, and one behind the last line. -/
theorem wordAt_covers_last_word_return :
    (⟨1, 9⟩ : Position).line < (LineIndex.ofText "A\r\nB : $al\r\n").lineCount ∧
      (∃ front word after, "A\r\nB : $al\r\n".toList = front ++ (word ++ after) ∧
        (LineIndex.ofText "A\r\nB : $al\r\n").offset? ⟨1, 9⟩ =
          some (byteLength (front ++ word)) ∧
        (wordAt ⟨"k", "A\r\nB : $al\r\n"⟩ ⟨1, 9⟩).2 = String.ofList word ∧
        IsLastWord (front ++ word) word ∧
        Covers (LineIndex.ofText "A\r\nB : $al\r\n") 1
          (wordAt ⟨"k", "A\r\nB : $al\r\n"⟩ ⟨1, 9⟩).1 front word) ∧
      wordAt ⟨"k", "A\r\nB : $al\r\n"⟩ ⟨3, 2⟩ = (⟨⟨3, 2⟩, ⟨3, 2⟩⟩, "") := by
  have known : (⟨1, 9⟩ : Position).line < (LineIndex.ofText "A\r\nB : $al\r\n").lineCount := by
    decide
  exact ⟨known, (wordAt_covers_last_word ⟨"k", "A\r\nB : $al\r\n"⟩ ⟨1, 9⟩).1 known,
    (wordAt_covers_last_word ⟨"k", "A\r\nB : $al\r\n"⟩ ⟨3, 2⟩).2 (by decide)⟩

example :
    wordAt ⟨"k", "A\r\nB : $al\r\n"⟩ ⟨1, 9⟩ = (⟨⟨1, 4⟩, ⟨1, 7⟩⟩, "$al") := by
  decide +kernel

end CommandLine.Diagram

end DiagramAssist
