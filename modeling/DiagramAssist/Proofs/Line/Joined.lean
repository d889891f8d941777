import DiagramAssist.Proofs.Line.Split

/-! # Lines that follow one another

The lines of a text leave no gap: each starts where the one before it ends, ending included. Any run
of them is therefore a piece of the text, at the offset of its first line (`Line.Run`). Line feeds
stand at the ends of lines only, and every line but the last one of the text has one.
-/

namespace DiagramAssist.Line

/-- The lines follow one another without a gap; the first one starts at `start`. -/
def Joined : (start : Nat) → List Line → Prop
  | _, [] => True
  | start, line :: rest => line.start = start ∧ Joined line.stop rest

/-- The text of lines, endings included. -/
def text (lines : List Line) : List Char :=
  lines.flatMap chars

@[simp] theorem text_nil : text [] = [] := rfl

@[simp] theorem text_cons (line : Line) (rest : List Line) :
    text (line :: rest) = line.chars ++ text rest := List.flatMap_cons

@[simp] theorem text_append (first second : List Line) :
    text (first ++ second) = text first ++ text second := List.flatMap_append

theorem joined_cons {start : Nat} {line : Line} {rest : List Line} :
    Joined start (line :: rest) ↔
      line.start = start ∧ Joined (start + Text.byteLength line.chars) rest := by
  simp only [Joined]
  constructor
  · rintro ⟨rfl, behind⟩
    exact ⟨rfl, line.stop_eq ▸ behind⟩
  · rintro ⟨rfl, behind⟩
    exact ⟨rfl, line.stop_eq ▸ behind⟩

theorem joined_append {start : Nat} {first second : List Line} :
    Joined start (first ++ second) ↔
      Joined start first ∧ Joined (start + Text.byteLength (text first)) second := by
  induction first generalizing start with
  | nil => simp only [List.nil_append, Joined, text_nil, Text.byteLength_nil, Nat.add_zero,
      true_and]
  | cons line rest ih =>
    simp only [List.cons_append, joined_cons, ih, text_cons, Text.byteLength_append, and_assoc,
      Nat.add_assoc]

theorem joined_placeAll (start : Nat) (raws : List (List Char × Bool)) :
    Joined start (placeAll start raws) := by
  induction raws generalizing start with
  | nil => trivial
  | cons raw rest ih => exact ⟨rfl, ih _⟩

theorem text_placeAll (start : Nat) (raws : List (List Char × Bool)) :
    text (placeAll start raws) = raws.flatMap rawChars := by
  induction raws generalizing start with
  | nil => rfl
  | cons raw rest ih =>
    rw [placeAll, text_cons, chars_ofRaw, ih]
    rfl

/-- The lines of a text follow one another from its beginning. -/
theorem joined_split (source : List Char) : Joined 0 (split source) :=
  joined_placeAll 0 (rawLines source)

/-- The lines of a text, one after the other with their endings, are the text. -/
@[simp] theorem text_split (source : List Char) : text (split source) = source := by
  rw [split, text_placeAll, flatMap_rawLines]

theorem split_eq_nil_iff {source : List Char} : split source = [] ↔ source = [] := by
  constructor
  · intro none
    rw [← text_split source, none, text_nil]
  · rintro rfl
    rfl

/-- Every raw line but the last one has a line feed behind it. -/
theorem pairwise_rawLines (text : List Char) :
    (rawLines text).Pairwise fun earlier _ => earlier.2 = true := by
  fun_induction rawLines text with
  | case1 => exact .nil
  | case2 rest ih => exact .cons (fun _ _ => rfl) ih
  | case3 c rest _ none ih => exact List.pairwise_singleton _ _
  | case4 c rest _ line fed later some ih =>
    rw [some, List.pairwise_cons] at ih
    exact .cons ih.1 ih.2

/-- Lines start behind the place where the lines before them were placed. -/
theorem le_start_of_mem_placeAll {start : Nat} {raws : List (List Char × Bool)} {line : Line}
    (member : line ∈ placeAll start raws) : start ≤ line.start := by
  induction raws generalizing start with
  | nil => simp only [placeAll, List.not_mem_nil] at member
  | cons raw rest ih =>
    simp only [placeAll, List.mem_cons] at member
    rcases member with rfl | later
    · exact Nat.le_refl start
    · have behind := ih later
      rw [stop_eq] at behind
      exact Nat.le_trans (Nat.le_add_right ..) behind

/-- A line feed takes its place. -/
theorem contentStop_lt_stop_ofRaw (start : Nat) (raw : List Char) :
    (ofRaw start raw true).contentStop < (ofRaw start raw true).stop := by
  have present : 0 < Text.byteLength (ofRaw start raw true).ending.chars := by
    simp only [ofRaw]
    cases decide ((Text.dropFinalReturn raw).length < raw.length) <;> decide
  exact Nat.lt_add_of_pos_right present

/-- A line feed stands between the content of a line and any later line. -/
theorem pairwise_split (source : List Char) :
    (split source).Pairwise fun earlier later => earlier.contentStop < later.start := by
  have fed := pairwise_rawLines source
  rw [split]
  generalize rawLines source = raws at fed
  generalize 0 = start
  induction raws generalizing start with
  | nil => exact .nil
  | cons raw rest ih =>
    rw [List.pairwise_cons] at fed
    refine .cons (fun later member => ?_) (ih fed.2 _)
    obtain ⟨other, listed⟩ : ∃ other, other ∈ rest := by
      cases rest with
      | nil => simp only [placeAll, List.not_mem_nil] at member
      | cons other rest => exact ⟨other, List.mem_cons_self⟩
    have behind := le_start_of_mem_placeAll member
    rw [fed.1 other listed] at behind ⊢
    exact Nat.lt_of_lt_of_le (contentStop_lt_stop_ofRaw start raw.1) behind

/-! ## Line feeds -/

/-- No line holds a line feed before its ending. -/
theorem not_mem_content_of_mem_split {source : List Char} {line : Line}
    (member : line ∈ split source) : '\n' ∉ line.content := by
  obtain ⟨raw, listed, same⟩ := mem_placeAll member
  intro feed
  have kept : '\n' ∈ raw.1 := by
    rw [same] at feed
    simp only [ofRaw, Text.dropFinalReturn] at feed
    split at feed
    · exact (List.dropLast_sublist raw.1).subset feed
    · exact feed
  exact (mem_of_mem_rawLines raw listed _ kept).2 rfl

/-- An ending has no line feed, or just the one it ends with. -/
theorem count_ending (line : Line) : line.ending.chars.count '\n' = 0 ∨
    line.ending.chars.count '\n' = 1 ∧ line.ending.chars.getLast? = some '\n' := by
  cases line.ending <;> decide

theorem count_ending_ofRaw (start : Nat) (raw : List Char) (fed : Bool) :
    (ofRaw start raw fed).ending.chars.count '\n' = if fed then 1 else 0 := by
  simp only [ofRaw]
  cases fed <;> cases decide ((Text.dropFinalReturn raw).length < raw.length) <;> rfl

/-- Every line but the last one ends with a line feed. -/
theorem pairwise_fed (source : List Char) :
    (split source).Pairwise fun earlier _ => earlier.ending.chars.count '\n' = 1 := by
  have fed := pairwise_rawLines source
  rw [split]
  generalize rawLines source = raws at fed
  generalize 0 = start
  induction raws generalizing start with
  | nil => exact .nil
  | cons raw rest ih =>
    rw [List.pairwise_cons] at fed
    refine .cons (fun later member => ?_) (ih fed.2 _)
    obtain ⟨other, listed, -⟩ := mem_placeAll member
    rw [count_ending_ofRaw, fed.1 other listed, if_pos rfl]

/-- Lines of a source that follow one another from an offset. -/
structure Run (source : List Char) (offset : Nat) (lines : List Line) : Prop where
  joined : Joined offset lines
  placed : ∃ before after, source = before ++ (text lines ++ after) ∧
    Text.byteLength before = offset
  unbroken : ∀ line ∈ lines, '\n' ∉ line.content
  fed : lines.Pairwise fun earlier _ => earlier.ending.chars.count '\n' = 1

theorem run_split (source : List Char) : Run source 0 (split source) where
  joined := joined_split source
  placed := ⟨[], [], by rw [text_split, List.nil_append, List.append_nil], rfl⟩
  unbroken _ member := not_mem_content_of_mem_split member
  fed := pairwise_fed source

theorem Run.left {source : List Char} {offset : Nat} {first second : List Line}
    (run : Run source offset (first ++ second)) : Run source offset first where
  joined := (joined_append.mp run.joined).1
  placed := by
    obtain ⟨before, after, whole, place⟩ := run.placed
    refine ⟨before, text second ++ after, ?_, place⟩
    rw [whole, text_append, List.append_assoc]
  unbroken line member := run.unbroken line (List.mem_append_left second member)
  fed := (List.pairwise_append.mp run.fed).1

theorem Run.right {source : List Char} {offset : Nat} {first second : List Line}
    (run : Run source offset (first ++ second)) :
    Run source (offset + Text.byteLength (text first)) second where
  joined := (joined_append.mp run.joined).2
  placed := by
    obtain ⟨before, after, whole, place⟩ := run.placed
    refine ⟨before ++ text first, after, ?_, ?_⟩
    · rw [whole, text_append, List.append_assoc, List.append_assoc]
    · rw [Text.byteLength_append, place]
  unbroken line member := run.unbroken line (List.mem_append_right first member)
  fed := (List.pairwise_append.mp run.fed).2.1

theorem Run.tail {source : List Char} {offset : Nat} {line : Line} {rest : List Line}
    (run : Run source offset (line :: rest)) :
    Run source (offset + Text.byteLength line.chars) rest := by
  have both : Run source offset ([line] ++ rest) := run
  have behind := both.right
  rwa [text_cons, text_nil, List.append_nil] at behind

/-- Lines that follow one another in the lines of a source. -/
theorem run_of_infix {source : List Char} {lines : List Line} (inside : lines <:+: split source) :
    ∃ offset, Run source offset lines := by
  obtain ⟨before, after, whole⟩ := inside
  have run := run_split source
  rw [← whole, List.append_assoc] at run
  exact ⟨_, run.right.left⟩

end DiagramAssist.Line
