import DiagramAssist.Line

/-! # The lines of an append

Splitting loses nothing: a line with its ending is the raw line it was made of, and the raw lines
together are the text. A text that is empty or ends with a line feed consists of whole lines, so
whatever follows it starts a line of its own, and the lines of the whole are those of the first text
followed by those of the second, moved down by the bytes of the first.
-/

namespace DiagramAssist.Line

def shift (distance : Nat) (line : Line) : Line :=
  { line with start := line.start + distance }

@[simp] theorem start_shift (distance : Nat) (line : Line) :
    (line.shift distance).start = line.start + distance := rfl

@[simp] theorem content_shift (distance : Nat) (line : Line) :
    (line.shift distance).content = line.content := rfl

@[simp] theorem ending_shift (distance : Nat) (line : Line) :
    (line.shift distance).ending = line.ending := rfl

@[simp] theorem chars_shift (distance : Nat) (line : Line) :
    (line.shift distance).chars = line.chars := rfl

@[simp] theorem contentStop_shift (distance : Nat) (line : Line) :
    (line.shift distance).contentStop = line.contentStop + distance := by
  simp only [contentStop, start_shift, content_shift]
  omega

@[simp] theorem stop_shift (distance : Nat) (line : Line) :
    (line.shift distance).stop = line.stop + distance := by
  simp only [stop, contentStop_shift, ending_shift]
  omega

/-- A line takes as many bytes as its characters do, the ending included. -/
theorem stop_eq (line : Line) : line.stop = line.start + Text.byteLength line.chars := by
  simp only [stop, contentStop, chars, Text.byteLength_append]
  omega

/-- A raw line with the line feed behind it, if there is one. -/
def rawChars (raw : List Char × Bool) : List Char :=
  raw.1 ++ if raw.2 then ['\n'] else []

/-- Giving the carriage return to the ending loses no character. -/
theorem chars_ofRaw (start : Nat) (raw : List Char) (fed : Bool) :
    (ofRaw start raw fed).chars = rawChars (raw, fed) := by
  by_cases returned : raw.getLast? = some '\r'
  · obtain ⟨front, rfl⟩ := List.getLast?_eq_some_iff.mp returned
    have content : Text.dropFinalReturn (front ++ ['\r']) = front := by
      simp only [Text.dropFinalReturn, List.getLast?_concat, ↓reduceIte, List.dropLast_concat]
    cases fed <;> simp [ofRaw, chars, rawChars, content, Ending.chars]
  · have content : Text.dropFinalReturn raw = raw := if_neg returned
    cases fed <;> simp [ofRaw, chars, rawChars, content, Ending.chars]

/-- The raw lines of a text, one after the other, are the text. -/
theorem flatMap_rawLines (text : List Char) : (rawLines text).flatMap rawChars = text := by
  fun_induction rawLines text with
  | case1 => rfl
  | case2 rest ih => simp only [List.flatMap_cons, rawChars, ↓reduceIte, ih, List.nil_append,
      List.singleton_append]
  | case3 c rest _ none ih =>
    rw [none] at ih
    simp only [List.flatMap_cons, List.flatMap_nil, rawChars, Bool.false_eq_true, ↓reduceIte,
      List.append_nil] at ih ⊢
    rw [ih]
  | case4 c rest _ line fed later some ih =>
    rw [some] at ih
    simp only [List.flatMap_cons, rawChars, List.cons_append] at ih ⊢
    rw [ih]

theorem rawLines_eq_nil_iff {text : List Char} : rawLines text = [] ↔ text = [] := by
  constructor
  · intro none
    rw [← flatMap_rawLines text, none, List.flatMap_nil]
  · rintro rfl
    rfl

/-- The raw lines of a text are made of the characters of the text, line feeds apart. -/
theorem mem_of_mem_rawLines {text : List Char} :
    ∀ raw ∈ rawLines text, ∀ c ∈ raw.1, c ∈ text ∧ c ≠ '\n' := by
  fun_induction rawLines text with
  | case1 => exact List.forall_mem_nil _
  | case2 rest ih =>
    intro raw listed c member
    rcases List.mem_cons.mp listed with rfl | later
    · exact (List.not_mem_nil member).elim
    · obtain ⟨inText, other⟩ := ih raw later c member
      exact ⟨List.mem_cons_of_mem _ inText, other⟩
  | case3 d rest other none ih =>
    intro raw listed c member
    cases List.mem_singleton.mp listed
    cases List.mem_singleton.mp member
    exact ⟨List.mem_cons_self, other⟩
  | case4 d rest other line fed later some ih =>
    intro raw listed c member
    rcases List.mem_cons.mp listed with rfl | listed
    · rcases List.mem_cons.mp member with rfl | member
      · exact ⟨List.mem_cons_self, other⟩
      · obtain ⟨inText, other⟩ := ih (line, fed) (some ▸ List.mem_cons_self) c member
        exact ⟨List.mem_cons_of_mem _ inText, other⟩
    · obtain ⟨inText, other⟩ := ih raw (some ▸ List.mem_cons_of_mem _ listed) c member
      exact ⟨List.mem_cons_of_mem _ inText, other⟩

theorem mem_placeAll {start : Nat} {raws : List (List Char × Bool)} {line : Line}
    (member : line ∈ placeAll start raws) : ∃ raw ∈ raws, line = ofRaw line.start raw.1 raw.2 := by
  induction raws generalizing start with
  | nil => simp only [placeAll, List.not_mem_nil] at member
  | cons raw rest ih =>
    simp only [placeAll, List.mem_cons] at member
    rcases member with rfl | later
    · exact ⟨raw, List.mem_cons_self, rfl⟩
    · obtain ⟨raw, listed, same⟩ := ih later
      exact ⟨raw, List.mem_cons_of_mem _ listed, same⟩

theorem length_placeAll (start : Nat) (raws : List (List Char × Bool)) :
    (placeAll start raws).length = raws.length := by
  induction raws generalizing start with
  | nil => rfl
  | cons raw rest ih => rw [placeAll, List.length_cons, List.length_cons, ih]

/-- A text of whole lines: one that is empty or ends with a line feed. -/
def AreWhole (text : List Char) : Prop :=
  text = [] ∨ text.getLast? = some '\n'

instance (text : List Char) : Decidable (AreWhole text) :=
  inferInstanceAs (Decidable (text = [] ∨ text.getLast? = some '\n'))

theorem AreWhole.tail {c : Char} {rest : List Char} (whole : AreWhole (c :: rest)) :
    AreWhole rest := by
  cases rest with
  | nil => exact .inl rfl
  | cons d rest =>
    rcases whole with none | last
    · exact (List.cons_ne_nil _ _ none).elim
    · exact .inr (by rwa [List.getLast?_cons_cons] at last)

theorem areWhole_cons {c : Char} {rest : List Char} (present : rest ≠ []) :
    AreWhole (c :: rest) ↔ AreWhole rest := by
  obtain ⟨d, later, rfl⟩ := List.exists_cons_of_ne_nil present
  simp only [AreWhole, List.getLast?_cons_cons, reduceCtorEq, false_or]

theorem areWhole_cons_feed {rest : List Char} : AreWhole ('\n' :: rest) ↔ AreWhole rest := by
  cases rest with
  | nil => exact iff_of_true (.inr rfl) (.inl rfl)
  | cons c later => exact areWhole_cons (List.cons_ne_nil c later)

/-- A line that is still open has characters behind its first one. -/
theorem AreWhole.tail_ne_nil {c : Char} {rest : List Char} (whole : AreWhole (c :: rest))
    (goesOn : c ≠ '\n') : rest ≠ [] := by
  rintro rfl
  rcases whole with none | last
  · exact List.cons_ne_nil _ _ none
  · exact goesOn (Option.some.inj last)

theorem rawLines_append {first : List Char} (whole : AreWhole first) (second : List Char) :
    rawLines (first ++ second) = rawLines first ++ rawLines second := by
  induction first with
  | nil => rfl
  | cons c rest ih =>
    have later := ih whole.tail
    by_cases feed : c = '\n'
    · subst feed
      simp only [List.cons_append, rawLines, later]
    · have present : rawLines rest ≠ [] := fun none =>
        whole.tail_ne_nil feed (rawLines_eq_nil_iff.mp none)
      obtain ⟨line, lines, some⟩ := List.exists_cons_of_ne_nil present
      rw [some, List.cons_append] at later
      simp only [List.cons_append, rawLines, later, some]

/-- Raw lines that are placed further down give the same lines, moved. -/
theorem placeAll_shift (start distance : Nat) (raws : List (List Char × Bool)) :
    placeAll (start + distance) raws = (placeAll start raws).map (shift distance) := by
  induction raws generalizing start with
  | nil => rfl
  | cons raw rest ih =>
    have head : ofRaw (start + distance) raw.1 raw.2 = (ofRaw start raw.1 raw.2).shift distance :=
      rfl
    simp only [placeAll, List.map_cons, head, stop_shift, ih]

/-- Raw lines are placed one after the other, without a gap. -/
theorem placeAll_append (start : Nat) (first second : List (List Char × Bool)) :
    placeAll start (first ++ second) =
      placeAll start first ++
        placeAll (start + Text.byteLength (first.flatMap rawChars)) second := by
  induction first generalizing start with
  | nil => rfl
  | cons raw rest ih =>
    have stop : (ofRaw start raw.1 raw.2).stop = start + Text.byteLength (rawChars raw) := by
      rw [stop_eq, chars_ofRaw]
      rfl
    simp only [List.cons_append, placeAll, ih, stop, List.flatMap_cons, Text.byteLength_append,
      Nat.add_assoc]

/-- The lines of two texts, the first of them of whole lines. -/
theorem split_append {first : List Char} (whole : AreWhole first) (second : List Char) :
    split (first ++ second) =
      split first ++ (split second).map (shift (Text.byteLength first)) := by
  simp only [split, rawLines_append whole, placeAll_append, flatMap_rawLines]
  rw [placeAll_shift]

end DiagramAssist.Line
