import DiagramAssist.Proofs.Document.Placement
import DiagramAssist.Proofs.Line.Joined

/-! # Lines with other endings

Writing a carriage return before every line feed moves an offset by the number of line feeds before
it. In a text that had no carriage returns, the lines stay the same but for their endings and the
places they start at (`Line.split_crlf`), and inside a line offsets only slide (`Line.Fits`).
-/

namespace DiagramAssist

namespace Text

/-- The text with a carriage return before every line feed. -/
def crlf (text : List Char) : List Char :=
  text.flatMap fun c => if c = '\n' then ['\r', '\n'] else [c]

/-- The number of line feeds in the first `count` bytes of the text. -/
def feedsWithin : (text : List Char) → (count : Nat) → Nat
  | [], _ => 0
  | c :: rest, count =>
    (if c = '\n' ∧ 0 < count then 1 else 0) + feedsWithin rest (count - c.utf8Size)

@[simp] theorem crlf_append (first second : List Char) :
    crlf (first ++ second) = crlf first ++ crlf second :=
  List.flatMap_append

theorem crlf_cons_of_ne {c : Char} (other : c ≠ '\n') (rest : List Char) :
    crlf (c :: rest) = c :: crlf rest := by
  simp only [crlf, List.flatMap_cons, other, ↓reduceIte, List.singleton_append]

/-- A text without a line feed stays as it is. -/
theorem crlf_of_unbroken {text : List Char} (unbroken : '\n' ∉ text) : crlf text = text := by
  induction text with
  | nil => rfl
  | cons c rest ih =>
    rw [List.mem_cons, not_or] at unbroken
    rw [crlf_cons_of_ne (Ne.symm unbroken.1), ih unbroken.2]

/-- Every line feed makes the text longer by one byte. -/
theorem byteLength_crlf (text : List Char) :
    byteLength (crlf text) = byteLength text + text.count '\n' := by
  induction text with
  | nil => rfl
  | cons c rest ih =>
    have cons : crlf (c :: rest) = (if c = '\n' then ['\r', '\n'] else [c]) ++ crlf rest := rfl
    rw [cons, byteLength_append, ih, List.count_cons, byteLength_cons]
    by_cases feed : c = '\n'
    · subst feed
      have pair : byteLength ['\r', '\n'] = '\n'.utf8Size + 1 := by decide
      simp only [↓reduceIte, pair, beq_self_eq_true]
      omega
    · simp only [feed, ↓reduceIte, byteLength_cons, byteLength_nil, beq_iff_eq]
      omega

@[simp] theorem feedsWithin_zero (text : List Char) : feedsWithin text 0 = 0 := by
  induction text with
  | nil => rfl
  | cons c rest ih =>
    simp only [feedsWithin, Nat.lt_irrefl, and_false, ↓reduceIte, Nat.zero_sub, ih]

/-- The line feeds of what stands before count as a whole. -/
theorem feedsWithin_append (before after : List Char) (count : Nat) :
    feedsWithin (before ++ after) (byteLength before + count) =
      before.count '\n' + feedsWithin after count := by
  induction before with
  | nil => simp only [List.nil_append, byteLength_nil, Nat.zero_add, List.count_nil]
  | cons c rest ih =>
    have size := c.utf8Size_pos
    have left : byteLength (c :: rest) + count - c.utf8Size = byteLength rest + count := by
      rw [byteLength_cons]
      omega
    have present : 0 < byteLength (c :: rest) + count := by
      rw [byteLength_cons]
      omega
    simp only [List.cons_append, feedsWithin, left, present, and_true, ih, List.count_cons,
      beq_iff_eq]
    omega

/-- A piece without a line feed counts for nothing. -/
theorem feedsWithin_of_unbroken {own : List Char} (unbroken : '\n' ∉ own) (after : List Char)
    {count : Nat} (inside : count ≤ byteLength own) : feedsWithin (own ++ after) count = 0 := by
  induction own generalizing count with
  | nil =>
    rw [byteLength_nil, Nat.le_zero] at inside
    rw [inside, feedsWithin_zero]
  | cons c rest ih =>
    rw [List.mem_cons, not_or] at unbroken
    rw [byteLength_cons] at inside
    have later := ih unbroken.2 (show count - c.utf8Size ≤ byteLength rest by omega)
    simp only [List.cons_append, feedsWithin, Ne.symm unbroken.1, false_and, ↓reduceIte, later]

theorem feedsWithin_mono (text : List Char) {count more : Nat} (le : count ≤ more) :
    feedsWithin text count ≤ feedsWithin text more := by
  induction text generalizing count more with
  | nil => exact Nat.le_refl 0
  | cons c rest ih =>
    have later := ih (Nat.sub_le_sub_right le c.utf8Size)
    simp only [feedsWithin]
    by_cases counted : c = '\n' ∧ 0 < count
    · have also : c = '\n' ∧ 0 < more := ⟨counted.1, Nat.lt_of_lt_of_le counted.2 le⟩
      rw [if_pos counted, if_pos also]
      omega
    · rw [if_neg counted]
      omega

/-- Where an offset of the text goes when a carriage return is written before every line feed: on by
the number of line feeds before it. -/
def crlfPlacement (source : List Char) : Placement where
  place offset := offset + feedsWithin source offset
  ordered := fun {a b} before => by
    have feeds := feedsWithin_mono source (Nat.le_of_lt before)
    omega

/-- The offset behind a beginning of the text. -/
theorem place_crlfPlacement (before after : List Char) :
    (crlfPlacement (before ++ after)).place (byteLength before) = byteLength (crlf before) := by
  have feeds := feedsWithin_append before after 0
  rw [Nat.add_zero, feedsWithin_zero, Nat.add_zero] at feeds
  simp only [crlfPlacement, feeds, byteLength_crlf]

/-- The text ends where it is to end. -/
theorem place_byteLength (source : List Char) :
    (crlfPlacement source).place (byteLength source) = byteLength (crlf source) := by
  have place := place_crlfPlacement source []
  rwa [List.append_nil] at place

theorem place_zero (source : List Char) : (crlfPlacement source).place 0 = 0 := by
  simp only [crlfPlacement, feedsWithin_zero]

/-- Offsets slide inside a piece without a line feed. -/
theorem slides_crlfPlacement (before : List Char) {own : List Char} (after : List Char)
    (unbroken : '\n' ∉ own) :
    (crlfPlacement (before ++ (own ++ after))).Slides (byteLength own) (byteLength before)
      (byteLength (crlf before)) := by
  intro column inside
  have feeds := feedsWithin_append before (own ++ after) column
  rw [feedsWithin_of_unbroken unbroken after inside, Nat.add_comm (byteLength before)] at feeds
  simp only [crlfPlacement, feeds, byteLength_crlf]
  omega

end Text

open Text

/-- The ending with a carriage return before its line feed. -/
def Ending.crlf : Ending → Ending
  | .lineFeed => .returnLineFeed
  | ending => ending

namespace Line

/-- The line in the text with a carriage return before every line feed. -/
def crlf (placement : Placement) (line : Line) : Line where
  start := placement.place line.start
  content := line.content
  ending := line.ending.crlf

/-- A line without carriage returns whose offsets slide to those of the line with another ending. -/
structure Fits (placement : Placement) (line : Line) : Prop where
  unbroken : '\n' ∉ line.content
  plain : line.ending = .lineFeed ∨ line.ending = .endOfText
  slides : placement.Slides (byteLength line.content) line.start (placement.place line.start)
  stop : placement.place line.stop = (line.crlf placement).stop

/-- A raw line without a carriage return keeps all of its characters. -/
theorem ofRaw_of_plain {raw : List Char} (plain : '\r' ∉ raw) (start : Nat) (fed : Bool) :
    ofRaw start raw fed = ⟨start, raw, if fed then .lineFeed else .endOfText⟩ := by
  have content : Text.dropFinalReturn raw = raw :=
    if_neg fun returned => plain (List.mem_of_getLast? returned)
  cases fed <;> simp only [ofRaw, content, Nat.lt_irrefl, decide_false] <;> rfl

theorem ofRaw_append_return (start : Nat) (raw : List Char) :
    ofRaw start (raw ++ ['\r']) true = ⟨start, raw, .returnLineFeed⟩ := by
  have content : Text.dropFinalReturn (raw ++ ['\r']) = raw := by
    simp only [Text.dropFinalReturn, List.getLast?_concat, ↓reduceIte, List.dropLast_concat]
  simp only [ofRaw, content, List.length_append, List.length_singleton, Nat.lt_add_one,
    decide_true]

/-- A raw line with a carriage return before its line feed. -/
def rawCrlf (raw : List Char × Bool) : List Char × Bool :=
  (if raw.2 then raw.1 ++ ['\r'] else raw.1, raw.2)

theorem rawLines_crlf (text : List Char) :
    rawLines (Text.crlf text) = (rawLines text).map rawCrlf := by
  fun_induction rawLines text with
  | case1 => rfl
  | case2 rest ih =>
    have feed : rawLines ('\n' :: Text.crlf rest) = ([], true) :: rawLines (Text.crlf rest) := by
      rw [rawLines]
    change rawLines ('\r' :: '\n' :: Text.crlf rest) = _
    rw [rawLines, feed, ih]
    · rfl
    · decide
  | case3 c rest other none ih =>
    rw [crlf_cons_of_ne other, rawLines, ih, none]
    · rfl
    · exact other
  | case4 c rest other line fed later some ih =>
    rw [crlf_cons_of_ne other, rawLines, ih, some]
    · cases fed <;> rfl
    · exact other

/-- Raw lines with carriage returns are placed where their lines go. -/
theorem placeAll_rawCrlf {placement : Placement} {raws : List (List Char × Bool)} {start : Nat}
    (plain : ∀ raw ∈ raws, '\r' ∉ raw.1)
    (fits : ∀ line ∈ placeAll start raws, line.Fits placement) :
    placeAll (placement.place start) (raws.map rawCrlf) =
      (placeAll start raws).map (·.crlf placement) := by
  induction raws generalizing start with
  | nil => rfl
  | cons raw rest ih =>
    rcases raw with ⟨raw, fed⟩
    simp only [placeAll, List.forall_mem_cons] at fits plain
    have head : ofRaw (placement.place start) (rawCrlf (raw, fed)).1 fed =
        (ofRaw start raw fed).crlf placement := by
      rw [ofRaw_of_plain plain.1]
      cases fed with
      | false => exact ofRaw_of_plain plain.1 _ _
      | true => exact ofRaw_append_return _ _
    have later := ih plain.2 fits.2
    rw [fits.1.stop] at later
    simp only [List.map_cons, placeAll]
    change ofRaw (placement.place start) (rawCrlf (raw, fed)).1 fed ::
      placeAll (ofRaw (placement.place start) (rawCrlf (raw, fed)).1 fed).stop _ = _
    rw [head, later]

section Source

variable {source : List Char} {line : Line}

theorem chars_crlf {placement : Placement} (unbroken : '\n' ∉ line.content)
    (plain : line.ending = .lineFeed ∨ line.ending = .endOfText) :
    (line.crlf placement).chars = Text.crlf line.chars := by
  have ending : line.ending.crlf.chars = Text.crlf line.ending.chars := by
    rcases plain with ending | ending <;> rw [ending] <;> rfl
  rw [chars, chars, crlf_append, crlf_of_unbroken unbroken, ← ending]
  rfl

/-- Lines that fit make up the text with a carriage return before every line feed. -/
theorem text_crlf {placement : Placement} {lines : List Line}
    (fits : ∀ line ∈ lines, line.Fits placement) :
    text (lines.map (·.crlf placement)) = Text.crlf (text lines) := by
  induction lines with
  | nil => rfl
  | cons line rest ih =>
    rw [List.forall_mem_cons] at fits
    rw [List.map_cons, text_cons, text_cons, crlf_append, ih fits.2,
      chars_crlf fits.1.unbroken fits.1.plain]

/-- The lines of a text without carriage returns fit. -/
theorem fits_of_mem_split (plain : '\r' ∉ source) (member : line ∈ split source) :
    line.Fits (crlfPlacement source) := by
  obtain ⟨raw, listed, same⟩ := mem_placeAll member
  have characters := mem_of_mem_rawLines raw listed
  rw [ofRaw_of_plain fun returned => plain (characters _ returned).1] at same
  have unbroken := not_mem_content_of_mem_split member
  have ending : line.ending = .lineFeed ∨ line.ending = .endOfText := by
    rw [same]
    cases raw.2
    · exact .inr rfl
    · exact .inl rfl
  obtain ⟨first, rest, lines⟩ := List.append_of_mem member
  have joined := joined_split source
  rw [lines, joined_append, Nat.zero_add] at joined
  have start : line.start = byteLength (text first) := joined.2.1
  have whole : source = text first ++ (line.chars ++ text rest) := by
    rw [← text_split source, lines, text_append, text_cons]
  have place : (crlfPlacement source).place line.start = byteLength (Text.crlf (text first)) := by
    rw [start, whole, place_crlfPlacement]
  refine ⟨unbroken, ending, ?_, ?_⟩
  · rw [place, start, whole, chars, List.append_assoc]
    exact slides_crlfPlacement (text first) (line.ending.chars ++ text rest) unbroken
  · have stop := place_crlfPlacement (text first ++ line.chars) (text rest)
    rw [List.append_assoc, ← whole, byteLength_append, crlf_append, byteLength_append,
      ← start, ← place] at stop
    rw [stop_eq, stop, stop_eq, chars_crlf unbroken ending]
    rfl

/-- The lines of a text without carriage returns, once one is written before every line feed. -/
theorem split_crlf (plain : '\r' ∉ source) :
    split (Text.crlf source) = (split source).map (·.crlf (crlfPlacement source)) := by
  have plainRaws : ∀ raw ∈ rawLines source, '\r' ∉ raw.1 := fun raw listed returned =>
    plain (mem_of_mem_rawLines raw listed _ returned).1
  have fits : ∀ line ∈ placeAll 0 (rawLines source), line.Fits (crlfPlacement source) :=
    fun line member => fits_of_mem_split plain member
  rw [split, rawLines_crlf, ← place_zero source, split]
  exact placeAll_rawCrlf plainRaws fits

end Source

end Line

end DiagramAssist
