import DiagramAssist.Proofs.Grammar.Subtrees
import DiagramAssist.Proofs.Text.Slice
import Mathlib.Data.List.Chain

/-! # Statements take whole lines

Every statement starts on its first line and stops on its last one, so it is parted from the
statement behind it in the same body by the ending of one line. No line is lost, and none is shared:
the text between two neighbours holds one line feed, and a statement that is no block holds none.
-/

namespace DiagramAssist

open Grammar Outline

/-! ## Where statements stand in their lines -/

namespace Line

/-- The lines stop at the offset `stop`, but for a rest of the last line with its ending. -/
def StopAt (lines : List Line) (offset stop : Nat) : Prop :=
  ∃ own trail last, text lines = own ++ (trail ++ last.ending.chars) ∧
    lines.getLast? = some last ∧ '\n' ∉ trail ∧ stop = offset + Text.byteLength own

variable {source : List Char} {offset stop : Nat} {last : Line} {lines more : List Line}

theorem StopAt.behind (stopAt : StopAt more (offset + Text.byteLength (text lines)) stop) :
    StopAt (lines ++ more) offset stop := by
  obtain ⟨own, trail, last, pieces, ends, unbroken, stops⟩ := stopAt
  refine ⟨text lines ++ own, trail, last, ?_, ?_, unbroken, ?_⟩
  · rw [text_append, pieces, List.append_assoc]
  · rw [List.getLast?_append, ends, Option.some_or]
  · rw [stops, Text.byteLength_append, Nat.add_assoc]

theorem StopAt.cons {line : Line}
    (stopAt : StopAt lines (offset + Text.byteLength line.chars) stop) :
    StopAt (line :: lines) offset stop := by
  have text : text [line] = line.chars := by rw [text_cons, text_nil, List.append_nil]
  rw [← text] at stopAt
  exact stopAt.behind

/-- A line may have anything behind the word that closes a block. -/
theorem Turns.stopAt {word : Located String} (turns : last.Turns word)
    (run : Run source offset [last]) : StopAt [last] offset word.span.stop := by
  obtain ⟨before, own, after, -, content, span⟩ := turns.places
  have unbroken := run.unbroken last (List.mem_singleton_self last)
  have place : last.start = offset := run.joined.1
  refine ⟨before ++ own, after, last, ?_, rfl, ?_, ?_⟩
  · rw [text_cons, text_nil, List.append_nil, chars, content]
    simp only [List.append_assoc]
  · intro feed
    apply unbroken
    rw [content]
    exact List.mem_append_right before (List.mem_append_right own feed)
  · rw [span, Span.stop_between_of_le (Nat.le_add_right ..), place, Text.byteLength_append,
      Nat.add_assoc]

/-- A raw block stops behind the content of its last line. -/
theorem stopAt_contentStop (run : Run source offset [last]) :
    StopAt [last] offset last.contentStop := by
  have place : last.start = offset := run.joined.1
  refine ⟨last.content, [], last, ?_, rfl, List.not_mem_nil, ?_⟩
  · rw [text_cons, text_nil, List.append_nil, List.nil_append, chars]
  · rw [contentStop, place]

end Line

/-- Where a statement stands in the text of its lines: behind `lead` on the first line, and before
`trail` on the last one. -/
structure Statement.Frames (statement : Statement) (offset : Nat) (lines : List Line)
    (lead own trail : List Char) (last : Line) : Prop where
  text : Line.text lines = lead ++ (own ++ (trail ++ last.ending.chars))
  ends : lines.getLast? = some last
  leads : '\n' ∉ lead
  trails : '\n' ∉ trail
  span : statement.span = .between (offset + Text.byteLength lead)
    (offset + Text.byteLength lead + Text.byteLength own)
  single : statement.isBlock = false → '\n' ∉ own

section Frames

variable {source : List Char} {offset : Nat} {statement : Statement} {lines : List Line}

/-- A statement that is said by a line stands in the content of the line. -/
theorem Line.Says.frames {line : Line} (told : line.Says (.whole statement))
    (run : Line.Run source offset [line]) :
    ∃ lead own trail last, statement.Frames offset [line] lead own trail last := by
  have inTurn := told.inTurn_content
  have unbroken := run.unbroken line (List.mem_singleton_self line)
  have place : line.start = offset := run.joined.1
  simp only [InTurn, and_true, place] at inTurn
  obtain ⟨lead, own, trail, content, covers⟩ := inTurn
  rw [content, List.mem_append, List.mem_append, not_or, not_or] at unbroken
  have span : statement.outline.span = statement.span := Node.span_outline (.statement statement)
  refine ⟨lead, own, trail, line, ?_, rfl, unbroken.1, unbroken.2.2, ?_, fun _ => unbroken.2.1⟩
  · rw [Line.text_cons, Line.text_nil, List.append_nil, Line.chars, content]
    simp only [List.append_assoc]
  · rw [← span, covers.span_eq]

/-- A block starts on the line that opens it and stops where the lines behind stop. -/
theorem Line.Says.frames_block {opener : Line} {start stop : Nat} {header : Header}
    (opens : opener.Says (.opens start header)) (run : Line.Run source offset (opener :: lines))
    (stopAt : Line.StopAt lines (offset + Text.byteLength opener.chars) stop)
    (span : statement.span = .between start stop) (block : statement.isBlock = true) :
    ∃ lead own trail last, statement.Frames offset (opener :: lines) lead own trail last := by
  obtain ⟨lead, tail, content, starts, -⟩ := opens.opens
  obtain ⟨own, trail, last, pieces, ends, trails, stops⟩ := stopAt
  have unbroken := run.unbroken opener List.mem_cons_self
  have place : opener.start = offset := run.joined.1
  have chars : opener.chars = lead ++ (tail ++ opener.ending.chars) := by
    rw [Line.chars, content, List.append_assoc]
  refine ⟨lead, tail ++ opener.ending.chars ++ own, trail, last, ?_, ?_, ?_, trails, ?_, ?_⟩
  · rw [Line.text_cons, pieces, chars]
    simp only [List.append_assoc]
  · rw [List.getLast?_cons, ends, Option.getD_some]
  · intro feed
    apply unbroken
    rw [content]
    exact List.mem_append_left tail feed
  · rw [span, starts, stops, place, chars]
    simp only [Text.byteLength_append, Nat.add_assoc]
  · intro single
    rw [block] at single
    cases single

theorem Statement.EndMade.stopAt {alternate : Option (List Statement)} {start stop : Nat}
    (ends : Statement.EndMade alternate lines start stop) (run : Line.Run source offset lines) :
    Line.StopAt lines offset stop := by
  cases ends with
  | plain turns closes => exact turns.stopAt run
  | alternate goesOn other inside turns closes =>
    have behind := run.tail.right
    exact (turns.stopAt behind).behind.cons

/-- A statement stands in its lines, from the first one to the last one. -/
theorem Statement.Made.frames (made : statement.Made lines) (run : Line.Run source offset lines) :
    ∃ lead own trail last, statement.Frames offset lines lead own trail last := by
  cases made with
  | line told => exact told.frames run
  | callable opens inside turns closes =>
    have stopAt := (turns.stopAt run.tail.right).behind
    exact opens.frames_block run stopAt rfl rfl
  | loop opens inside turns closes =>
    have stopAt := (turns.stopAt run.tail.right).behind
    exact opens.frames_block run stopAt rfl rfl
  | branch opens inside further ends =>
    have stopAt := (ends.stopAt run.tail.right.right).behind.behind
    exact opens.frames_block run stopAt rfl rfl
  | defineLong opens raw closes =>
    have stopAt := (Line.stopAt_contentStop run.tail.right).behind
    exact opens.frames_block run stopAt rfl rfl

end Frames

/-! ## Line feeds in and between statements -/

namespace Statement.Frames

variable {source : List Char} {offset : Nat} {statement earlier later : Statement}
  {lines more : List Line} {lead own trail lead' own' trail' : List Char} {last last' : Line}

theorem start (frames : statement.Frames offset lines lead own trail last) :
    statement.span.start = offset + Text.byteLength lead := by
  rw [frames.span, Span.start_between_of_le (Nat.le_add_right ..)]

theorem stop (frames : statement.Frames offset lines lead own trail last) :
    statement.span.stop = offset + Text.byteLength lead + Text.byteLength own := by
  rw [frames.span, Span.stop_between_of_le (Nat.le_add_right ..)]

/-- A statement that is no block holds no line feed. -/
theorem feeds_inside (frames : statement.Frames offset lines lead own trail last)
    (run : Line.Run source offset lines) (single : statement.isBlock = false) :
    Text.feedsBetween? source statement.span.start statement.span.stop = some 0 := by
  obtain ⟨before, after, whole, rfl⟩ := run.placed
  have pieces : source = (before ++ lead) ++ (own ++ (trail ++ last.ending.chars ++ after)) := by
    rw [whole, frames.text]
    simp only [List.append_assoc]
  have feeds := Text.feedsBetween?_append (before ++ lead) own
    (trail ++ last.ending.chars ++ after)
  rw [← pieces, Text.byteLength_append, List.count_eq_zero.mpr (frames.single single)] at feeds
  rwa [frames.start, frames.stop]

/-- One line feed stands between two statements that follow one another: the one at the end of the
last line of the first. -/
theorem feeds_between (first : earlier.Frames offset lines lead own trail last)
    (second : later.Frames (offset + Text.byteLength (Line.text lines)) more lead' own' trail'
      last')
    (run : Line.Run source offset (lines ++ more)) :
    Text.feedsBetween? source earlier.span.stop later.span.start = some 1 := by
  obtain ⟨before, after, whole, rfl⟩ := run.placed
  have fed : last.ending.chars.count '\n' = 1 :=
    (List.pairwise_append.mp run.fed).2.2 last (List.mem_of_getLast? first.ends) last'
      (List.mem_of_getLast? second.ends)
  -- Between the two stand the rest of a line, its ending and the start of the next line.
  have count : (trail ++ (last.ending.chars ++ lead')).count '\n' = 1 := by
    rw [List.count_append, List.count_append, List.count_eq_zero.mpr first.trails, fed,
      List.count_eq_zero.mpr second.leads]
  have pieces : source = (before ++ (lead ++ own)) ++
      ((trail ++ (last.ending.chars ++ lead')) ++
        (own' ++ (trail' ++ last'.ending.chars) ++ after)) := by
    rw [whole, Line.text_append, first.text, second.text]
    simp only [List.append_assoc]
  have feeds := Text.feedsBetween?_append (before ++ (lead ++ own))
    (trail ++ (last.ending.chars ++ lead')) (own' ++ (trail' ++ last'.ending.chars) ++ after)
  rw [← pieces, count] at feeds
  have stops : earlier.span.stop = Text.byteLength (before ++ (lead ++ own)) := by
    rw [first.stop]
    simp only [Text.byteLength_append, Nat.add_assoc]
  have starts : later.span.start = Text.byteLength (before ++ (lead ++ own)) +
      Text.byteLength (trail ++ (last.ending.chars ++ lead')) := by
    rw [second.start, first.text]
    simp only [Text.byteLength_append, Nat.add_assoc]
  rw [stops, starts]
  exact feeds

end Statement.Frames

/-- One line feed stands between each statement and the one behind it. -/
def Statement.OnePerLine (source : List Char) (statements : List Statement) : Prop :=
  statements.IsChain fun earlier later =>
    Text.feedsBetween? source earlier.span.stop later.span.start = some 1

namespace Statement.AllMade

variable {source : List Char} {offset : Nat} {statements : List Statement} {lines : List Line}

theorem lines_eq_nil (made : AllMade [] lines) : lines = [] := by
  generalize none : ([] : List Statement) = statements at made
  cases made with
  | nil => rfl
  | behind earlier last =>
    obtain ⟨-, absurd⟩ := List.nil_eq_append_iff.mp none
    cases absurd

/-- The lines of the first statement come first. -/
theorem uncons : {statements : List Statement} → {lines : List Line} → AllMade statements lines →
    {first : Statement} → {rest : List Statement} → statements = first :: rest →
    ∃ own later, lines = own ++ later ∧ first.Made own ∧ AllMade rest later
  | _, _, .nil, _, _, whole => by cases whole
  | _, _, @behind [] last lines more earlier made, _, _, whole => by
    cases whole
    rw [earlier.lines_eq_nil]
    exact ⟨more, [], (List.append_nil _).symm, made, .nil⟩
  | _, _, @behind (head :: tail) last lines more earlier made, _, _, whole => by
    cases whole
    obtain ⟨own, later, rfl, opened, behind⟩ := earlier.uncons rfl
    exact ⟨own, later ++ more, List.append_assoc .., opened, .behind behind made⟩

/-- There are statements wherever there are lines. -/
theorem eq_nil_iff (made : AllMade statements lines) : statements = [] ↔ lines = [] := by
  constructor
  · rintro rfl
    exact made.lines_eq_nil
  · rintro rfl
    cases statements with
    | nil => rfl
    | cons first rest =>
      obtain ⟨own, later, none, opened, -⟩ := made.uncons rfl
      obtain ⟨rfl, -⟩ := List.nil_eq_append_iff.mp none
      cases opened

/-- Statements made of lines that follow one another take whole lines. -/
theorem onePerLine (made : AllMade statements lines) (run : Line.Run source offset lines) :
    OnePerLine source statements := by
  induction statements generalizing lines offset with
  | nil => exact .nil
  | cons first rest ih =>
    obtain ⟨own, later, rfl, opened, behind⟩ := made.uncons rfl
    have chain := ih behind run.right
    cases rest with
    | nil => exact .singleton first
    | cons second rest =>
      obtain ⟨own', later', rfl, next, -⟩ := behind.uncons rfl
      rw [← List.append_assoc] at run
      obtain ⟨_, _, _, _, frames⟩ := opened.frames run.left.left
      obtain ⟨_, _, _, _, frames'⟩ := next.frames run.left.right
      exact .cons_cons (frames.feeds_between frames' run.left) chain

/-- The first statement starts on the first line. -/
theorem feeds_before (made : AllMade statements (Line.split source)) {first : Statement}
    (heads : first ∈ statements.head?) :
    Text.feedsBetween? source 0 first.span.start = some 0 := by
  obtain ⟨rest, rfl⟩ := List.head?_eq_some_iff.mp heads
  obtain ⟨lines, later, whole, opened, -⟩ := made.uncons rfl
  have run := Line.run_split source
  rw [whole] at run
  obtain ⟨lead, own, trail, last, frames⟩ := opened.frames run.left
  have pieces : source =
      [] ++ (lead ++ (own ++ (trail ++ last.ending.chars) ++ Line.text later)) := by
    rw [← Line.text_split source, whole, Line.text_append, frames.text]
    simp only [List.append_assoc, List.nil_append]
  have feeds := Text.feedsBetween?_append [] lead
    (own ++ (trail ++ last.ending.chars) ++ Line.text later)
  rw [← pieces, List.count_eq_zero.mpr frames.leads] at feeds
  rw [frames.start]
  exact feeds

/-- Nothing but the rest of the last line stands behind the last statement. -/
theorem feeds_behind (made : AllMade statements (Line.split source)) {final : Statement}
    (ends : final ∈ statements.getLast?) :
    Text.feedsBetween? source final.span.stop (Text.byteLength source) = some 0 ∨
      Text.feedsBetween? source final.span.stop (Text.byteLength source) = some 1 ∧
        source.getLast? = some '\n' := by
  have run := Line.run_split source
  have text := Line.text_split source
  generalize Line.split source = lines at made run text
  cases made with
  | nil => cases ends
  | @behind statements _ lines more earlier made =>
    rw [List.getLast?_concat] at ends
    cases ends
    obtain ⟨lead, own, trail, last, frames⟩ := made.frames run.right
    have pieces : source = (Line.text lines ++ (lead ++ own)) ++ (trail ++ last.ending.chars) := by
      rw [← text, Line.text_append, frames.text]
      simp only [List.append_assoc]
    have feeds := Text.feedsBetween?_append (Line.text lines ++ (lead ++ own))
      (trail ++ last.ending.chars) []
    rw [List.append_nil] at feeds
    have stops : final.span.stop = Text.byteLength (Line.text lines ++ (lead ++ own)) := by
      rw [frames.stop, Nat.zero_add]
      simp only [Text.byteLength_append, Nat.add_assoc]
    rw [← Text.byteLength_append, ← pieces, ← stops, List.count_append,
      List.count_eq_zero.mpr frames.trails, Nat.zero_add] at feeds
    rcases last.count_ending with none | ⟨one, feed⟩
    · rw [none] at feeds
      exact .inl feeds
    · rw [one] at feeds
      refine .inr ⟨feeds, ?_⟩
      rw [pieces, List.getLast?_append, List.getLast?_append, feed, Option.some_or, Option.some_or]

end Statement.AllMade

/-- In a document that parses, the statements part the lines among them. There are none just if the
source is empty; the first one starts on the first line; each of the others starts on the line
behind the last line of the one before; and the last one stops on the last line. A statement that is
no block keeps to one line, and the statements of every body part the lines inside it likewise. -/
theorem parse_partition {source : String} {root : Root} (parsed : parse source = .ok root) :
    (root.statements = [] ↔ source = "") ∧
      (∀ first ∈ root.statements.head?,
        Text.feedsBetween? source.toList 0 first.span.start = some 0) ∧
      Statement.OnePerLine source.toList root.statements ∧
      (∀ last ∈ root.statements.getLast?,
        Text.feedsBetween? source.toList last.span.stop (Text.byteLength source.toList) = some 0 ∨
          Text.feedsBetween? source.toList last.span.stop (Text.byteLength source.toList) =
              some 1 ∧
            source.toList.getLast? = some '\n') ∧
      ∀ statement, .statement statement ∈ root.nodes →
        (statement.isBlock = false →
          Text.feedsBetween? source.toList statement.span.start statement.span.stop = some 0) ∧
        ∀ body ∈ statement.bodies, Statement.OnePerLine source.toList body := by
  have made := allMade_of_parse parsed
  refine ⟨?_, fun _ heads => made.feeds_before heads, made.onePerLine (Line.run_split _),
    fun _ ends => made.feeds_behind ends, ?_⟩
  · rw [made.eq_nil_iff, Line.split_eq_nil_iff, String.toList_eq_nil_iff]
  · intro statement member
    obtain ⟨own, inside, made⟩ := made.made_of_walkAll member
    obtain ⟨offset, run⟩ := Line.run_of_infix inside
    constructor
    · intro single
      obtain ⟨lead, own, trail, last, frames⟩ := made.frames run
      exact frames.feeds_inside run single
    · intro body listed
      obtain ⟨inner, piece, made⟩ := made.allMade_of_mem_bodies listed
      obtain ⟨offset, run⟩ := Line.run_of_infix (piece.trans inside)
      exact made.onePerLine run

/-- A block inside a block, a closing line with more on it and a raw body. -/
theorem parse_partition_nested :
    ∃ root, parse "!if 1\r\nA\n!while 1\nB\n!endwhile x\n!endif\n!definelong D\nr\n!enddefinelong" =
        .ok root ∧
      root.statements ≠ [] ∧
      ∀ statement, .statement statement ∈ root.nodes → ∀ body ∈ statement.bodies,
        Statement.OnePerLine
          "!if 1\r\nA\n!while 1\nB\n!endwhile x\n!endif\n!definelong D\nr\n!enddefinelong".toList
          body := by
  obtain ⟨root, parsed⟩ : ∃ root,
      parse "!if 1\r\nA\n!while 1\nB\n!endwhile x\n!endif\n!definelong D\nr\n!enddefinelong" =
        .ok root := by
    decide +kernel
  obtain ⟨empty, -, -, -, inside⟩ := parse_partition parsed
  refine ⟨root, parsed, fun none => ?_, fun statement member => (inside statement member).2⟩
  exact absurd (empty.mp none) (by decide)

end DiagramAssist
