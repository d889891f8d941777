import DiagramAssist.Proofs.Grammar.Persistence
import Mathlib.Logic.Relation

/-! # Closing the blocks that an error names

A text of whole lines that ends inside a block is reported for the innermost open block: the report
names the directive that the block waits for and starts where the block does. That directive, put on
a line behind the text, closes just this block (`Progress.step_closing`). What is open then is the
block around it, which starts further up, so closing one block after the other comes to an end, and
the end is a document that parses.
-/

namespace DiagramAssist

open Grammar

/-- The directives that close blocks. -/
def closingDirectives : List String :=
  ["!endif", "!endwhile", "!endfunction", "!endprocedure", "!enddefinelong"]

/-- The error is that a block is not closed: its message names the directive that is missing, and
its second label starts where the block does. -/
structure ParseError.Misses (error : ParseError) (closing : String) (start : Nat) : Prop where
  known : closing ∈ closingDirectives
  reported : ∃ primary secondary help,
    error.diagnostics = [⟨some .unterminatedBlock,
      "unterminated block: expected `" ++ closing ++ "`", [primary, secondary], some help⟩] ∧
    primary.primary = true ∧ secondary.primary = false ∧ secondary.span.start = start

/-- The directive that the error of a document misses is put on a line behind the document. -/
def Repairs (source repaired : String) : Prop :=
  ∃ error closing start, parse source = .error error ∧ error.Misses closing start ∧
    repaired = source ++ closing ++ "\n"

namespace Grammar

/-! ## The directive that closes a block -/

def OpenBlock.closingWord : OpenBlock → String
  | .callable kind .. => closer kind
  | .loop _ => "endwhile"
  | .consequent .. => "endif"
  | .elseIf .. => "endif"
  | .alternate .. => "endif"
  | .raw .. => "enddefinelong"

def OpenBlock.closing (block : OpenBlock) : String :=
  "!" ++ block.closingWord

theorem OpenBlock.awaited_eq (block : OpenBlock) : block.awaited = "`" ++ block.closing ++ "`" := by
  cases block with
  | callable kind unquoted name parameters => cases kind <;> rfl
  | _ => rfl

theorem OpenBlock.closingWord_mem (block : OpenBlock) : block.closingWord ∈
    ["endif", "endwhile", "endfunction", "endprocedure", "enddefinelong"] := by
  cases block with
  | callable kind unquoted name parameters => cases kind <;> simp [closingWord, closer]
  | _ => simp [closingWord]

theorem OpenBlock.closing_mem (block : OpenBlock) : block.closing ∈ closingDirectives :=
  List.mem_map_of_mem block.closingWord_mem

/-- A closing directive and a line feed are one line. -/
theorem split_closing (block : OpenBlock) :
    Line.split (block.closing ++ "\n").toList = [⟨0, block.closing.toList, .lineFeed⟩] := by
  have known := block.closing_mem
  generalize block.closing = closing at known ⊢
  simp only [closingDirectives, List.mem_cons, List.not_mem_nil, or_false] at known
  rcases known with rfl | rfl | rfl | rfl | rfl <;> decide +kernel

/-- A closing directive alone on its line is read as its word. -/
theorem exists_closingWord? (block : OpenBlock) (start : Nat) :
    ∃ found behind, closingWord? ⟨start, block.closing.toList, .lineFeed⟩ = some (found, behind) ∧
      found.value = block.closingWord := by
  have known := block.closingWord_mem
  simp only [OpenBlock.closing]
  generalize block.closingWord = word at known ⊢
  have read : closingWord ⟨0, ("!" ++ word).toList⟩ =
      .read ⟨word, .between 0 (word.length + 1)⟩ ⟨word.length + 1, []⟩ := by
    simp only [List.mem_cons, List.not_mem_nil, or_false] at known
    rcases known with rfl | rfl | rfl | rfl | rfl <;> decide +kernel
  refine ⟨Located.shift start ⟨word, .between 0 (word.length + 1)⟩, ⟨word.length + 1, []⟩, ?_, rfl⟩
  simp only [closingWord?, read]

/-- The word of a block closes the block, unless the block is raw and looks for no word. -/
theorem Frame.turn?_closingWord {frame : Frame} (plain : ¬frame.block.IsRaw) {word : Located String}
    (closes : word.value = frame.block.closingWord) :
    ∃ statement, frame.turn? word = some (.closes statement) := by
  obtain ⟨start, block, body⟩ := frame
  cases block with
  | callable kind unquoted name parameters => exact ⟨_, if_pos closes⟩
  | loop condition => exact ⟨_, if_pos closes⟩
  | consequent kind condition =>
    have value : word.value = "endif" := closes
    refine ⟨.branch kind condition body.reverse [] none (.between start word.span.stop), ?_⟩
    simp [Frame.turn?, value]
  | elseIf kind condition consequent clauses clauseStart clauseCondition =>
    have value : word.value = "endif" := closes
    refine ⟨.branch kind condition consequent (clauses ++
      [.mk clauseCondition body.reverse (.between clauseStart word.span.start)]) none
      (.between start word.span.stop), ?_⟩
    simp [Frame.turn?, value]
  | alternate kind condition consequent clauses => exact ⟨_, if_pos closes⟩
  | raw name parameters bodyStart lines => exact absurd ⟨_, _, _, _, rfl⟩ plain

/-- The directive that a block waits for, alone on its line, closes the block and nothing else. -/
theorem Progress.step_closing (finished : List Statement) (frame : Frame) (outer : List Frame)
    (start : Nat) :
    ∃ statement, Progress.step ⟨finished, frame :: outer⟩
      ⟨start, frame.block.closing.toList, .lineFeed⟩ =
        .ok (Progress.add statement ⟨finished, outer⟩) := by
  by_cases raw : frame.block.IsRaw
  · obtain ⟨name, parameters, bodyStart, lines, block⟩ := raw
    have closes : closesRaw frame.block.closing.toList = true := by
      have word : closesRaw ("!" ++ "enddefinelong").toList = true := by decide +kernel
      rw [block]
      exact word
    refine ⟨.defineLong name parameters
      ⟨String.ofList (rawText lines), .between bodyStart (rawStop bodyStart lines)⟩
      (.between frame.start (Line.contentStop ⟨start, frame.block.closing.toList, .lineFeed⟩)), ?_⟩
    rw [Progress.step_of_raw finished outer _ block, readRaw, if_pos closes]
  · obtain ⟨word, behind, read, value⟩ := exists_closingWord? frame.block start
    obtain ⟨statement, turn⟩ := Frame.turn?_closingWord raw value
    refine ⟨statement, ?_⟩
    rw [Progress.step_of_not_raw _ _ _ raw, read]
    simp only [turn, Turn.apply]

/-! ## Texts with open blocks -/

/-- A block stands further down than the block around it. -/
theorem Progress.Made.start_lt {finished : List Statement} {frame around : Frame}
    {outer : List Frame} {text : List Char}
    (made : Progress.Made ⟨finished, frame :: around :: outer⟩ (Line.split text)) :
    around.start < frame.start := by
  -- The lines that open the two blocks are among the lines of the text, one behind the other.
  have between {first second : Line} {header header' : Header} (listed : first ∈ Line.split text)
      (outside : first.Says (.opens around.start header))
      (inside : second.Says (.opens frame.start header'))
      (below : first.contentStop < second.start) : around.start < frame.start := by
    obtain ⟨blanks, rest, -, place⟩ := inside.mark
    have above := (start_lt_of_opens listed outside).1
    omega
  have placed := Line.pairwise_split text
  generalize Line.split text = lines at made placed between
  cases made with
  | @raw _ _ settled opened raws opener start name parameters body done stacked opens kept =>
    obtain ⟨first, member, header, outside⟩ := stacked.opener
    have within := (List.pairwise_append.mp placed).2.1
    refine between (by simp [member]) outside opens ?_
    exact (List.pairwise_append.mp within).2.2 first member _ List.mem_cons_self
  | @plain _ _ settled opened done stacked =>
    cases stacked with
    | @inner _ _ lines own stacked made =>
      obtain ⟨first, member, header, outside⟩ := stacked.opener
      obtain ⟨second, member', header', inside⟩ := made.opener
      have within := (List.pairwise_append.mp placed).2.1
      refine between (by simp [member]) outside inside ?_
      exact (List.pairwise_append.mp within).2.2 first member second member'

theorem misses_unterminated {frame : Frame} {stop : Nat} (behind : frame.start < stop) :
    ParseError.Misses ⟨[unterminated frame stop]⟩ frame.block.closing frame.start := by
  have message : (unterminated frame stop).message =
      "unterminated block: expected `" ++ frame.block.closing ++ "`" := by
    have named : (unterminated frame stop).message =
        "unterminated block" ++ ": " ++ ("expected " ++ frame.block.awaited) := rfl
    rw [named, OpenBlock.awaited_eq]
    simp only [← String.append_assoc]
    rfl
  have marks := marks_unterminated behind
  obtain ⟨help, helped⟩ := marks.helped
  have single : unterminated frame stop = ⟨some .unterminatedBlock,
      "unterminated block: expected `" ++ frame.block.closing ++ "`",
      [⟨true, .between stop (stop + 0), Fault.description .unterminatedBlock⟩,
        ⟨false, .between frame.start stop, "while parsing this"⟩], some help⟩ := by
    rw [← marks.charged, ← marks.labelled, ← helped, ← message]
  exact ⟨frame.block.closing_mem, _, _, help, congrArg ([·]) single, rfl, rfl,
    Span.start_between_of_le (Nat.le_of_lt behind)⟩

/-- The text is read up to its end, where `frame` is the innermost open block, inside of `outer`. -/
def Leaves (text : List Char) (frame : Frame) (outer : List Frame) : Prop :=
  ∃ finished, (Line.split text).foldlM Progress.step Progress.initial =
    .ok ⟨finished, frame :: outer⟩

variable {frame around : Frame} {outer : List Frame}

theorem Leaves.made {text : List Char} (leaves : Leaves text frame outer) :
    ∃ finished, Progress.Made ⟨finished, frame :: outer⟩ (Line.split text) := by
  obtain ⟨finished, run⟩ := leaves
  have initial : Progress.initial.Made ([] ++ []) := .plain .nil .nil
  exact ⟨finished, initial.run run⟩

theorem Leaves.start_lt {text : List Char} (leaves : Leaves text frame (around :: outer)) :
    around.start < frame.start := by
  obtain ⟨finished, made⟩ := leaves.made
  exact made.start_lt

/-- A text that leaves blocks open is reported for the innermost one. -/
theorem Leaves.misses {source : String} (leaves : Leaves source.toList frame outer) :
    ∃ error, parse source = .error error ∧ error.Misses frame.block.closing frame.start := by
  obtain ⟨finished, made⟩ := leaves.made
  obtain ⟨opener, member, header, opens⟩ := made.opener
  have behind := (start_lt_of_opens member opens).2
  refine ⟨_, parse_eq_error_iff.mpr ⟨_, ?_, rfl⟩, misses_unterminated behind⟩
  obtain ⟨finished, run⟩ := leaves
  exact statements_eq_error_iff.mpr (.inr ⟨finished, frame, outer, run, rfl⟩)

/-- The directive that the innermost open block waits for, on a line of its own behind a text of
whole lines, closes the block and leaves those around it open. -/
theorem Leaves.foldlM_closing {source : String} (whole : Line.AreWhole source.toList)
    (leaves : Leaves source.toList frame outer) :
    ∃ finished statement,
      (Line.split (source ++ frame.block.closing ++ "\n").toList).foldlM Progress.step
        Progress.initial = .ok (Progress.add statement ⟨finished, outer⟩) := by
  obtain ⟨finished, run⟩ := leaves
  obtain ⟨statement, closed⟩ := Progress.step_closing finished frame outer
    (0 + Text.byteLength source.toList)
  refine ⟨finished, statement, ?_⟩
  rw [String.append_assoc, String.toList_append, Line.split_append whole, split_closing,
    List.foldlM_append, run]
  exact congrArg (· >>= pure) closed

/-- Where no other block is open around it, closing the open block makes a document that parses. -/
theorem Leaves.parse_closing {source : String} (whole : Line.AreWhole source.toList)
    (leaves : Leaves source.toList frame []) :
    ∃ root, parse (source ++ frame.block.closing ++ "\n") = .ok root := by
  obtain ⟨finished, statement, run⟩ := leaves.foldlM_closing whole
  have found : statements (source ++ frame.block.closing ++ "\n").toList =
      .ok (statement :: finished).reverse := by
    rw [statements, run]
    rfl
  rw [parse, found]
  exact ⟨_, rfl⟩

/-- Closing a block leaves the block around it open, as it stands. -/
theorem Leaves.closing {source : String} (whole : Line.AreWhole source.toList)
    (leaves : Leaves source.toList frame (around :: outer)) :
    ∃ wider : Frame, Leaves (source ++ frame.block.closing ++ "\n").toList wider outer ∧
      wider.start = around.start := by
  obtain ⟨finished, statement, run⟩ := leaves.foldlM_closing whole
  exact ⟨{ around with body := statement :: around.body }, ⟨finished, run⟩, rfl⟩

theorem areWhole_closing (source closing : String) :
    Line.AreWhole (source ++ closing ++ "\n").toList := by
  refine .inr ?_
  rw [String.toList_append]
  exact List.getLast?_concat ..

/-- Closing one block after the other comes to a document that parses. -/
theorem Leaves.repaired {source : String} (whole : Line.AreWhole source.toList)
    (leaves : Leaves source.toList frame outer) :
    ∃ repaired root, Relation.ReflTransGen Repairs source repaired ∧ parse repaired = .ok root := by
  induction outer generalizing source frame with
  | nil =>
    obtain ⟨error, failed, misses⟩ := leaves.misses
    obtain ⟨root, parsed⟩ := leaves.parse_closing whole
    exact ⟨_, root, .single ⟨error, _, _, failed, misses, rfl⟩, parsed⟩
  | cons around outer ih =>
    obtain ⟨error, failed, misses⟩ := leaves.misses
    obtain ⟨wider, closed, -⟩ := leaves.closing whole
    obtain ⟨repaired, root, steps, parsed⟩ := ih (areWhole_closing ..) closed
    exact ⟨repaired, root, .head ⟨error, _, _, failed, misses, rfl⟩ steps, parsed⟩

end Grammar

/-- A block that is not closed is mended by the directive that the error names. Where a text that
ends with a line feed cannot be parsed for such a block, the message names the directive that closes
it. With this directive on a line behind it, the text parses, or it is a block that starts strictly
further up that is not closed; and repeating this comes to a text that parses. -/
theorem parse_error_repaired {source : String} {error : ParseError} {diagnostic : Diagnostic}
    {fault : Fault} (ended : source.toList.getLast? = some '\n')
    (failed : parse source = .error error) (reported : diagnostic ∈ error.diagnostics)
    (charged : diagnostic.fault = some fault) (code : fault.code = "E102") :
    (∃ closing start, error.Misses closing start ∧
      ((∃ root, parse (source ++ closing ++ "\n") = .ok root) ∨
        ∃ next closing' start', parse (source ++ closing ++ "\n") = .error next ∧
          next.Misses closing' start' ∧ start' < start)) ∧
    ∃ repaired root, Relation.ReflTransGen Repairs source repaired ∧ parse repaired = .ok root := by
  have whole : Line.AreWhole source.toList := .inr ended
  obtain ⟨found, unread, rfl⟩ := parse_eq_error_iff.mp failed
  rcases statements_eq_error_iff.mp unread with stopped | ⟨finished, frame, outer, run, -⟩
  -- A line is never reported for a block.
  · obtain ⟨line, -, reports⟩ := exists_reports_of_foldlM stopped
    obtain ⟨other, charged', plain, -⟩ := reports.fault
    cases List.mem_singleton.mp reported
    cases charged.symm.trans charged'
    exact absurd (@Fault.code_injective fault .unterminatedBlock code) plain
  · have leaves : Leaves source.toList frame outer := ⟨finished, run⟩
    obtain ⟨error, failed', misses⟩ := leaves.misses
    cases failed.symm.trans failed'
    refine ⟨⟨_, _, misses, ?_⟩, leaves.repaired whole⟩
    cases outer with
    | nil => exact .inl (leaves.parse_closing whole)
    | cons around outer =>
      obtain ⟨wider, closed, start⟩ := leaves.closing whole
      obtain ⟨next, failed, misses⟩ := closed.misses
      exact .inr ⟨next, _, _, failed, misses, start ▸ leaves.start_lt⟩

/-- An alternative inside a loop, with a raw block inside of it: the raw block is named first. -/
theorem parse_error_repaired_in_loop :
    ∃ error diagnostic,
      parse "!while 1\n!ifdef X\n!else\né\n!definelong A\n!endwhile\n" = .error error ∧
      error.diagnostics = [diagnostic] ∧
      diagnostic.message = "unterminated block: expected `!enddefinelong`" ∧
      ∃ repaired root, Relation.ReflTransGen Repairs
        "!while 1\n!ifdef X\n!else\né\n!definelong A\n!endwhile\n" repaired ∧
        parse repaired = .ok root := by
  have failed : parse "!while 1\n!ifdef X\n!else\né\n!definelong A\n!endwhile\n" =
      .error ⟨[⟨some .unterminatedBlock, "unterminated block: expected `!enddefinelong`",
        [⟨true, .between 51 51, "unterminated block"⟩,
          ⟨false, .between 27 51, "while parsing this"⟩],
        some "add the closing directive for this block"⟩]⟩ := by
    decide +kernel
  exact ⟨_, _, failed, rfl, rfl,
    (parse_error_repaired (by decide +kernel) failed List.mem_cons_self rfl rfl).2⟩

end DiagramAssist
