import DiagramAssist.Proofs.Document.Nodes
import DiagramAssist.Proofs.Grammar.Assembly
import DiagramAssist.Proofs.Grammar.LineSpelling
import DiagramAssist.Proofs.Line.Joined
import DiagramAssist.Proofs.Text.Slice

/-! # The geometry of spans

The outline of a statement covers a piece of the text of its lines: what a line says stands in the
line, and a block runs from the `!` of its first line to the end of its closing word. So the outline
of a document covers its source, and every node of it lies inside its parent, behind the nodes
before it and between two characters of the source.
-/

namespace DiagramAssist

open Grammar Outline

section Pieces

variable {line : Line}

/-- What a passage over the content of a line leaves of the line. -/
theorem Line.chars_of_passes {taken : List Char} {later : Cursor}
    (passes : Cursor.Passes ⟨0, line.content⟩ taken later) :
    line.chars = taken ++ (later.rest ++ line.ending.chars) := by
  have content : line.content = taken ++ later.rest := passes.rest
  rw [Line.chars, content, List.append_assoc]

/-- A statement on a line stands in the content of the line. -/
theorem Line.Says.inTurn_content {statement : Statement} (told : line.Says (.whole statement)) :
    InTurn [statement.outline] line.start line.content := by
  obtain ⟨found, next, read, same⟩ := told
  obtain ⟨taken, passes, stands⟩ := spells_reading _ read
  have content : line.content = taken ++ next.rest := passes.rest
  rw [content]
  cases found with
  | opens start header => cases same
  | whole statement =>
    cases same
    have shifted := InTurn.shiftAll line.start stands
    rw [shiftAll, shiftAll, ← Statement.outline_shift, Nat.zero_add] at shifted
    exact shifted.extend _

theorem Line.Says.inTurn {statement : Statement} (told : line.Says (.whole statement)) :
    InTurn [statement.outline] line.start line.chars :=
  told.inTurn_content.extend line.ending.chars

theorem Grammar.Header.outlines_shift (distance : Nat) (header : Header) :
    (header.shift distance).outlines = shiftAll distance header.outlines := by
  cases header <;>
    simp only [Header.shift, Header.outlines, shiftAll, Located.nameOutline_shift,
      Parameter.outlines_shift, Parameter.outlinesOption_shift, Expression.outline_shift]

/-- A block that a line opens starts in the content of the line, with what its header holds behind
it. -/
theorem Line.Says.opens {start : Nat} {header : Header} (told : line.Says (.opens start header)) :
    ∃ before after, line.content = before ++ after ∧
      start = line.start + Text.byteLength before ∧ InTurn header.outlines start after := by
  obtain ⟨found, next, read, same⟩ := told
  obtain ⟨taken, passes, stands⟩ := spells_reading _ read
  cases found with
  | whole statement => cases same
  | opens column header =>
    cases same
    obtain ⟨before, after, rfl, rfl, inTurn⟩ := stands
    have content : line.content = before ++ after ++ next.rest := passes.rest
    refine ⟨before, after ++ next.rest, ?_, ?_, ?_⟩
    · rw [content, List.append_assoc]
    · rw [Nat.zero_add, Nat.add_comm]
    · rw [Header.outlines_shift]
      exact (InTurn.shiftAll line.start inTurn).extend _

/-- A closing word is read from the mark of its directive on. -/
theorem mark_of_closingWord? {word : Located String} {behind : Cursor}
    (found : closingWord? line = some (word, behind)) :
    ∃ blanks mark, Cursor.Passes ⟨0, line.content⟩ blanks mark ∧
      mark.Passes ('!' :: word.value.toList) behind ∧
      word.span = (Span.between mark.column behind.column).shift line.start := by
  simp only [closingWord?] at found
  split at found
  · next closing next read =>
    simp only [Option.some.injEq, Prod.mk.injEq] at found
    obtain ⟨rfl, rfl⟩ := found
    obtain ⟨blanks, mark, text, lead, own, rfl⟩ := passes_of_closingWord read
    refine ⟨blanks, mark, lead, ?_, rfl⟩
    rw [Located.value_shift, String.toList_ofList]
    exact own
  · cases found

/-- Where a closing word stands in its line. -/
theorem passes_of_closingWord? {word : Located String} {behind : Cursor}
    (found : closingWord? line = some (word, behind)) :
    ∃ before own, own = '!' :: word.value.toList ∧
      Cursor.Passes ⟨0, line.content⟩ (before ++ own) behind ∧
      word.span = .between (line.start + Text.byteLength before)
        (line.start + Text.byteLength before + Text.byteLength own) := by
  obtain ⟨blanks, mark, lead, own, span⟩ := mark_of_closingWord? found
  refine ⟨blanks, _, rfl, lead.trans own, ?_⟩
  rw [span, Span.shift_between, own.column, lead.column]
  simp only [Nat.zero_add, Nat.add_comm line.start, Nat.add_right_comm]

theorem Line.Turns.places {word : Located String} (turns : line.Turns word) :
    ∃ before own after, own = '!' :: word.value.toList ∧
      line.content = before ++ (own ++ after) ∧
      word.span = .between (line.start + Text.byteLength before)
        (line.start + Text.byteLength before + Text.byteLength own) := by
  obtain ⟨behind, found⟩ := turns
  obtain ⟨before, own, spelled, passes, span⟩ := passes_of_closingWord? found
  have content : line.content = before ++ own ++ behind.rest := passes.rest
  refine ⟨before, own, behind.rest, spelled, ?_, span⟩
  rw [content, List.append_assoc]

/-- The condition of a further clause stands behind the word that starts the clause. -/
theorem Line.Asks.places {word : Located String} {condition : Expression}
    (asks : line.Asks word condition) :
    ∃ before own after, line.chars = before ++ (own ++ after) ∧
      word.span.start = line.start + Text.byteLength before ∧
      InTurn [condition.outline]
        (line.start + Text.byteLength before + Text.byteLength own) after := by
  obtain ⟨behind, found, next, turns, read, rfl⟩ := asks
  obtain ⟨before, own, -, passes, span⟩ := passes_of_closingWord? turns
  obtain ⟨taken, holds, inTurn⟩ := spells_conditionRest _ _ read
  refine ⟨before, own, taken ++ (next.rest ++ line.ending.chars), ?_, ?_, ?_⟩
  · rw [Line.chars_of_passes (passes.trans holds)]
    simp only [List.append_assoc]
  · rw [span, Span.start_between_of_le (Nat.le_add_right ..)]
  · have shifted := InTurn.shiftAll line.start inTurn
    have column : behind.column + line.start =
        line.start + Text.byteLength before + Text.byteLength own := by
      rw [passes.column, Text.byteLength_append, Nat.zero_add, Nat.add_comm, Nat.add_assoc]
    rw [shiftAll, shiftAll, ← Expression.outline_shift, column] at shifted
    exact shifted.extend _

end Pieces

theorem Outline.covers_construct {outlines : List Outline} {start stop : Nat} {text : List Char}
    (ends : stop = start + Text.byteLength text) (inTurn : InTurn outlines start text) :
    (Outline.mk .construct (.between start stop) outlines).Covers start text := by
  simp only [Covers, Part.Spelled, true_and]
  exact ⟨by rw [ends], inTurn⟩

theorem Statement.outlines_append (first second : List Statement) :
    Statement.outlines (first ++ second) =
      Statement.outlines first ++ Statement.outlines second := by
  simp only [Statement.outlines_eq_map, List.map_append]

theorem ElseIf.outlines_append (first second : List ElseIf) :
    ElseIf.outlines (first ++ second) = ElseIf.outlines first ++ ElseIf.outlines second := by
  simp only [ElseIf.outlines_eq_map, List.map_append]

/-- The body of a raw block is the text of its lines up to the ending of the last one. -/
theorem inTurn_raw {start : Nat} {lines : List Line} (joined : Line.Joined start lines) :
    InTurn [Located.textOutline ⟨String.ofList (rawText lines.reverse),
      .between start (rawStop start lines.reverse)⟩] start (Line.text lines) := by
  obtain ⟨tail, text, stops⟩ : ∃ tail, Line.text lines = rawText lines.reverse ++ tail ∧
      rawStop start lines.reverse = start + Text.byteLength (rawText lines.reverse) := by
    rcases List.eq_nil_or_concat lines with rfl | ⟨earlier, last, rfl⟩
    · exact ⟨[], rfl, rfl⟩
    · rw [List.concat_eq_append] at joined ⊢
      have place : last.start = start + Text.byteLength (Line.text earlier) :=
        (Line.joined_append.mp joined).2.1
      rw [List.reverse_append, List.reverse_singleton, List.singleton_append]
      simp only [rawStop, rawText, List.reverse_reverse, Line.text_append, Line.text_cons,
        Line.text_nil, List.append_nil, Line.contentStop, Line.chars, Text.byteLength_append]
      refine ⟨last.ending.chars, (List.append_assoc ..).symm, ?_⟩
      rw [place, Nat.add_assoc]
      rfl
  rw [text, stops]
  exact (Located.covers_textOutline _ start).inTurn.extend tail

/-- A block that starts in its opening line and stops behind `middle`, the text of what is inside
and of its closing word. -/
theorem inTurn_block {opener : Line} {start stop offset : Nat} {header : Header}
    {body : List Outline} {text middle : List Char} (after : List Char)
    (opens : opener.Says (.opens start header)) (place : opener.start = offset)
    (inside : InTurn body (offset + Text.byteLength opener.chars) middle)
    (stops : stop = offset + Text.byteLength opener.chars + Text.byteLength middle)
    (whole : text = opener.chars ++ (middle ++ after)) :
    InTurn [Outline.mk .construct (.between start stop) (header.outlines ++ body)] offset text := by
  obtain ⟨before, tail, content, rfl, parts⟩ := opens.opens
  have parts := parts.extend opener.ending.chars
  have chars : opener.chars = before ++ (tail ++ opener.ending.chars) := by
    rw [Line.chars, content, List.append_assoc]
  generalize tail ++ opener.ending.chars = tail at parts chars
  rw [place] at parts ⊢
  rw [chars, Text.byteLength_append, ← Nat.add_assoc] at inside stops
  rw [whole, chars, List.append_assoc, ← List.append_assoc tail]
  refine InTurn.skip (.extend (Covers.inTurn (covers_construct ?_ (parts.append inside))) after)
  rw [stops, Text.byteLength_append, ← Nat.add_assoc]

/-- The place of a closing word on a line at `offset`. -/
theorem Line.Turns.places_of_start {line : Line} {word : Located String} {offset : Nat}
    (turns : line.Turns word) (place : line.start = offset) :
    ∃ before own after, line.chars = before ++ (own ++ after) ∧
      word.span.start = offset + Text.byteLength before ∧
      word.span.stop = offset + Text.byteLength (before ++ own) := by
  obtain ⟨before, own, after, -, content, span⟩ := turns.places
  refine ⟨before, own, after ++ line.ending.chars, ?_, ?_, ?_⟩
  · rw [Line.chars, content, List.append_assoc, List.append_assoc]
  · rw [span, place, Span.start_between_of_le (Nat.le_add_right ..)]
  · rw [span, place, Span.stop_between_of_le (Nat.le_add_right ..), Text.byteLength_append,
      Nat.add_assoc]

/-- The inside of a block reaches up to the end of the word that closes the block. -/
theorem inTurn_closed {outlines : List Outline} {lines : List Line} {last : Line}
    {word : Located String} {offset : Nat} (inside : InTurn outlines offset (Line.text lines))
    (turns : last.Turns word)
    (place : last.start = offset + Text.byteLength (Line.text lines)) :
    ∃ middle after, Line.text (lines ++ [last]) = middle ++ after ∧
      word.span.stop = offset + Text.byteLength middle ∧ InTurn outlines offset middle := by
  obtain ⟨before, own, after, chars, -, stops⟩ := turns.places_of_start place
  refine ⟨Line.text lines ++ (before ++ own), after, ?_, ?_, inside.extend _⟩
  · simp only [Line.text_append, Line.text_cons, Line.text_nil, List.append_nil, chars,
      List.append_assoc]
  · rw [stops, Text.byteLength_append (Line.text lines), Nat.add_assoc]

mutual

/-- The outline of a statement covers a piece of the text of its lines. -/
theorem Statement.Made.inTurn : {statement : Statement} → {lines : List Line} →
    statement.Made lines → {offset : Nat} → Line.Joined offset lines →
    InTurn [statement.outline] offset (Line.text lines)
  | _, _, .line told, offset, joined => by
    rw [Line.text_cons, Line.text_nil, List.append_nil, ← joined.1]
    exact told.inTurn
  | _, _, .callable opens inside turns _, offset, joined => by
    obtain ⟨place, joined⟩ := Line.joined_cons.mp joined
    obtain ⟨joined, behind⟩ := Line.joined_append.mp joined
    obtain ⟨middle, after, text, stops, inTurn⟩ :=
      inTurn_closed (Statement.AllMade.inTurn inside joined) turns behind.1
    exact inTurn_block after opens place inTurn stops (by rw [Line.text_cons, text])
  | _, _, .loop opens inside turns _, offset, joined => by
    obtain ⟨place, joined⟩ := Line.joined_cons.mp joined
    obtain ⟨joined, behind⟩ := Line.joined_append.mp joined
    obtain ⟨middle, after, text, stops, inTurn⟩ :=
      inTurn_closed (Statement.AllMade.inTurn inside joined) turns behind.1
    exact inTurn_block after opens place inTurn stops (by rw [Line.text_cons, text])
  | _, _, .branch opens inside further ends, offset, joined => by
    obtain ⟨place, joined⟩ := Line.joined_cons.mp joined
    obtain ⟨joinedInner, joined⟩ := Line.joined_append.mp joined
    obtain ⟨joinedClauses, joinedEnding⟩ := Line.joined_append.mp joined
    obtain ⟨lead, own, after, text, starts, stops, alternate⟩ :=
      Statement.EndMade.inTurn ends joinedEnding
    have clauses := ElseIf.AllMade.inTurn further joinedClauses starts
    have consequent := Statement.AllMade.inTurn inside joinedInner
    rw [Text.byteLength_append, ← Nat.add_assoc] at stops
    rw [starts, Nat.add_assoc _ _ (Text.byteLength lead), ← Text.byteLength_append] at alternate
    refine inTurn_block after opens place (consequent.append (clauses.append alternate)) ?_ ?_
    · simp only [stops, Text.byteLength_append, Nat.add_assoc]
    · simp only [Line.text_cons, Line.text_append, text, List.append_assoc]
  | _, _, @Statement.Made.defineLong _ _ opener last inner _ opens _ _, offset, joined => by
    obtain ⟨place, joined⟩ := Line.joined_cons.mp joined
    obtain ⟨joined, behind⟩ := Line.joined_append.mp joined
    have opened : opener.stop = offset + Text.byteLength opener.chars := by
      rw [Line.stop_eq, place]
    have stops : last.contentStop =
        offset + Text.byteLength opener.chars +
          Text.byteLength (Line.text inner ++ last.content) := by
      rw [Line.contentStop, behind.1, Text.byteLength_append, Nat.add_assoc]
    rw [opened]
    refine inTurn_block last.ending.chars opens place ((inTurn_raw joined).extend _) stops ?_
    simp only [Line.text_cons, Line.text_append, Line.text_nil, List.append_nil, List.append_assoc]
    rfl

theorem Statement.AllMade.inTurn : {statements : List Statement} → {lines : List Line} →
    Statement.AllMade statements lines → {offset : Nat} → Line.Joined offset lines →
    InTurn (Statement.outlines statements) offset (Line.text lines)
  | _, _, .nil, _, _ => inTurn_nil
  | _, _, .behind earlier last, offset, joined => by
    obtain ⟨before, behind⟩ := Line.joined_append.mp joined
    rw [Statement.outlines_append, Line.text_append]
    exact (Statement.AllMade.inTurn earlier before).append (Statement.Made.inTurn last behind)

/-- The last clause runs up to the word behind it, so the blanks before that word count as its. -/
theorem ElseIf.AllMade.inTurn : {clauses : List ElseIf} → {lines : List Line} →
    {first next : Nat} → ElseIf.AllMade clauses lines first next → {offset : Nat} →
    Line.Joined offset lines → {lead : List Char} →
    next = offset + Text.byteLength (Line.text lines) + Text.byteLength lead →
    InTurn (ElseIf.outlines clauses) offset (Line.text lines ++ lead)
  | _, _, _, _, .nil _, _, _, _, _ => inTurn_nil
  | _, _, _, _, @ElseIf.AllMade.behind _ _ _ head lines inner word _ earlier asks _ inside next,
      offset, joined, lead, ends => by
    obtain ⟨joined, behind⟩ := Line.joined_append.mp joined
    obtain ⟨place, behind⟩ := Line.joined_cons.mp behind
    obtain ⟨before, own, after, chars, starts, condition⟩ := asks.places
    rw [place] at starts condition
    have clauses := ElseIf.AllMade.inTurn earlier joined starts
    have body := (Statement.AllMade.inTurn inside behind).extend lead
    rw [chars, Text.byteLength_append, Text.byteLength_append, ← Nat.add_assoc,
      ← Nat.add_assoc] at body
    have inTurn := InTurn.skip (condition.append body)
    have stops : next = offset + Text.byteLength (Line.text lines) + Text.byteLength before +
        Text.byteLength (own ++ (after ++ (Line.text inner ++ lead))) := by
      simp only [ends, Line.text_append, Line.text_cons, chars, Text.byteLength_append,
        Nat.add_assoc]
    have clause := (covers_construct stops inTurn).inTurn
    rw [Nat.add_assoc offset, ← Text.byteLength_append] at clause
    rw [ElseIf.outlines_append, starts, Nat.add_assoc offset, ← Text.byteLength_append]
    have whole : Line.text (lines ++ head :: inner) ++ lead =
        (Line.text lines ++ before) ++ (own ++ (after ++ (Line.text inner ++ lead))) := by
      simp only [Line.text_append, Line.text_cons, chars, List.append_assoc]
    rw [whole]
    exact clauses.append clause

theorem Statement.EndMade.inTurn : {alternate : Option (List Statement)} → {lines : List Line} →
    {start stop : Nat} → Statement.EndMade alternate lines start stop → {offset : Nat} →
    Line.Joined offset lines →
    ∃ lead own after, Line.text lines = lead ++ (own ++ after) ∧
      start = offset + Text.byteLength lead ∧ stop = offset + Text.byteLength (lead ++ own) ∧
      InTurn (Statement.outlinesOption alternate) start own
  | _, _, _, _, .plain turns _, offset, joined => by
    obtain ⟨before, own, after, chars, starts, stops⟩ := turns.places_of_start joined.1
    refine ⟨before, own, after, ?_, starts, stops, inTurn_nil⟩
    rw [Line.text_cons, Line.text_nil, List.append_nil, chars]
  | _, _, _, _, .alternate goesOn _ inside turns _, offset, joined => by
    obtain ⟨place, behind⟩ := Line.joined_cons.mp joined
    obtain ⟨before, own, rest, chars, starts, -⟩ := goesOn.places_of_start place
    obtain ⟨joined, behind⟩ := Line.joined_append.mp behind
    obtain ⟨middle, after, text, stops, inTurn⟩ :=
      inTurn_closed (Statement.AllMade.inTurn inside joined) turns behind.1
    refine ⟨before, own ++ rest ++ middle, after, ?_, starts, ?_, ?_⟩
    · rw [Line.text_cons, text, chars]
      simp only [List.append_assoc]
    · rw [stops, chars]
      simp only [Text.byteLength_append, Nat.add_assoc]
    · rw [starts]
      rw [chars, Text.byteLength_append] at inTurn
      exact InTurn.skip (by rwa [Nat.add_assoc])

end

/-- The outline of a document covers the source of the document. -/
theorem covers_of_parse {source : String} {root : Root} (parsed : parse source = .ok root) :
    root.outline.Covers 0 source.toList := by
  have inTurn := (allMade_of_parse parsed).inTurn (Line.joined_split source.toList)
  rw [Line.text_split] at inTurn
  have span : root.span = .between 0 (Text.byteLength source.toList) := by
    simp only [parse] at parsed
    split at parsed
    · cases parsed
      rfl
    · cases parsed
  rw [Root.outline, span]
  exact covers_construct (Nat.zero_add _).symm inTurn

/-- A node spans whole characters of the source and holds what is directly below it, one behind the
other. -/
structure Outline.WellPlaced (source : List Char) (node : Outline) : Prop where
  ordered : node.span.start ≤ node.span.stop
  bounded : node.span.stop ≤ Text.byteLength source
  starts : Text.IsBoundary source node.span.start
  stops : Text.IsBoundary source node.span.stop
  inside : ∀ part ∈ node.parts, node.span.start ≤ part.span.start ∧ part.span.stop ≤ node.span.stop
  inTurn : node.parts.Pairwise fun earlier later => earlier.span.stop ≤ later.span.start

/-- What covers a piece of the source is well placed in it. -/
theorem Outline.Covers.wellPlaced {node : Outline} {before own after : List Char}
    (covers : node.Covers (Text.byteLength before) own) :
    node.WellPlaced (before ++ (own ++ after)) := by
  have span := covers.span_eq
  have starts : node.span.start = Text.byteLength before := by
    rw [span, Span.start_between_of_le (Nat.le_add_right ..)]
  have stops : node.span.stop = Text.byteLength before + Text.byteLength own := by
    rw [span, Span.stop_between_of_le (Nat.le_add_right ..)]
  have inTurn : InTurn node.parts (Text.byteLength before) own := by
    rcases node with ⟨part, span, parts⟩
    simp only [Covers] at covers
    exact covers.2.2
  refine ⟨?_, ?_, ⟨before, own ++ after, rfl, starts.symm⟩, ⟨before ++ own, after, ?_, ?_⟩, ?_,
    inTurn.pairwise⟩
  · rw [starts, stops]
    exact Nat.le_add_right ..
  · rw [stops, Text.byteLength_append, Text.byteLength_append, ← Nat.add_assoc]
    exact Nat.le_add_right ..
  · rw [List.append_assoc]
  · rw [stops, Text.byteLength_append]
  · rw [starts, stops]
    exact inTurn.inside

/-- In a document that parses, every node is well placed: every statement, parameter and expression,
and every clause, argument, name, operator and recorded text below them. -/
theorem parse_wellPlaced {source : String} {root : Root} (parsed : parse source = .ok root) :
    (∀ node ∈ root.nodes, node.outline ∈ root.outline.nodes ∧ node.outline.span = node.span) ∧
      ∀ node ∈ root.outline.nodes, node.WellPlaced source.toList := by
  refine ⟨fun node member => ⟨Root.outline_mem_of_nodes member, node.span_outline⟩, ?_⟩
  intro node member
  obtain ⟨before, own, after, text, covers⟩ := (covers_of_parse parsed).node member
  rw [Nat.zero_add] at covers
  rw [text]
  exact covers.wellPlaced

/-- A branch with all its arms, behind and around characters of two bytes. -/
theorem parse_wellPlaced_branch :
    ∃ root, parse "é\n!if %f($a=\"é\") == 1\n!elseif 2\n!$x = 3\n!else\nü\n!endif" = .ok root ∧
      (∀ node ∈ root.nodes, node.outline ∈ root.outline.nodes ∧ node.outline.span = node.span) ∧
      ∀ node ∈ root.outline.nodes,
        node.WellPlaced
          "é\n!if %f($a=\"é\") == 1\n!elseif 2\n!$x = 3\n!else\nü\n!endif".toList := by
  obtain ⟨root, parsed⟩ : ∃ root,
      parse "é\n!if %f($a=\"é\") == 1\n!elseif 2\n!$x = 3\n!else\nü\n!endif" = .ok root := by
    decide +kernel
  exact ⟨root, parsed, parse_wellPlaced parsed⟩

end DiagramAssist
