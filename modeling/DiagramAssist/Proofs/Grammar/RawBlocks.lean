import DiagramAssist.Proofs.Document.Extraction
import DiagramAssist.Proofs.Grammar.Fidelity
import DiagramAssist.Proofs.Grammar.Reports
import DiagramAssist.Proofs.Grammar.Subtrees
import DiagramAssist.Proofs.Grammar.Targets

/-! # Raw blocks

The body of a raw block is cut out of the source: it runs from the line behind the header up to the
first line that closes the block. Nothing of a document but the body itself lies in the body, since
of two nodes of an outline one lies below the other or they are apart, and only the body lies below
the block behind its header. So no symbol of a document comes out of a raw body.
-/

namespace DiagramAssist

open Grammar Outline Reader Text

/-- The span lies before the other one, behind it or around it, and does not touch it. -/
def Span.Clears (span other : Span) : Prop :=
  span.stop < other.start ∨ other.stop < span.start ∨
    (span.start < other.start ∧ other.stop < span.stop)

/-- No entry of the table comes out of the span. -/
structure SymbolTable.Clears (table : SymbolTable) (span : Span) : Prop where
  declarations : ∀ declaration ∈ table.declarations, declaration.span.Clears span
  callables : ∀ callable ∈ table.callables, callable.span.Clears span
  mentions : ∀ mention ∈ table.mentions, mention.span.Clears span
  includes : ∀ content ∈ table.includes, content.span.Clears span

/-! ## Lines that close a raw block -/

namespace Line

/-- The line holds, behind any white space, the closing word of a raw block, which no character of a
name follows. -/
def EndsRaw (line : Line) : Prop :=
  ∃ blanks rest, line.content = blanks ++ ("!enddefinelong".toList ++ rest) ∧
    blanks.all isBlank = true ∧ rest.head?.any isNameChar = false

theorem endsRaw_iff {line : Line} : line.EndsRaw ↔ closesRaw line.content = true := by
  constructor
  · rintro ⟨blanks, rest, content, blank, ends⟩
    have trimmed : trimStart line.content = "!enddefinelong".toList ++ rest := by
      rw [content, trimStart]
      exact (span_run blank rfl).2
    simp only [closesRaw, trimmed, Bool.and_eq_true, List.isPrefixOf_iff_prefix,
      List.prefix_append, List.drop_left, true_and]
    cases rest with
    | nil => rfl
    | cons c rest => simpa using ends
  · intro closes
    simp only [closesRaw, Bool.and_eq_true, List.isPrefixOf_iff_prefix] at closes
    obtain ⟨⟨rest, word⟩, ends⟩ := closes
    rw [← word, List.drop_left] at ends
    refine ⟨line.content.takeWhile isBlank, rest, ?_, List.all_takeWhile, ?_⟩
    · rw [word]
      exact (List.takeWhile_append_dropWhile ..).symm
    · cases rest with
      | nil => rfl
      | cons c rest => simpa using ends

theorem EndsRaw.start_lt {line : Line} (ends : line.EndsRaw) : line.start < line.contentStop := by
  obtain ⟨blanks, rest, content, -⟩ := ends
  refine Nat.lt_add_of_pos_right (byteLength_pos ?_)
  rw [content]
  exact List.append_ne_nil_of_right_ne_nil _ (List.append_ne_nil_of_left_ne_nil (by decide) _)

/-- A raw block with the given header, body and span, at its lines: what stands between the line
that opens it and the first line that closes it is its body, without the ending of the last line. -/
structure RawBlock (source : String) (opener : Line) (inner : List Line) (last : Line)
    (name : Located String) (parameters : Option (List Parameter)) (body : Located String)
    (span : Span) : Prop where
  opens : opener.Says (.opens span.start (.defineLong name parameters))
  listed : opener :: (inner ++ [last]) <:+: split source.toList
  starts : body.span.start = opener.stop
  stops : body.span.stop = (inner.getLast?.map contentStop).getD opener.stop
  sliced : body.span.slice? source = some body.value
  kept : ∀ line ∈ inner, ¬line.EndsRaw
  closes : last.EndsRaw
  ends : span.stop = last.contentStop

theorem contentStop_lt_stop {line : Line} (fed : line.ending.chars.count '\n' = 1) :
    line.contentStop < line.stop := by
  refine Nat.lt_add_of_pos_right (byteLength_pos fun none => ?_)
  rw [none] at fed
  cases fed

theorem rawStop_reverse (start : Nat) (lines : List Line) :
    rawStop start lines.reverse = (lines.getLast?.map contentStop).getD start := by
  rw [List.getLast?_eq_head?_reverse]
  cases lines.reverse <;> rfl

/-- A raw body starts with its lines and stops inside them. -/
theorem Joined.rawStop_inside {start : Nat} {lines : List Line} (joined : Joined start lines) :
    start ≤ rawStop start lines.reverse ∧
      rawStop start lines.reverse ≤ start + byteLength (text lines) := by
  have inside := (inTurn_raw joined).inside _ (List.mem_singleton_self _)
  simp only [Located.textOutline, Outline.span, Span.between] at inside
  omega

section Order

variable {source : List Char} {opener last : Line} {inner : List Line} {start : Nat}
  {header : Header}

/-- The offsets of a raw block in turn: its start, the end of its header, the start and the end of
its body, and its end. -/
theorem raw_order (listed : opener :: (inner ++ [last]) <:+: split source)
    (opens : opener.Says (.opens start header)) (closes : last.EndsRaw) :
    start < opener.contentStop ∧ opener.contentStop < opener.stop ∧
      opener.stop ≤ rawStop opener.stop inner.reverse ∧
      rawStop opener.stop inner.reverse < last.contentStop := by
  obtain ⟨offset, run⟩ := run_of_infix listed
  obtain ⟨place, behind⟩ := joined_cons.mp run.joined
  rw [← place, ← stop_eq] at behind
  obtain ⟨joined, ends⟩ := joined_append.mp behind
  have fed : opener.ending.chars.count '\n' = 1 :=
    (List.pairwise_cons.mp run.fed).1 last (List.mem_append_right _ (List.mem_singleton_self _))
  refine ⟨(start_lt_of_opens (listed.mem List.mem_cons_self) opens).1, contentStop_lt_stop fed,
    joined.rawStop_inside.1, ?_⟩
  calc rawStop opener.stop inner.reverse
      ≤ last.start := ends.1 ▸ joined.rawStop_inside.2
    _ < last.contentStop := closes.start_lt

end Order

/-- The body of a raw block lies inside the block, behind its header. -/
theorem RawBlock.around {source : String} {opener last : Line} {inner : List Line}
    {name body : Located String} {parameters : Option (List Parameter)} {span : Span}
    (block : RawBlock source opener inner last name parameters body span) :
    span.start < opener.contentStop ∧ opener.contentStop < body.span.start ∧
      body.span.stop < span.stop := by
  obtain ⟨starts, header, -, stops⟩ := raw_order block.listed block.opens block.closes
  rw [block.starts, block.stops, block.ends, ← rawStop_reverse]
  exact ⟨starts, header, stops⟩

end Line

section Documents

variable {source : String} {root : Root} {name body : Located String}
  {parameters : Option (List Parameter)} {span : Span}

theorem Statement.textOutline_mem_nodes (name body : Located String)
    (parameters : Option (List Parameter)) (span : Span) :
    body.textOutline ∈ (Statement.defineLong name parameters body span).outline.nodes := by
  simp only [Statement.outline, nodes, nodesAll_append, List.mem_cons, List.mem_append]
  exact .inr (.inr (List.mem_append_left _ (self_mem_nodes _)))

/-- A raw block of a document that parses, at its lines. -/
theorem exists_rawBlock_of_parse (parsed : parse source = .ok root)
    (member : .statement (.defineLong name parameters body span) ∈ root.nodes) :
    ∃ opener inner last, Line.RawBlock source opener inner last name parameters body span := by
  obtain ⟨lines, listed, made⟩ := (allMade_of_parse parsed).made_of_walkAll member
  have sliced : body.span.slice? source = some body.value :=
    (covers_of_parse parsed).slice?_record (Outline.nodes_trans
      (Root.outline_mem_of_nodes member) (Statement.textOutline_mem_nodes ..)) rfl
  cases made with
  | line told => cases told.isBlock
  | @defineLong _ _ opener last inner start opens raw closes =>
    have closes := Line.endsRaw_iff.mpr closes
    obtain ⟨starts, header, bodyStarts, stops⟩ := Line.raw_order listed opens closes
    exact ⟨opener, inner, last,
      { opens := by rwa [Span.start_between_of_le (by omega)]
        listed
        starts := Span.start_between_of_le bodyStarts
        stops := by rw [Span.stop_between_of_le bodyStarts, Line.rawStop_reverse]
        sliced
        kept := fun line inside ends => by
          rw [Line.endsRaw_iff, raw line inside] at ends
          cases ends
        closes
        ends := Span.stop_between_of_le (by omega) }⟩

/-- Nothing of a document but the body of a raw block itself touches the body. -/
theorem clears_of_parse (parsed : parse source = .ok root)
    (member : .statement (.defineLong name parameters body span) ∈ root.nodes) {node : Outline}
    (listed : node ∈ root.outline.nodes) (other : node ≠ body.textOutline) :
    node.span.Clears body.span := by
  obtain ⟨opener, inner, last, block⟩ := exists_rawBlock_of_parse parsed member
  obtain ⟨starts, header, stops⟩ := block.around
  have covers := covers_of_parse parsed
  have own := Node.span_outline (.statement (.defineLong name parameters body span))
  rw [Node.span, Statement.span] at own
  rcases covers.nested listed (Root.outline_mem_of_nodes member) with
    below | above | before | behind
  · rw [Node.outline, Statement.outline, nodes, nodesAll_append, List.mem_cons, List.mem_append]
      at below
    rcases below with rfl | inHeader | inBody
    · exact .inr (.inr ⟨by rw [Outline.span]; omega, stops⟩)
    · obtain ⟨before, after, content, place, inTurn⟩ := block.opens.opens
      have inside := (inTurn.inside_node inHeader).2
      have headerStop : opener.contentStop = span.start + byteLength after := by
        rw [Line.contentStop, content, byteLength_append, place, Nat.add_assoc]
      exact .inl (by omega)
    · rw [nodesAll, nodesAll, List.append_nil, Located.textOutline, nodes, nodesAll,
        List.mem_singleton] at inBody
      exact absurd inBody other
  · obtain ⟨text, place, here, -⟩ := covers.slice?_node listed
    have inside := here.inside_node above
    rw [own] at inside
    rw [here.span_eq]
    exact .inr (.inr (by simp only [Span.between]; omega))
  · rw [own] at before
    exact .inl (by omega)
  · rw [own] at behind
    exact .inr (.inl (by omega))

/-- In a document that parses, every raw block stands at its lines: its body is the text from the
line behind its header up to the first line that closes it, and ends without the ending of the last
line. And no symbol of the document comes out of the body. -/
theorem parse_rawBlocks (parsed : parse source = .ok root)
    (member : .statement (.defineLong name parameters body span) ∈ root.nodes) :
    (∃ opener inner last, Line.RawBlock source opener inner last name parameters body span) ∧
      (SymbolTable.extract root).Clears body.span := by
  have clears {node : Node} (listed : node ∈ root.nodes)
      (other : node.outline ≠ body.textOutline) : node.span.Clears body.span := by
    rw [← node.span_outline]
    exact clears_of_parse parsed member (Root.outline_mem_of_nodes listed) other
  refine ⟨exists_rawBlock_of_parse parsed member, ?_, ?_, ?_, ?_⟩
  · intro declaration entry
    obtain ⟨node, listed, found⟩ := List.mem_filterMap.mp entry
    cases Node.declaration?_eq_some_iff.mp found <;> exact clears listed nofun
  · intro callable entry
    obtain ⟨node, listed, found⟩ := List.mem_filterMap.mp entry
    cases Node.callable?_eq_some_iff.mp found <;> exact clears listed nofun
  · intro mention entry
    obtain ⟨node, listed, found⟩ := List.mem_filterMap.mp entry
    cases Node.mention?_eq_some_iff.mp found
    exact clears listed nofun
  · intro content entry
    obtain ⟨node, listed, found⟩ := List.mem_filterMap.mp entry
    cases Node.include?_eq_some_iff.mp found
    exact clears listed nofun

/-- Lines that look like directives, in a body that ends before a carriage return. -/
theorem parse_rawBlocks_directives :
    ∃ root name parameters body span,
      parse "!definelong A()\n!$é = 1\r\n!enddefinelongs\r\n\t!enddefinelong.\n!$x = y" =
        .ok root ∧
      .statement (.defineLong name parameters body span) ∈ root.nodes ∧
      body = ⟨"!$é = 1\r\n!enddefinelongs", .between 16 41⟩ ∧
      (∃ opener inner last, Line.RawBlock
        "!definelong A()\n!$é = 1\r\n!enddefinelongs\r\n\t!enddefinelong.\n!$x = y"
        opener inner last name parameters body span) ∧
      (SymbolTable.extract root).Clears body.span := by
  have shown : (parse
      "!definelong A()\n!$é = 1\r\n!enddefinelongs\r\n\t!enddefinelong.\n!$x = y").toOption.map
        (fun root => root.nodes.filterMap fun node =>
          node.callable?.map fun callable => (callable.kind, node.records)) =
      some [(.defineLong, [⟨"A", .between 12 13⟩,
        ⟨"!$é = 1\r\n!enddefinelongs", .between 16 41⟩])] := by
    decide +kernel
  cases parsed : parse
      "!definelong A()\n!$é = 1\r\n!enddefinelongs\r\n\t!enddefinelong.\n!$x = y" with
  | error diagnostic =>
    rw [parsed] at shown
    cases shown
  | ok root =>
    rw [parsed] at shown
    have found := List.mem_of_mem_head? (congrArg List.head? (Option.some.inj shown))
    obtain ⟨node, listed, records⟩ := List.mem_filterMap.mp found
    obtain ⟨callable, defined, same⟩ := Option.map_eq_some_iff.mp records
    cases Node.callable?_eq_some_iff.mp defined with
    | defineLong name parameters body span =>
      cases same
      exact ⟨root, _, some parameters, _, span, rfl, listed, rfl, parse_rawBlocks parsed listed⟩
    | _ => cases same

end Documents

end DiagramAssist
