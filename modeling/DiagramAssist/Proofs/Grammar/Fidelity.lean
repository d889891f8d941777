import DiagramAssist.Proofs.Grammar.Geometry
import DiagramAssist.Proofs.Text.Slice

/-! # Nodes record what is written

Names, operators and the texts that are kept as they are written stand in the tree with their spans.
Slicing the source by such a span gives back what has been recorded, at every depth of the tree; a
string is recorded without its quotes, so its slice is the value between two of them.
-/

namespace DiagramAssist

open Outline

/-! ## What a node records -/

def Expression.records : Expression → List (Located String)
  | .binary _ operator _ _ => [⟨operator.value.spelling, operator.span⟩]
  | .call _ callee arguments _ => callee :: arguments.filterMap Argument.name
  | .identifier name span => [⟨name, span⟩]
  | .parenthesized .. | .string .. | .number .. => []

/-- The texts that a statement records as they are written, those of its parameters, expressions
and bodies apart. -/
def Statement.records : Statement → List (Located String)
  | .declaration name .. => [name]
  | .callable _ _ name .. => [name]
  | .inlineFunction _ name .. => [name]
  | .define name _ value _ => name :: value.toList
  | .defineLong name _ body _ => [name, body]
  | .inclusion content => content.target :: content.part.toList
  | .unknown directive recorded span => [directive, ⟨recorded, span⟩]
  | .text recorded span => [⟨recorded, span⟩]
  | .branch .. | .loop .. | .result .. | .call .. => []

def Node.records : Node → List (Located String)
  | .statement node => node.records
  | .parameter node => [node.name]
  | .expression node => node.records

/-! ## Records in an outline -/

def Part.record? : Part → Option String
  | .verbatim recorded => some recorded
  | .name recorded => some recorded
  | .operator recorded => some recorded.spelling
  | .construct | .quoted _ | .operation _ => none

/-- What the root of an outline records as it is written. -/
def Outline.record? : Outline → Option (Located String)
  | .mk part span _ => part.record?.map fun text => ⟨text, span⟩

theorem Part.toList_record? {part : Part} {text : List Char} {recorded : String}
    (spelled : part.Spelled text) (records : part.record? = some recorded) :
    recorded.toList = text := by
  cases part with
  | verbatim | operator =>
    cases records
    exact spelled
  | name =>
    cases records
    exact spelled.1
  | construct | quoted | operation => cases records

mutual

/-- What is below a node of an outline is below the outline. -/
theorem Outline.nodes_trans : {outline node part : Outline} → node ∈ outline.nodes →
    part ∈ node.nodes → part ∈ outline.nodes
  | .mk own span parts, node, part, member, below => by
    simp only [nodes, List.mem_cons] at member
    rcases member with rfl | member
    · exact below
    · simp only [nodes, List.mem_cons]
      exact .inr (Outline.nodesAll_trans member below)

theorem Outline.nodesAll_trans : {outlines : List Outline} → {node part : Outline} →
    node ∈ nodesAll outlines → part ∈ node.nodes → part ∈ nodesAll outlines
  | [], _, _, member, _ => by simp only [nodesAll, List.not_mem_nil] at member
  | outline :: rest, _, _, member, below => by
    simp only [nodesAll, List.mem_append] at member ⊢
    rcases member with first | later
    · exact .inl (Outline.nodes_trans first below)
    · exact .inr (Outline.nodesAll_trans later below)

end

/-- A record directly below the root of an outline. -/
theorem Outline.exists_record_of_mem_parts {part : Part} {span : Span} {parts : List Outline}
    {outline : Outline} {record : Located String} (member : outline ∈ parts)
    (records : outline.record? = some record) :
    ∃ node ∈ (Outline.mk part span parts).nodes, node.record? = some record := by
  refine ⟨outline, ?_, records⟩
  simp only [nodes, List.mem_cons, nodesAll_eq_flatMap, List.mem_flatMap]
  exact .inr ⟨outline, member, self_mem_nodes outline⟩

theorem Argument.exists_record {arguments : List Argument} {name : Located String}
    (member : name ∈ arguments.filterMap Argument.name) :
    ∃ node ∈ nodesAll (Argument.outlines arguments), node.record? = some name := by
  obtain ⟨argument, listed, named⟩ := List.mem_filterMap.mp member
  rcases argument with ⟨given, value, span⟩
  obtain rfl : given = some name := named
  obtain ⟨node, below, records⟩ : ∃ node ∈ (Argument.mk (some name) value span).outline.nodes,
      node.record? = some name := by
    rw [Argument.outline]
    exact exists_record_of_mem_parts (List.mem_append_left _ (List.mem_singleton_self _)) rfl
  refine ⟨node, ?_, records⟩
  rw [nodesAll_eq_flatMap, Argument.outlines_eq_map]
  exact List.mem_flatMap.mpr ⟨_, List.mem_map_of_mem listed, below⟩

theorem Expression.exists_record {expression : Expression} {record : Located String}
    (member : record ∈ expression.records) :
    ∃ node ∈ expression.outline.nodes, node.record? = some record := by
  cases expression with
  | binary left operator right span =>
    cases List.mem_singleton.mp member
    rw [Expression.outline]
    exact exists_record_of_mem_parts (List.mem_cons_of_mem _ List.mem_cons_self) rfl
  | call builtin callee arguments span =>
    rw [Expression.outline]
    rcases List.mem_cons.mp member with rfl | named
    · exact exists_record_of_mem_parts List.mem_cons_self rfl
    · obtain ⟨node, below, records⟩ := Argument.exists_record named
      refine ⟨node, ?_, records⟩
      simp only [nodes, nodesAll, List.mem_cons, List.mem_append]
      exact .inr (.inr below)
  | identifier name span =>
    cases List.mem_singleton.mp member
    rw [Expression.outline]
    exact ⟨_, self_mem_nodes _, rfl⟩
  | parenthesized | string | number => cases member

theorem Include.exists_record {content : Include} {record : Located String}
    (member : record ∈ content.target :: content.part.toList) :
    ∃ node ∈ content.outline.nodes, node.record? = some record := by
  have listed : record.textOutline ∈
      content.target.textOutline :: content.part.toList.map Located.textOutline := by
    rw [← List.map_cons]
    exact List.mem_map_of_mem member
  exact exists_record_of_mem_parts listed rfl

theorem Statement.exists_record {statement : Statement} {record : Located String}
    (member : record ∈ statement.records) :
    ∃ node ∈ statement.outline.nodes, node.record? = some record := by
  cases statement with
  | declaration name | callable _ _ name | inlineFunction _ name =>
    cases List.mem_singleton.mp member
    rw [Statement.outline]
    exact exists_record_of_mem_parts List.mem_cons_self rfl
  | define name parameters value span =>
    rw [Statement.outline]
    rcases List.mem_cons.mp member with rfl | valued
    · exact exists_record_of_mem_parts List.mem_cons_self rfl
    · have listed := List.mem_append_right (Parameter.outlinesOption parameters)
        (List.mem_map_of_mem (f := Located.textOutline) valued)
      exact exists_record_of_mem_parts (List.mem_cons_of_mem _ listed) rfl
  | defineLong name parameters body span =>
    rw [Statement.outline]
    rcases List.mem_cons.mp member with rfl | raw
    · exact exists_record_of_mem_parts (List.mem_append_left _ List.mem_cons_self) rfl
    · cases List.mem_singleton.mp raw
      exact exists_record_of_mem_parts (List.mem_append_right _ List.mem_cons_self) rfl
  | inclusion content =>
    rw [Statement.outline]
    exact Include.exists_record member
  | unknown directive text span =>
    rw [Statement.outline]
    rcases List.mem_cons.mp member with rfl | whole
    · exact exists_record_of_mem_parts List.mem_cons_self rfl
    · cases List.mem_singleton.mp whole
      exact ⟨_, self_mem_nodes _, rfl⟩
  | text text span =>
    cases List.mem_singleton.mp member
    rw [Statement.outline]
    exact ⟨_, self_mem_nodes _, rfl⟩
  | branch | loop | result | call => cases member

/-- Whatever a node records as it is written is recorded by a node of its outline. -/
theorem Node.exists_record {node : Node} {record : Located String}
    (member : record ∈ node.records) :
    ∃ part ∈ node.outline.nodes, part.record? = some record := by
  cases node with
  | statement statement => exact Statement.exists_record member
  | parameter parameter =>
    cases List.mem_singleton.mp member
    exact exists_record_of_mem_parts List.mem_cons_self rfl
  | expression expression => exact Expression.exists_record member

/-! ## Documents -/

section Documents

variable {source : String} {outline : Outline}

/-- A node of an outline that covers the source has the slice of its span. -/
theorem Outline.Covers.slice?_node (covers : outline.Covers 0 source.toList) {node : Outline}
    (member : node ∈ outline.nodes) :
    ∃ own place, node.Covers place own ∧
      node.span.slice? source = some (String.ofList own) := by
  obtain ⟨before, own, after, text, here⟩ := covers.node member
  rw [Nat.zero_add] at here
  exact ⟨own, _, here, Span.slice?_of_append text here.span_eq⟩

/-- What a node of an outline records is the slice of its span. -/
theorem Outline.Covers.slice?_record (covers : outline.Covers 0 source.toList) {node : Outline}
    (member : node ∈ outline.nodes) {record : Located String}
    (records : node.record? = some record) : record.span.slice? source = some record.value := by
  obtain ⟨own, place, here, slice⟩ := covers.slice?_node member
  rcases node with ⟨part, span, parts⟩
  simp only [Outline.record?, Option.map_eq_some_iff] at records
  obtain ⟨recorded, records, rfl⟩ := records
  simp only [Covers] at here
  have text : recorded.toList = own := Part.toList_record? here.1 records
  rwa [← text, String.ofList_toList] at slice

end Documents

/-- In a document that parses, at every depth: slicing the source by the span of a name, an operator
or a text that is kept as it is written gives back what has been recorded, and slicing it by the
span of a string gives the value between two equal quotes that it does not hold itself. -/
theorem parse_slices {source : String} {root : Root} (parsed : parse source = .ok root) :
    ∀ node ∈ root.nodes,
      (∀ record ∈ node.records, record.span.slice? source = some record.value) ∧
      ∀ value span, node = .expression (.string value span) →
        ∃ quote, (quote = '"' ∨ quote = '\'') ∧
          span.slice? source = some (String.ofList (quote :: (value.toList ++ [quote]))) ∧
          ∀ c ∈ value.toList, c ≠ quote ∧ c ≠ '\n' ∧ c ≠ '\r' := by
  intro node member
  have covers := covers_of_parse parsed
  have listed := Root.outline_mem_of_nodes member
  constructor
  · intro record recorded
    obtain ⟨part, below, records⟩ := Node.exists_record recorded
    exact covers.slice?_record (Outline.nodes_trans listed below) records
  · rintro value span rfl
    obtain ⟨own, place, here, slice⟩ := covers.slice?_node listed
    simp only [Node.outline, Expression.outline, Covers, Part.Spelled] at here
    obtain ⟨⟨quote, kind, rfl, clean⟩, -⟩ := here
    exact ⟨quote, kind, slice, clean⟩

/-- Names, an operator, a raw body and a value without the blanks around it, between characters of
two bytes. -/
theorem parse_slices_definitions :
    ∃ root, parse "é\n!$x = %f(n='ü') + $y\n!define A(p) ü \r\n!definelong B\nö\n!enddefinelong" =
        .ok root ∧
      ∀ node ∈ root.nodes, ∀ record ∈ node.records,
        record.span.slice?
            "é\n!$x = %f(n='ü') + $y\n!define A(p) ü \r\n!definelong B\nö\n!enddefinelong" =
          some record.value := by
  obtain ⟨root, parsed⟩ : ∃ root,
      parse "é\n!$x = %f(n='ü') + $y\n!define A(p) ü \r\n!definelong B\nö\n!enddefinelong" =
        .ok root := by
    decide +kernel
  exact ⟨root, parsed, fun node member => (parse_slices parsed node member).1⟩

end DiagramAssist
