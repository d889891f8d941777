import DiagramAssist.Proofs.Document.Routes
import DiagramAssist.Proofs.Grammar.Geometry

/-! # Walks that do not go everywhere

A walk that goes below some nodes only meets the nodes of the document in pre-order, those left out
that stand below a node it does not enter. What a walk meets has its outline among the nodes of the
document's outline in the same order, so in a document that parses a walk never meets a node that
starts before an earlier one does (`Root.walk_prunes`).
-/

namespace DiagramAssist

open Outline

/-! ## Outlines in the order of the text -/

/-- The first outline does not start behind the second one. -/
def Outline.NotBehind (first second : Outline) : Prop :=
  first.span.start ≤ second.span.start

section Order

variable {outline node : Outline} {outlines : List Outline} {start : Nat} {text : List Char}

theorem Outline.Covers.start_eq (covers : outline.Covers start text) :
    outline.span.start = start := by
  rw [covers.span_eq, Span.start_between_of_le (Nat.le_add_right ..)]

/-- What stands in a text does not start before the text. -/
theorem Outline.InTurn.start_le (inTurn : InTurn outlines start text)
    (member : node ∈ nodesAll outlines) : start ≤ node.span.start := by
  obtain ⟨before, own, after, -, covers⟩ := inTurn.node member
  rw [covers.start_eq]
  exact Nat.le_add_right ..

/-- What stands in a text does not start behind the text. -/
theorem Outline.Covers.start_le (covers : outline.Covers start text)
    (member : node ∈ outline.nodes) : node.span.start ≤ start + Text.byteLength text := by
  obtain ⟨before, own, after, rfl, stands⟩ := covers.node member
  rw [stands.start_eq, Text.byteLength_append]
  exact Nat.add_le_add_left (Nat.le_add_right ..) start

mutual

/-- The nodes of an outline that covers a text are in the order of the text. -/
theorem Outline.Covers.pairwise_nodes : {outline : Outline} → {start : Nat} → {text : List Char} →
    outline.Covers start text → outline.nodes.Pairwise NotBehind
  | .mk part span parts, start, text, covers => by
    have top : (Outline.mk part span parts).span.start = start := covers.start_eq
    simp only [Covers] at covers
    rw [nodes]
    refine .cons (fun node member => ?_) (Outline.InTurn.pairwise_nodesAll covers.2.2)
    rw [NotBehind, top]
    exact covers.2.2.start_le member

theorem Outline.InTurn.pairwise_nodesAll : {outlines : List Outline} → {start : Nat} →
    {text : List Char} → InTurn outlines start text → (nodesAll outlines).Pairwise NotBehind
  | [], _, _, _ => by
    rw [nodesAll]
    exact .nil
  | outline :: rest, start, text, inTurn => by
    simp only [InTurn] at inTurn
    obtain ⟨before, own, after, rfl, covers, behind⟩ := inTurn
    rw [nodesAll]
    refine List.pairwise_append.mpr ⟨Outline.Covers.pairwise_nodes covers,
      Outline.InTurn.pairwise_nodesAll behind, fun earlier first later second => ?_⟩
    exact Nat.le_trans (covers.start_le first) (behind.start_le second)

end

end Order

/-! ## The outlines of what a walk meets -/

section Sublists

variable {outline : Outline} {part : Part} {span : Span} {outlines parts : List Outline}

/-- What stands below some outlines stands below an outline that has them as parts. -/
theorem Outline.sublist_nodes (below : (nodesAll outlines).Sublist (nodesAll parts)) :
    (nodesAll outlines).Sublist (Outline.mk part span parts).nodes := by
  rw [nodes]
  exact below.cons _

theorem Argument.nodesAll_values_sublist (arguments : List Argument) :
    (nodesAll (arguments.map fun argument => argument.value.outline)).Sublist
      (nodesAll (Argument.outlines arguments)) := by
  induction arguments with
  | nil => exact .slnil
  | cons argument rest ih =>
    rcases argument with ⟨name, value, span⟩
    have own : (nodesAll [value.outline]).Sublist (Argument.mk name value span).outline.nodes := by
      rw [Argument.outline]
      refine sublist_nodes ?_
      rw [nodesAll_append]
      exact List.sublist_append_right _ _
    rw [nodesAll, nodesAll, List.append_nil] at own
    exact own.append ih

theorem ElseIf.nodesAll_children_sublist (clauses : List ElseIf) :
    (nodesAll ((clauses.flatMap ElseIf.children).map Node.outline)).Sublist
      (nodesAll (ElseIf.outlines clauses)) := by
  induction clauses with
  | nil => exact .slnil
  | cons clause rest ih =>
    rcases clause with ⟨condition, body, span⟩
    have own : (nodesAll ((ElseIf.mk condition body span).children.map Node.outline)).Sublist
        (ElseIf.mk condition body span).outline.nodes := by
      rw [ElseIf.outline, Statement.outlines_eq_map]
      refine sublist_nodes ?_
      simp only [ElseIf.children, ElseIf.condition, ElseIf.body, List.map_cons, List.map_map,
        List.singleton_append, Node.outline, Function.comp_def]
      exact List.Sublist.refl _
    rw [List.flatMap_cons, List.map_append, nodesAll_append, ElseIf.outlines, nodesAll]
    exact own.append ih

theorem Node.map_outline_parameters (parameters : List Parameter) :
    (parameters.map Node.parameter).map Node.outline = Parameter.outlines parameters := by
  rw [List.map_map]
  rfl

theorem Node.map_outline_statements (statements : List Statement) :
    (statements.map Node.statement).map Node.outline = Statement.outlines statements := by
  rw [List.map_map, Statement.outlines_eq_map]
  rfl

theorem Expression.nodesAll_children_sublist (expression : Expression) :
    (nodesAll (expression.children.map Node.outline)).Sublist
      (nodesAll expression.outline.parts) := by
  cases expression with
  | binary left operator right span =>
    simp only [Expression.children, List.map_cons, List.map_nil, Node.outline, Expression.outline,
      Outline.parts, nodesAll]
    exact (List.Sublist.refl _).append (List.sublist_append_right _ _)
  | parenthesized inner span =>
    simp only [Expression.children, List.map_cons, List.map_nil, Node.outline, Expression.outline,
      Outline.parts]
    exact .refl _
  | call builtin callee arguments span =>
    simp only [Expression.children, List.map_map, Function.comp_def, Node.outline,
      Expression.outline, Outline.parts, nodesAll]
    exact (Argument.nodesAll_values_sublist arguments).trans (List.sublist_append_right _ _)
  | string | number | identifier => exact List.nil_sublist _

theorem Parameter.nodesAll_children_sublist (parameter : Parameter) :
    (nodesAll (parameter.children.map Node.outline)).Sublist
      (nodesAll parameter.outline.parts) := by
  simp only [Parameter.children, List.map_map, Function.comp_def, Node.outline, Parameter.outline,
    Outline.parts, nodesAll]
  exact List.sublist_append_right _ _

theorem Statement.nodesAll_children_sublist (statement : Statement) :
    (nodesAll (statement.children.map Node.outline)).Sublist
      (nodesAll statement.outline.parts) := by
  cases statement with
  | declaration name initializer scope conditional span =>
    simp only [Statement.children, List.map_cons, List.map_nil, Node.outline, Statement.outline,
      Outline.parts, nodesAll]
    exact List.sublist_append_right _ _
  | callable kind unquoted name parameters body span =>
    simp only [Statement.children, List.map_append, Node.map_outline_parameters,
      Node.map_outline_statements, Statement.outline, Outline.parts, List.cons_append, nodesAll]
    exact List.sublist_append_right _ _
  | inlineFunction unquoted name parameters value span =>
    simp only [Statement.children, List.map_append, Node.map_outline_parameters, List.map_cons,
      List.map_nil, Node.outline, Statement.outline, Outline.parts, nodesAll]
    exact List.sublist_append_right _ _
  | define name parameters value span =>
    simp only [Statement.children, Node.map_outline_parameters, Statement.outline, Outline.parts,
      nodesAll, nodesAll_append, Parameter.outlinesOption]
    exact (List.sublist_append_left _ _).trans (List.sublist_append_right _ _)
  | defineLong name parameters body span =>
    simp only [Statement.children, Node.map_outline_parameters, Statement.outline, Outline.parts,
      nodesAll, nodesAll_append, Parameter.outlinesOption]
    exact (List.sublist_append_right _ _).trans (List.sublist_append_left _ _)
  | branch kind condition consequent elseIfs alternate span =>
    have last : Statement.outlines (alternate.getD []) = Statement.outlinesOption alternate := by
      cases alternate <;> rfl
    simp only [Statement.children, List.map_append, List.map_cons, Node.map_outline_statements,
      Node.outline, Statement.outline, Outline.parts, List.singleton_append, nodesAll,
      nodesAll_append, last]
    exact (List.Sublist.refl _).append ((List.Sublist.refl _).append
      ((ElseIf.nodesAll_children_sublist elseIfs).append (.refl _)))
  | loop condition body span =>
    simp only [Statement.children, List.map_cons, Node.map_outline_statements, Node.outline,
      Statement.outline, Outline.parts, List.singleton_append]
    exact .refl _
  | result value span =>
    simp only [Statement.children, List.map_cons, List.map_nil, Node.outline, Statement.outline,
      Outline.parts]
    exact .refl _
  | call expression span =>
    simp only [Statement.children, List.map_cons, List.map_nil, Node.outline, Statement.outline,
      Outline.parts]
    exact .refl _
  | inclusion | unknown | text => exact List.nil_sublist _

/-- The outlines of the children of a node stand below its own. -/
theorem Node.nodesAll_children_sublist (node : Node) :
    (nodesAll (node.children.map Node.outline)).Sublist (nodesAll node.outline.parts) := by
  cases node with
  | statement statement => exact statement.nodesAll_children_sublist
  | parameter parameter => exact parameter.nodesAll_children_sublist
  | expression expression => exact expression.nodesAll_children_sublist

/-- What a walk meets below some nodes stands below their outlines. -/
theorem Node.map_outline_flatMap_walk_sublist {enters : Node → Bool} {nodes : List Node}
    (each : ∀ node ∈ nodes, ((node.walk enters).map Node.outline).Sublist node.outline.nodes) :
    ((nodes.flatMap (Node.walk enters)).map Node.outline).Sublist
      (nodesAll (nodes.map Node.outline)) := by
  induction nodes with
  | nil => exact .slnil
  | cons node rest ih =>
    rw [List.forall_mem_cons] at each
    rw [List.flatMap_cons, List.map_append, List.map_cons, nodesAll]
    exact each.1.append (ih each.2)

/-- The outlines of the nodes that a walk meets are among those below the outline of the node where
it starts, in the same order. -/
theorem Node.map_outline_walk_sublist (enters : Node → Bool) (node : Node) :
    ((node.walk enters).map Node.outline).Sublist node.outline.nodes := by
  induction node using Node.induction with
  | step node ih =>
    have split : node.outline.nodes = node.outline :: nodesAll node.outline.parts := by
      rcases node.outline with ⟨part, span, parts⟩
      rw [Outline.nodes, Outline.parts]
    rw [Node.walk_eq, List.map_cons, split]
    refine List.Sublist.cons_cons _ ?_
    cases enters node with
    | true => exact (map_outline_flatMap_walk_sublist ih).trans node.nodesAll_children_sublist
    | false => exact List.nil_sublist _

theorem Root.map_outline_walk_sublist (enters : Node → Bool) (root : Root) :
    ((root.walk enters).map Node.outline).Sublist root.outline.nodes := by
  rw [Root.walk_eq, Root.outline, Outline.nodes, ← Node.map_outline_statements]
  exact (Node.map_outline_flatMap_walk_sublist fun node _ =>
    node.map_outline_walk_sublist enters).cons _

end Sublists

/-- The nodes of a document are met in pre-order, and of them a walk meets those above which it
refuses none. In a document that parses they start one behind the other. -/
theorem Root.walk_prunes (root : Root) (enters : Node → Bool) :
    InPreorder (fun route node => root.at? route = some node) root.nodes ∧
      InPreorder (fun route node => root.at? route = some node ∧ ¬ Hidden enters root.at? route)
        (root.walk enters) ∧
      ∀ source, parse source = .ok root →
        (root.walk enters).Pairwise fun earlier later => earlier.span.start ≤ later.span.start := by
  refine ⟨root.nodes_inPreorder, root.walk_inPreorder enters, fun source parsed => ?_⟩
  have ordered := (covers_of_parse parsed).pairwise_nodes.sublist
    (root.map_outline_walk_sublist enters)
  refine (List.pairwise_map.mp ordered).imp fun {earlier later} before => ?_
  rwa [NotBehind, earlier.span_outline, later.span_outline] at before

/-- A walk that goes into a branch, but into no parameter. -/
theorem Root.walk_prunes_parameters :
    ∃ root, parse "!if $a\n!function $f($b = 1) !return $b\n!endif" = .ok root ∧
      (root.walk fun node => node.kindName != "Parameter").map Node.kindName =
        ["IfStatement", "Identifier", "InlineFunctionDeclaration", "Parameter", "Identifier"] ∧
      (root.walk fun node => node.kindName != "Parameter").Pairwise
        fun earlier later => earlier.span.start ≤ later.span.start := by
  have met : (parse "!if $a\n!function $f($b = 1) !return $b\n!endif").toOption.map
      (fun root => (root.walk fun node => node.kindName != "Parameter").map Node.kindName) =
        some ["IfStatement", "Identifier", "InlineFunctionDeclaration", "Parameter",
          "Identifier"] := by
    decide +kernel
  cases parsed : parse "!if $a\n!function $f($b = 1) !return $b\n!endif" with
  | error failure =>
    rw [parsed] at met
    cases met
  | ok root =>
    rw [parsed] at met
    exact ⟨root, rfl, Option.some.inj met, (root.walk_prunes _).2.2 _ parsed⟩

end DiagramAssist
