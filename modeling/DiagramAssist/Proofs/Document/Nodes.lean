import DiagramAssist.Proofs.Document.Outline

/-! # What a walk meets is in the outline

A walk meets the statements, parameters and expressions of a document. Each of them has its outline
among the nodes of the document's outline, which has nodes of its own besides, for clauses,
arguments, names and texts.
-/

namespace DiagramAssist

open Outline

def Node.outline : Node → Outline
  | .statement node => node.outline
  | .parameter node => node.outline
  | .expression node => node.outline

/-- The root of a node's outline spans what the node spans. -/
theorem Node.span_outline (node : Node) : node.outline.span = node.span := by
  cases node with
  | statement statement => cases statement <;> simp only [outline, span, Statement.outline,
      Statement.span, Include.outline, Outline.span]
  | parameter parameter => rfl
  | expression expression => exact expression.span_outline

section Members

variable {node : Node} {enters : Node → Bool}

mutual

theorem Expression.outline_mem_of_walk : (expression : Expression) →
    node ∈ expression.walk enters → node.outline ∈ expression.outline.nodes
  | .binary left operator right span, member => by
    simp only [Expression.walk, List.mem_cons, List.mem_ite_nil_right, List.mem_append] at member
    simp only [Expression.outline, nodes, nodesAll, List.mem_cons, List.mem_append]
    rcases member with rfl | ⟨-, first | second⟩
    · exact .inl (by simp only [Node.outline, Expression.outline])
    · exact .inr (.inl (left.outline_mem_of_walk first))
    · exact .inr (.inr (.inr (.inl (right.outline_mem_of_walk second))))
  | .parenthesized inner span, member => by
    simp only [Expression.walk, List.mem_cons, List.mem_ite_nil_right] at member
    simp only [Expression.outline, nodes, nodesAll, List.mem_cons, List.mem_append]
    rcases member with rfl | ⟨-, below⟩
    · exact .inl (by simp only [Node.outline, Expression.outline])
    · exact .inr (.inl (inner.outline_mem_of_walk below))
  | .call builtin callee arguments span, member => by
    simp only [Expression.walk, List.mem_cons, List.mem_ite_nil_right] at member
    simp only [Expression.outline, nodes, nodesAll, List.mem_cons, List.mem_append]
    rcases member with rfl | ⟨-, below⟩
    · exact .inl (by simp only [Node.outline, Expression.outline])
    · exact .inr (.inr (Argument.outline_mem_of_walkAll arguments below))
  | .string value span, member => by
    simp only [Expression.walk, List.mem_singleton] at member
    exact member ▸ self_mem_nodes _
  | .number value span, member => by
    simp only [Expression.walk, List.mem_singleton] at member
    exact member ▸ self_mem_nodes _
  | .identifier name span, member => by
    simp only [Expression.walk, List.mem_singleton] at member
    exact member ▸ self_mem_nodes _

theorem Argument.outline_mem_of_walk : (argument : Argument) →
    node ∈ argument.walk enters → node.outline ∈ argument.outline.nodes
  | .mk name value span, member => by
    simp only [Argument.walk] at member
    simp only [Argument.outline, nodes, nodesAll_append, nodesAll, List.mem_cons, List.mem_append]
    exact .inr (.inr (.inl (value.outline_mem_of_walk member)))

theorem Argument.outline_mem_of_walkAll : (arguments : List Argument) →
    node ∈ Argument.walkAll enters arguments →
    node.outline ∈ nodesAll (Argument.outlines arguments)
  | [], member => by simp only [Argument.walkAll, List.not_mem_nil] at member
  | argument :: rest, member => by
    simp only [Argument.walkAll, List.mem_append] at member
    simp only [Argument.outlines, nodesAll, List.mem_append]
    rcases member with first | later
    · exact .inl (argument.outline_mem_of_walk first)
    · exact .inr (Argument.outline_mem_of_walkAll rest later)

end

theorem Parameter.outline_mem_of_walk {parameter : Parameter}
    (member : node ∈ parameter.walk enters) : node.outline ∈ parameter.outline.nodes := by
  rcases parameter with ⟨name, default, span⟩
  simp only [Parameter.walk, List.mem_cons, List.mem_ite_nil_right] at member
  rcases member with rfl | ⟨-, below⟩
  · exact self_mem_nodes _
  · cases default with
    | none => simp only [List.not_mem_nil] at below
    | some value =>
      simp only [Parameter.outline, Option.toList_some, List.map_cons, List.map_nil, nodes,
        nodesAll, List.mem_cons, List.mem_append]
      exact .inr (.inr (.inl (value.outline_mem_of_walk below)))

theorem Parameter.outline_mem_of_walkAll {parameters : List Parameter}
    (member : node ∈ Parameter.walkAll enters parameters) :
    node.outline ∈ nodesAll (Parameter.outlines parameters) := by
  simp only [Parameter.walkAll, List.mem_flatMap] at member
  obtain ⟨parameter, listed, member⟩ := member
  rw [nodesAll_eq_flatMap]
  exact List.mem_flatMap.mpr
    ⟨_, List.mem_map_of_mem listed, Parameter.outline_mem_of_walk member⟩

theorem Parameter.outline_mem_of_walkOption {parameters : Option (List Parameter)}
    (member : node ∈ Parameter.walkOption enters parameters) :
    node.outline ∈ nodesAll (Parameter.outlinesOption parameters) := by
  cases parameters with
  | none => simp only [Parameter.walkOption, List.not_mem_nil] at member
  | some parameters => exact Parameter.outline_mem_of_walkAll member

mutual

theorem Statement.outline_mem_of_walkBelow : (statement : Statement) →
    node ∈ statement.walkBelow enters → node.outline ∈ statement.outline.nodes
  | .declaration name initializer _ _ span, member => by
    simp only [Statement.walkBelow] at member
    simp only [Statement.outline, nodes, nodesAll, List.mem_cons, List.mem_append]
    exact .inr (.inr (.inl (initializer.outline_mem_of_walk member)))
  | .callable kind unquoted name parameters body span, member => by
    simp only [Statement.walkBelow, List.mem_append] at member
    simp only [Statement.outline, nodes, nodesAll, nodesAll_append, List.cons_append,
      List.mem_cons, List.mem_append]
    rcases member with first | second
    · exact .inr (.inr (.inl (Parameter.outline_mem_of_walkAll first)))
    · exact .inr (.inr (.inr (Statement.outline_mem_of_walkAll body second)))
  | .inlineFunction unquoted name parameters value span, member => by
    simp only [Statement.walkBelow, List.mem_append] at member
    simp only [Statement.outline, nodes, nodesAll, nodesAll_append, List.mem_cons, List.mem_append]
    rcases member with first | second
    · exact .inr (.inr (.inl (Parameter.outline_mem_of_walkAll first)))
    · exact .inr (.inr (.inr (.inl (value.outline_mem_of_walk second))))
  | .define name parameters value span, member => by
    simp only [Statement.walkBelow] at member
    simp only [Statement.outline, nodes, nodesAll, nodesAll_append, List.mem_cons, List.mem_append]
    exact .inr (.inr (.inl (Parameter.outline_mem_of_walkOption member)))
  | .defineLong name parameters body span, member => by
    simp only [Statement.walkBelow] at member
    simp only [Statement.outline, nodes, nodesAll, nodesAll_append, List.cons_append,
      List.mem_cons, List.mem_append]
    exact .inr (.inr (.inl (Parameter.outline_mem_of_walkOption member)))
  | .inclusion content, member => by simp only [Statement.walkBelow, List.not_mem_nil] at member
  | .branch kind condition consequent elseIfs alternate span, member => by
    simp only [Statement.walkBelow, List.mem_append, or_assoc] at member
    simp only [Statement.outline, nodes, nodesAll, nodesAll_append, List.mem_cons, List.mem_append,
      List.cons_append, List.nil_append]
    rcases member with asked | first | further | last
    · exact .inr (.inl (condition.outline_mem_of_walk asked))
    · exact .inr (.inr (.inl (Statement.outline_mem_of_walkAll consequent first)))
    · exact .inr (.inr (.inr (.inl (ElseIf.outline_mem_of_walkAll elseIfs further))))
    · exact .inr (.inr (.inr (.inr (Statement.outline_mem_of_walkOption alternate last))))
  | .loop condition body span, member => by
    simp only [Statement.walkBelow, List.mem_append] at member
    simp only [Statement.outline, nodes, nodesAll, List.mem_cons, List.mem_append,
      List.cons_append, List.nil_append]
    rcases member with asked | inside
    · exact .inr (.inl (condition.outline_mem_of_walk asked))
    · exact .inr (.inr (Statement.outline_mem_of_walkAll body inside))
  | .result value span, member => by
    simp only [Statement.walkBelow] at member
    simp only [Statement.outline, nodes, nodesAll, List.mem_cons, List.mem_append]
    exact .inr (.inl (value.outline_mem_of_walk member))
  | .call expression span, member => by
    simp only [Statement.walkBelow] at member
    simp only [Statement.outline, nodes, nodesAll, List.mem_cons, List.mem_append]
    exact .inr (.inl (expression.outline_mem_of_walk member))
  | .unknown directive text span, member => by
    simp only [Statement.walkBelow, List.not_mem_nil] at member
  | .text text span, member => by simp only [Statement.walkBelow, List.not_mem_nil] at member

theorem ElseIf.outline_mem_of_walk : (clause : ElseIf) →
    node ∈ clause.walk enters → node.outline ∈ clause.outline.nodes
  | .mk condition body span, member => by
    simp only [ElseIf.walk, List.mem_append] at member
    simp only [ElseIf.outline, nodes, nodesAll, List.mem_cons, List.mem_append,
      List.cons_append, List.nil_append]
    rcases member with asked | inside
    · exact .inr (.inl (condition.outline_mem_of_walk asked))
    · exact .inr (.inr (Statement.outline_mem_of_walkAll body inside))

theorem Statement.outline_mem_of_walkAll : (statements : List Statement) →
    node ∈ Statement.walkAll enters statements →
    node.outline ∈ nodesAll (Statement.outlines statements)
  | [], member => by simp only [Statement.walkAll, List.not_mem_nil] at member
  | statement :: rest, member => by
    simp only [Statement.walkAll, List.mem_cons, List.mem_append, List.mem_ite_nil_right] at member
    simp only [Statement.outlines, nodesAll, List.mem_append]
    rcases member with rfl | ⟨-, below⟩ | later
    · exact .inl (self_mem_nodes _)
    · exact .inl (statement.outline_mem_of_walkBelow below)
    · exact .inr (Statement.outline_mem_of_walkAll rest later)

theorem ElseIf.outline_mem_of_walkAll : (clauses : List ElseIf) →
    node ∈ ElseIf.walkAll enters clauses → node.outline ∈ nodesAll (ElseIf.outlines clauses)
  | [], member => by simp only [ElseIf.walkAll, List.not_mem_nil] at member
  | clause :: rest, member => by
    simp only [ElseIf.walkAll, List.mem_append] at member
    simp only [ElseIf.outlines, nodesAll, List.mem_append]
    rcases member with first | later
    · exact .inl (clause.outline_mem_of_walk first)
    · exact .inr (ElseIf.outline_mem_of_walkAll rest later)

theorem Statement.outline_mem_of_walkOption : (statements : Option (List Statement)) →
    node ∈ Statement.walkOption enters statements →
    node.outline ∈ nodesAll (Statement.outlinesOption statements)
  | none, member => by simp only [Statement.walkOption, List.not_mem_nil] at member
  | some statements, member => by
    simp only [Statement.walkOption] at member
    simp only [Statement.outlinesOption]
    exact Statement.outline_mem_of_walkAll statements member

end

/-- The outline of every node of a document is a node of its outline. -/
theorem Root.outline_mem_of_nodes {root : Root} (member : node ∈ root.nodes) :
    node.outline ∈ root.outline.nodes := by
  simp only [Root.outline, Outline.nodes, List.mem_cons]
  exact .inr (Statement.outline_mem_of_walkAll root.statements member)

end Members

end DiagramAssist
