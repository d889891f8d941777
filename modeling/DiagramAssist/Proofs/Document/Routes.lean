import DiagramAssist.Document.Walk
import Mathlib.Data.List.Forall2
import Mathlib.Data.List.Induction

/-! # The way down to a node

Below a node stand its children, in the order in which they are written. A node of a document is
found by the route to it, which says at every step which child to take. Routes are compared like the
words of a dictionary: a node comes before everything below it, and everything below one child
before the next child. So the order of the routes is the pre-order of the document, and a list is in
pre-order when its entries stand at routes that increase, one entry at each route that has one
(`InPreorder`). A walk lists nodes in this order (`Root.walk_inPreorder`).
-/

namespace DiagramAssist

/-! ## Children -/

/-- What stands directly below an expression. -/
def Expression.children : Expression → List Node
  | .binary left _ right _ => [.expression left, .expression right]
  | .parenthesized inner _ => [.expression inner]
  | .call _ _ arguments _ => arguments.map fun argument => .expression argument.value
  | .string .. | .number .. | .identifier .. => []

/-- What stands directly below a parameter: its default value, if it has one. -/
def Parameter.children (parameter : Parameter) : List Node :=
  parameter.default.toList.map .expression

/-- What a clause adds to the children of its branch. -/
def ElseIf.children (clause : ElseIf) : List Node :=
  .expression clause.condition :: clause.body.map .statement

/-- What stands directly below a statement. -/
def Statement.children : Statement → List Node
  | .declaration _ initializer _ _ _ => [.expression initializer]
  | .callable _ _ _ parameters body _ => parameters.map .parameter ++ body.map .statement
  | .inlineFunction _ _ parameters value _ => parameters.map .parameter ++ [.expression value]
  | .define _ parameters _ _ => (parameters.getD []).map .parameter
  | .defineLong _ parameters _ _ => (parameters.getD []).map .parameter
  | .branch _ condition consequent elseIfs alternate _ =>
    .expression condition :: (consequent.map .statement ++
      (elseIfs.flatMap ElseIf.children ++ (alternate.getD []).map .statement))
  | .loop condition body _ => .expression condition :: body.map .statement
  | .result value _ => [.expression value]
  | .call expression _ => [.expression expression]
  | .inclusion _ | .unknown .. | .text .. => []

namespace Node

/-- What stands directly below a node. -/
def children : Node → List Node
  | .statement node => node.children
  | .parameter node => node.children
  | .expression node => node.children

/-- The nodes met by a walk that starts at a node. -/
def walk (enters : Node → Bool) : Node → List Node
  | .statement node => node.walk enters
  | .parameter node => node.walk enters
  | .expression node => node.walk enters

end Node

/-! ## A node is larger than its children -/

section Size

variable {child : Node}

theorem Node.sizeOf_le_of_mem_statements {body : List Statement}
    (member : child ∈ body.map Node.statement) : sizeOf child ≤ sizeOf body := by
  obtain ⟨statement, listed, rfl⟩ := List.mem_map.mp member
  have smaller := List.sizeOf_lt_of_mem listed
  rw [Node.statement.sizeOf_spec]
  omega

theorem Node.sizeOf_le_of_mem_parameters {parameters : List Parameter}
    (member : child ∈ parameters.map Node.parameter) : sizeOf child ≤ sizeOf parameters := by
  obtain ⟨parameter, listed, rfl⟩ := List.mem_map.mp member
  have smaller := List.sizeOf_lt_of_mem listed
  rw [Node.parameter.sizeOf_spec]
  omega

theorem ElseIf.sizeOf_le_of_mem_children {clauses : List ElseIf}
    (member : child ∈ clauses.flatMap ElseIf.children) : sizeOf child ≤ sizeOf clauses := by
  obtain ⟨⟨condition, body, span⟩, listed, below⟩ := List.mem_flatMap.mp member
  have smaller := List.sizeOf_lt_of_mem listed
  rw [ElseIf.mk.sizeOf_spec] at smaller
  rcases List.mem_cons.mp below with rfl | inside
  · rw [Node.expression.sizeOf_spec, ElseIf.condition]
    omega
  · have := Node.sizeOf_le_of_mem_statements inside
    rw [ElseIf.body] at this
    omega

theorem Expression.sizeOf_le_of_mem_children {expression : Expression}
    (member : child ∈ expression.children) : sizeOf child ≤ sizeOf expression := by
  cases expression with
  | binary left operator right span =>
    simp only [children, List.mem_cons, List.not_mem_nil, or_false] at member
    rcases member with rfl | rfl
    · simp only [Node.expression.sizeOf_spec, binary.sizeOf_spec]
      omega
    · simp only [Node.expression.sizeOf_spec, binary.sizeOf_spec]
      omega
  | parenthesized inner span =>
    cases List.mem_singleton.mp member
    simp only [Node.expression.sizeOf_spec, parenthesized.sizeOf_spec]
    omega
  | call builtin callee arguments span =>
    obtain ⟨⟨name, value, place⟩, listed, rfl⟩ := List.mem_map.mp member
    have smaller := List.sizeOf_lt_of_mem listed
    simp only [Argument.mk.sizeOf_spec] at smaller
    simp only [Node.expression.sizeOf_spec, call.sizeOf_spec, Argument.value]
    omega
  | string | number | identifier => cases member

theorem Parameter.sizeOf_le_of_mem_children {parameter : Parameter}
    (member : child ∈ parameter.children) : sizeOf child ≤ sizeOf parameter := by
  rcases parameter with ⟨name, _ | value, span⟩
  · cases member
  · cases List.mem_singleton.mp member
    simp only [Node.expression.sizeOf_spec, mk.sizeOf_spec, Option.some.sizeOf_spec]
    omega

theorem Statement.sizeOf_le_of_mem_children {statement : Statement}
    (member : child ∈ statement.children) : sizeOf child ≤ sizeOf statement := by
  cases statement with
  | declaration name initializer scope conditional span =>
    cases List.mem_singleton.mp member
    simp only [Node.expression.sizeOf_spec, declaration.sizeOf_spec]
    omega
  | callable kind unquoted name parameters body span =>
    rw [callable.sizeOf_spec]
    rcases List.mem_append.mp member with first | second
    · have := Node.sizeOf_le_of_mem_parameters first
      omega
    · have := Node.sizeOf_le_of_mem_statements second
      omega
  | inlineFunction unquoted name parameters value span =>
    rw [inlineFunction.sizeOf_spec]
    rcases List.mem_append.mp member with first | second
    · have := Node.sizeOf_le_of_mem_parameters first
      omega
    · cases List.mem_singleton.mp second
      rw [Node.expression.sizeOf_spec]
      omega
  | define name parameters value span =>
    cases parameters with
    | none => cases member
    | some parameters =>
      have := Node.sizeOf_le_of_mem_parameters member
      simp only [define.sizeOf_spec, Option.some.sizeOf_spec, Option.getD_some] at this ⊢
      omega
  | defineLong name parameters body span =>
    cases parameters with
    | none => cases member
    | some parameters =>
      have := Node.sizeOf_le_of_mem_parameters member
      simp only [defineLong.sizeOf_spec, Option.some.sizeOf_spec, Option.getD_some] at this ⊢
      omega
  | branch kind condition consequent elseIfs alternate span =>
    rw [branch.sizeOf_spec]
    simp only [children, List.mem_cons, List.mem_append] at member
    rcases member with rfl | first | further | last
    · rw [Node.expression.sizeOf_spec]
      omega
    · have := Node.sizeOf_le_of_mem_statements first
      omega
    · have := ElseIf.sizeOf_le_of_mem_children further
      omega
    · cases alternate with
      | none => cases last
      | some body =>
        have := Node.sizeOf_le_of_mem_statements last
        simp only [Option.some.sizeOf_spec, Option.getD_some] at this ⊢
        omega
  | loop condition body span =>
    rw [loop.sizeOf_spec]
    rcases List.mem_cons.mp member with rfl | inside
    · rw [Node.expression.sizeOf_spec]
      omega
    · have := Node.sizeOf_le_of_mem_statements inside
      omega
  | result value span =>
    cases List.mem_singleton.mp member
    simp only [Node.expression.sizeOf_spec, result.sizeOf_spec]
    omega
  | call expression span =>
    cases List.mem_singleton.mp member
    simp only [Node.expression.sizeOf_spec, call.sizeOf_spec]
    omega
  | inclusion | unknown | text => cases member

theorem Node.sizeOf_lt_of_mem_children {node : Node} (member : child ∈ node.children) :
    sizeOf child < sizeOf node := by
  cases node with
  | statement statement =>
    have := Statement.sizeOf_le_of_mem_children member
    rw [Node.statement.sizeOf_spec]
    omega
  | parameter parameter =>
    have := Parameter.sizeOf_le_of_mem_children member
    rw [Node.parameter.sizeOf_spec]
    omega
  | expression expression =>
    have := Expression.sizeOf_le_of_mem_children member
    rw [Node.expression.sizeOf_spec]
    omega

end Size

/-- What holds of a node when it holds of its children holds of every node. -/
@[elab_as_elim]
theorem Node.induction {motive : Node → Prop}
    (step : ∀ node : Node, (∀ child ∈ node.children, motive child) → motive node) (node : Node) :
    motive node :=
  step node fun child _ => Node.induction step child
termination_by sizeOf node
decreasing_by exact Node.sizeOf_lt_of_mem_children ‹_›

/-! ## The law of the walk -/

section Law

variable (enters : Node → Bool)

theorem Argument.walkAll_eq (arguments : List Argument) :
    Argument.walkAll enters arguments =
      (arguments.map fun argument => Node.expression argument.value).flatMap
        (Node.walk enters) := by
  induction arguments with
  | nil => rfl
  | cons argument rest ih =>
    rcases argument with ⟨name, value, span⟩
    rw [Argument.walkAll, ih]
    rfl

theorem Parameter.walkAll_eq (parameters : List Parameter) :
    Parameter.walkAll enters parameters =
      (parameters.map Node.parameter).flatMap (Node.walk enters) := by
  rw [Parameter.walkAll, List.flatMap_map]
  rfl

theorem Parameter.walkOption_eq (parameters : Option (List Parameter)) :
    Parameter.walkOption enters parameters =
      ((parameters.getD []).map Node.parameter).flatMap (Node.walk enters) := by
  cases parameters with
  | none => rfl
  | some parameters => exact Parameter.walkAll_eq enters parameters

theorem Statement.walkAll_eq (statements : List Statement) :
    Statement.walkAll enters statements =
      (statements.map Node.statement).flatMap (Node.walk enters) := by
  induction statements with
  | nil => rfl
  | cons statement rest ih =>
    rw [Statement.walkAll, ih]
    rfl

theorem ElseIf.walkAll_eq (clauses : List ElseIf) :
    ElseIf.walkAll enters clauses =
      (clauses.flatMap ElseIf.children).flatMap (Node.walk enters) := by
  induction clauses with
  | nil => rfl
  | cons clause rest ih =>
    rcases clause with ⟨condition, body, span⟩
    rw [ElseIf.walkAll, ih, ElseIf.walk, Statement.walkAll_eq, List.flatMap_cons,
      List.flatMap_append]
    rfl

theorem Statement.walkOption_eq (statements : Option (List Statement)) :
    Statement.walkOption enters statements =
      ((statements.getD []).map Node.statement).flatMap (Node.walk enters) := by
  cases statements with
  | none => rfl
  | some statements =>
    rw [Statement.walkOption]
    exact Statement.walkAll_eq enters statements

theorem Expression.walk_eq (expression : Expression) :
    expression.walk enters = .expression expression ::
      if enters (.expression expression) then
        expression.children.flatMap (Node.walk enters)
      else [] := by
  cases expression with
  | binary left operator right span =>
    simp only [Expression.walk, children, List.flatMap_cons, List.flatMap_nil, List.append_nil,
      Node.walk]
  | parenthesized inner span =>
    simp only [Expression.walk, children, List.flatMap_cons, List.flatMap_nil, List.append_nil,
      Node.walk]
  | call builtin callee arguments span =>
    simp only [Expression.walk, children, Argument.walkAll_eq]
  | string | number | identifier =>
    simp only [Expression.walk, children, List.flatMap_nil, ite_self]

theorem Parameter.walk_eq (parameter : Parameter) :
    parameter.walk enters = .parameter parameter ::
      if enters (.parameter parameter) then parameter.children.flatMap (Node.walk enters)
      else [] := by
  rcases parameter with ⟨name, _ | value, span⟩
  · rfl
  · simp only [Parameter.walk, children, Option.toList_some, List.map_cons, List.map_nil,
      List.flatMap_cons, List.flatMap_nil, List.append_nil, Node.walk]

theorem Statement.walkBelow_eq (statement : Statement) :
    statement.walkBelow enters = statement.children.flatMap (Node.walk enters) := by
  cases statement <;>
    simp only [Statement.walkBelow, children, Parameter.walkAll_eq, Parameter.walkOption_eq,
      Statement.walkAll_eq, Statement.walkOption_eq, ElseIf.walkAll_eq, List.flatMap_append,
      List.flatMap_cons, List.flatMap_nil, List.append_nil, List.append_assoc, Node.walk]

/-- A walk that starts at a node meets the node and, if it goes below the node, what walks meet that
start at its children. -/
theorem Node.walk_eq (node : Node) :
    node.walk enters =
      node :: if enters node then node.children.flatMap (Node.walk enters) else [] := by
  cases node with
  | statement statement =>
    rw [Node.walk, Statement.walk, Statement.walkBelow_eq]
    rfl
  | parameter parameter => exact Parameter.walk_eq enters parameter
  | expression expression => exact Expression.walk_eq enters expression

theorem Root.walk_eq (root : Root) :
    root.walk enters = (root.statements.map Node.statement).flatMap (Node.walk enters) :=
  Statement.walkAll_eq enters root.statements

end Law

/-! ## Routes -/

/-- The way down to a node: which child is taken at every step, counted from zero. -/
abbrev Route : Type :=
  List Nat

def Node.at? : Node → Route → Option Node
  | node, [] => some node
  | node, index :: route => node.children[index]?.bind fun child => child.at? route

/-- The node at the end of a route that starts above some nodes. -/
def Node.among? (nodes : List Node) : Route → Option Node
  | [] => none
  | index :: route => nodes[index]?.bind fun node => node.at? route

/-- The node at the end of a route that starts above the statements of a document. -/
def Root.at? (root : Root) : Route → Option Node :=
  Node.among? (root.statements.map .statement)

/-- The entries that stand at routes are listed in the order of the routes, one for each route that
has one. -/
def InPreorder {α : Type} (stands : Route → α → Prop) (entries : List α) : Prop :=
  ∃ routes : List Route, routes.Pairwise (· < ·) ∧
    (∀ route, route ∈ routes ↔ ∃ entry, stands route entry) ∧
    List.Forall₂ stands routes entries

/-- A node that is refused stands on the route, before its end. -/
def Hidden (enters : Node → Bool) (at? : Route → Option Node) (route : Route) : Prop :=
  ∃ above node, above <+: route ∧ above ≠ route ∧ at? above = some node ∧ enters node = false

namespace InPreorder

variable {α β : Type} {stands : Route → α → Prop} {entries : List α}

/-- The lists below several nodes, one behind the other, when every route is lengthened by the place
of its node. -/
theorem flatMap {stands : β → Route → α → Prop} {list : β → List α} {nodes : List β}
    (each : ∀ node ∈ nodes, InPreorder (stands node) (list node)) :
    InPreorder (fun route entry => ∃ index rest node, route = index :: rest ∧
      nodes[index]? = some node ∧ stands node rest entry) (nodes.flatMap list) := by
  induction nodes using List.reverseRecOn with
  | nil =>
    refine ⟨[], .nil, fun route => ?_, .nil⟩
    simp only [List.not_mem_nil, List.getElem?_nil, reduceCtorEq, false_and, and_false,
      exists_false]
  | append_singleton nodes last ih =>
    obtain ⟨routes, sorted, complete, listed⟩ :=
      ih fun node member => each node (List.mem_append_left _ member)
    obtain ⟨routes', sorted', complete', listed'⟩ :=
      each last (List.mem_append_right _ (List.mem_singleton_self last))
    -- routes below the last node start with the number of the nodes before it
    have old {index : Nat} {node : β} (found : nodes[index]? = some node) :
        (nodes ++ [last])[index]? = some node := by
      rw [List.getElem?_append_left (List.getElem?_eq_some_iff.mp found).1, found]
    have new : (nodes ++ [last])[nodes.length]? = some last := List.getElem?_concat_length
    refine ⟨routes ++ routes'.map (nodes.length :: ·), ?_, fun route => ?_, ?_⟩
    · refine List.pairwise_append.mpr ⟨sorted, ?_, ?_⟩
      · refine List.pairwise_map.mpr (sorted'.imp fun less => ?_)
        exact List.cons_lt_cons_iff.mpr (.inr ⟨rfl, less⟩)
      · intro route member later member'
        obtain ⟨_, index, rest, node, rfl, found, -⟩ := (complete route).mp member
        obtain ⟨rest', -, rfl⟩ := List.mem_map.mp member'
        exact List.cons_lt_cons_iff.mpr (.inl (List.getElem?_eq_some_iff.mp found).1)
    · rw [List.mem_append, complete, List.mem_map]
      constructor
      · rintro (⟨entry, index, rest, node, rfl, found, stands⟩ | ⟨rest, member, rfl⟩)
        · exact ⟨entry, index, rest, node, rfl, old found, stands⟩
        · obtain ⟨entry, stands⟩ := (complete' rest).mp member
          exact ⟨entry, nodes.length, rest, last, rfl, new, stands⟩
      · rintro ⟨entry, index, rest, node, rfl, found, stands⟩
        by_cases before : index < nodes.length
        · rw [List.getElem?_append_left before] at found
          exact .inl ⟨entry, index, rest, node, rfl, found, stands⟩
        · have bound := (List.getElem?_eq_some_iff.mp found).1
          rw [List.length_append, List.length_singleton] at bound
          obtain rfl : index = nodes.length := by omega
          obtain rfl : last = node := Option.some.inj (new.symm.trans found)
          exact .inr ⟨rest, (complete' rest).mpr ⟨entry, stands⟩, rfl⟩
    · rw [List.flatMap_append, List.flatMap_singleton]
      refine List.rel_append ?_ ?_
      · refine listed.imp ?_
        rintro route entry ⟨index, rest, node, rfl, found, stands⟩
        exact ⟨index, rest, node, rfl, old found, stands⟩
      · refine List.forall₂_map_left_iff.mpr (listed'.imp fun rest entry stands => ?_)
        exact ⟨nodes.length, rest, last, rfl, new, stands⟩

/-- An entry in front of a list that stands further down. -/
theorem cons {entry : α} {whole : Route → α → Prop} (below : InPreorder stands entries)
    (here : ∀ other, whole [] other ↔ other = entry) (nowhere : ∀ other, ¬ stands [] other)
    (down : ∀ index route other, whole (index :: route) other ↔ stands (index :: route) other) :
    InPreorder whole (entry :: entries) := by
  obtain ⟨routes, sorted, complete, listed⟩ := below
  have down {route : Route} (further : route ≠ []) (other : α) :
      whole route other ↔ stands route other := by
    cases route with
    | nil => exact absurd rfl further
    | cons index route => exact down index route other
  have further {route : Route} {other : α} (found : stands route other) : route ≠ [] := by
    rintro rfl
    exact nowhere other found
  refine ⟨[] :: routes, .cons ?_ sorted, fun route => ?_, .cons ((here entry).mpr rfl) ?_⟩
  · intro route member
    obtain ⟨other, found⟩ := (complete route).mp member
    cases route with
    | nil => exact absurd rfl (further found)
    | cons index route => exact List.nil_lt_cons index route
  · rw [List.mem_cons, complete]
    constructor
    · rintro (rfl | ⟨other, found⟩)
      · exact ⟨entry, (here entry).mpr rfl⟩
      · exact ⟨other, (down (further found) other).mpr found⟩
    · rintro ⟨other, found⟩
      by_cases top : route = []
      · exact .inl top
      · exact .inr ⟨other, (down top other).mp found⟩
  · exact listed.imp fun route other found => (down (further found) other).mpr found

/-- What some of the entries show is listed in the same order. -/
theorem filterMap {shows : α → β → Prop} {read : α → Option β}
    (listed : InPreorder stands entries)
    (single : ∀ {route entry other}, stands route entry → stands route other → entry = other)
    (reads : ∀ {entry shown}, read entry = some shown ↔ shows entry shown) :
    InPreorder (fun route shown => ∃ entry, stands route entry ∧ shows entry shown)
      (entries.filterMap read) := by
  obtain ⟨routes, sorted, complete, listed⟩ := listed
  obtain ⟨kept, sublist, all, shown⟩ : ∃ kept, kept.Sublist routes ∧
      (∀ route ∈ routes, (∃ shown entry, stands route entry ∧ shows entry shown) → route ∈ kept) ∧
      List.Forall₂ (fun route shown => ∃ entry, stands route entry ∧ shows entry shown) kept
        (entries.filterMap read) := by
    clear sorted complete
    induction listed with
    | nil => exact ⟨[], .slnil, nofun, .nil⟩
    | @cons route entry routes entries here _ ih =>
      obtain ⟨kept, sublist, all, shown⟩ := ih
      cases found : read entry with
      | none =>
        refine ⟨kept, sublist.cons _, ?_, by rwa [List.filterMap_cons_none found]⟩
        rintro other member ⟨value, entry', there, shows⟩
        rcases List.mem_cons.mp member with rfl | later
        · cases single here there
          rw [reads.mpr shows] at found
          cases found
        · exact all other later ⟨value, entry', there, shows⟩
      | some value =>
        refine ⟨route :: kept, sublist.cons_cons _, ?_, ?_⟩
        · intro other member present
          rcases List.mem_cons.mp member with rfl | later
          · exact List.mem_cons_self
          · exact List.mem_cons_of_mem _ (all other later present)
        · rw [List.filterMap_cons_some found]
          exact .cons ⟨entry, here, reads.mp found⟩ shown
  refine ⟨kept, sorted.sublist sublist, fun route => ⟨fun member => ?_, ?_⟩, shown⟩
  · obtain ⟨place, bound, rfl⟩ := List.getElem_of_mem member
    exact ⟨_, shown.get bound (shown.length_eq ▸ bound)⟩
  · rintro ⟨value, entry, stands, shows⟩
    exact all route ((complete route).mpr ⟨entry, stands⟩) ⟨value, entry, stands, shows⟩

end InPreorder

/-! ## Walks list nodes in pre-order -/

section Walks

variable {enters : Node → Bool} {node : Node} {nodes : List Node}

/-- Below a node a route is hidden by the node itself or by what stands below it. -/
theorem hidden_cons_iff {index : Nat} {route : Route} :
    Hidden enters node.at? (index :: route) ↔
      enters node = false ∨ Hidden enters (Node.among? node.children) (index :: route) := by
  constructor
  · rintro ⟨above, found, leads, before, stands, refused⟩
    cases above with
    | nil =>
      cases stands
      exact .inl refused
    | cons first above => exact .inr ⟨first :: above, found, leads, before, stands, refused⟩
  · rintro (refused | ⟨above, found, leads, before, stands, refused⟩)
    · exact ⟨[], node, List.nil_prefix, nofun, rfl, refused⟩
    · cases above with
      | nil => cases stands
      | cons first above => exact ⟨first :: above, found, leads, before, stands, refused⟩

/-- Below several nodes a route is hidden by what hides it below its own one. -/
theorem hidden_among_iff {index : Nat} {route : Route} (here : nodes[index]? = some node) :
    Hidden enters (Node.among? nodes) (index :: route) ↔ Hidden enters node.at? route := by
  constructor
  · rintro ⟨above, found, leads, before, stands, refused⟩
    cases above with
    | nil => cases stands
    | cons first above =>
      obtain ⟨rfl, further⟩ := List.cons_prefix_cons.mp leads
      rw [Node.among?, here] at stands
      exact ⟨above, found, further, fun same => before (by rw [same]), stands, refused⟩
  · rintro ⟨above, found, leads, before, stands, refused⟩
    refine ⟨index :: above, found, List.cons_prefix_cons.mpr ⟨rfl, leads⟩, ?_, ?_, refused⟩
    · exact fun same => before ((List.cons_inj_right index).mp same)
    · rw [Node.among?, here]
      exact stands

/-- The nodes that a walk meets below several nodes are listed in pre-order if those below each of
them are. -/
theorem inPreorder_among (each : ∀ node ∈ nodes,
      InPreorder (fun route found => node.at? route = some found ∧ ¬ Hidden enters node.at? route)
        (node.walk enters)) :
    InPreorder (fun route found => Node.among? nodes route = some found ∧
      ¬ Hidden enters (Node.among? nodes) route) (nodes.flatMap (Node.walk enters)) := by
  refine (congrArg (InPreorder · _) ?_).mp (InPreorder.flatMap each)
  funext route found
  refine propext ⟨?_, ?_⟩
  · rintro ⟨index, rest, node, rfl, here, stands, shown⟩
    rw [hidden_among_iff here, Node.among?, here]
    exact ⟨stands, shown⟩
  · rintro ⟨stands, shown⟩
    cases route with
    | nil => cases stands
    | cons index rest =>
      obtain ⟨node, here, below⟩ := Option.bind_eq_some_iff.mp stands
      exact ⟨index, rest, node, rfl, here, below, fun hides =>
        shown ((hidden_among_iff here).mpr hides)⟩

/-- A walk that starts at a node lists the nodes below it in pre-order, those left out that are
hidden. -/
theorem Node.walk_inPreorder (enters : Node → Bool) (node : Node) :
    InPreorder (fun route found => node.at? route = some found ∧ ¬ Hidden enters node.at? route)
      (node.walk enters) := by
  induction node using Node.induction with
  | step node ih =>
    have top (other : Node) : (node.at? [] = some other ∧ ¬ Hidden enters node.at? []) ↔
        other = node := by
      refine ⟨fun found => (Option.some.inj found.1).symm, ?_⟩
      rintro rfl
      refine ⟨rfl, ?_⟩
      rintro ⟨above, _, leads, before, -, -⟩
      exact before (List.prefix_nil.mp leads)
    rw [Node.walk_eq]
    cases entered : enters node with
    | true =>
      refine (inPreorder_among ih).cons top (fun _ found => nomatch found.1) ?_
      intro index route other
      rw [hidden_cons_iff, entered]
      simp only [Bool.true_eq_false, false_or]
      rfl
    | false =>
      have nothing : InPreorder (fun _ _ => False) ([] : List Node) :=
        ⟨[], .nil, fun _ => by simp only [List.not_mem_nil, exists_const], .nil⟩
      refine nothing.cons top (fun _ => id) fun index route other => ?_
      rw [hidden_cons_iff, entered]
      simp only [true_or, not_true_eq_false, and_false]

/-- A walk lists the nodes of a document in pre-order, those left out that are hidden. -/
theorem Root.walk_inPreorder (enters : Node → Bool) (root : Root) :
    InPreorder (fun route found => root.at? route = some found ∧ ¬ Hidden enters root.at? route)
      (root.walk enters) := by
  rw [Root.walk_eq]
  exact inPreorder_among fun node _ => node.walk_inPreorder enters

/-- All nodes of a document are listed in pre-order. -/
theorem Root.nodes_inPreorder (root : Root) :
    InPreorder (fun route found => root.at? route = some found) root.nodes := by
  have all := root.walk_inPreorder fun _ => true
  rw [Root.nodes]
  simpa only [Hidden, Bool.true_eq_false, and_false, exists_false, not_false_eq_true, and_true]
    using all

end Walks

end DiagramAssist
