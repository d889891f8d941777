import DiagramAssist.Proofs.Document.Routes
import DiagramAssist.Symbols

/-! # The symbols of a document are those of its nodes

Which nodes declare, define, mention and include something, and what, is said node by node. The
symbol table of a document lists just this: for each of the four, one entry for every node that has
one, however deep it stands, in pre-order (`SymbolTable.extract_inPreorder`).
-/

namespace DiagramAssist

namespace Node

/-- The node declares a variable, or a macro without a parameter list. -/
inductive Declares : Node → Declaration → Prop where
  | variable (name : Located String) (initializer : Expression) (scope : Scope)
      (conditional : Bool) (span : Span) :
      Declares (.statement (.declaration name initializer scope conditional span))
        ⟨name.value, .variable scope, span⟩
  | define (name : Located String) (value : Option (Located String)) (span : Span) :
      Declares (.statement (.define name none value span)) ⟨name.value, .define, span⟩
  | defineLong (name body : Located String) (span : Span) :
      Declares (.statement (.defineLong name none body span)) ⟨name.value, .define, span⟩

/-- The node defines a function, a procedure, or a macro with a parameter list, be it empty. -/
inductive Defines : Node → Callable → Prop where
  | function (unquoted : Bool) (name : Located String) (parameters : List Parameter)
      (body : List Statement) (span : Span) :
      Defines (.statement (.callable .function unquoted name parameters body span))
        ⟨.function, name, parameters, .statements body, span⟩
  | procedure (unquoted : Bool) (name : Located String) (parameters : List Parameter)
      (body : List Statement) (span : Span) :
      Defines (.statement (.callable .procedure unquoted name parameters body span))
        ⟨.procedure, name, parameters, .statements body, span⟩
  | inlineFunction (unquoted : Bool) (name : Located String) (parameters : List Parameter)
      (value : Expression) (span : Span) :
      Defines (.statement (.inlineFunction unquoted name parameters value span))
        ⟨.inlineFunction, name, parameters, .expression value, span⟩
  | define (name : Located String) (parameters : List Parameter)
      (value : Option (Located String)) (span : Span) :
      Defines (.statement (.define name (some parameters) value span))
        ⟨.define, name, parameters, .text (value.map (·.value)), span⟩
  | defineLong (name : Located String) (parameters : List Parameter) (body : Located String)
      (span : Span) :
      Defines (.statement (.defineLong name (some parameters) body span))
        ⟨.defineLong, name, parameters, .text (some body.value), span⟩

inductive Mentions : Node → Mention → Prop where
  | identifier (name : String) (span : Span) :
      Mentions (.expression (.identifier name span)) ⟨name, span⟩

inductive Includes : Node → Include → Prop where
  | inclusion (content : Include) : Includes (.statement (.inclusion content)) content

variable {node : Node}

theorem declaration?_eq_some_iff {declaration : Declaration} :
    node.declaration? = some declaration ↔ node.Declares declaration := by
  constructor
  · intro found
    rcases node with statement | parameter | expression
    · cases statement with
      | declaration name initializer scope conditional span =>
        cases found
        exact .variable ..
      | define name parameters value span =>
        cases parameters with
        | none =>
          cases found
          exact .define ..
        | some parameters => cases found
      | defineLong name parameters body span =>
        cases parameters with
        | none =>
          cases found
          exact .defineLong ..
        | some parameters => cases found
      | _ => cases found
    · cases found
    · cases found
  · rintro (_ | _ | _) <;> rfl

theorem callable?_eq_some_iff {callable : Callable} :
    node.callable? = some callable ↔ node.Defines callable := by
  constructor
  · intro found
    rcases node with statement | parameter | expression
    · cases statement with
      | callable kind unquoted name parameters body span =>
        cases kind with
        | function =>
          cases found
          exact .function ..
        | procedure =>
          cases found
          exact .procedure ..
      | inlineFunction unquoted name parameters value span =>
        cases found
        exact .inlineFunction ..
      | define name parameters value span =>
        cases parameters with
        | none => cases found
        | some parameters =>
          cases found
          exact .define ..
      | defineLong name parameters body span =>
        cases parameters with
        | none => cases found
        | some parameters =>
          cases found
          exact .defineLong ..
      | _ => cases found
    · cases found
    · cases found
  · rintro (_ | _ | _ | _ | _) <;> rfl

theorem mention?_eq_some_iff {mention : Mention} :
    node.mention? = some mention ↔ node.Mentions mention := by
  constructor
  · intro found
    rcases node with statement | parameter | expression
    · cases found
    · cases found
    · cases expression with
      | identifier name span =>
        cases found
        exact .identifier ..
      | _ => cases found
  · rintro ⟨⟩
    rfl

theorem include?_eq_some_iff {content : Include} :
    node.include? = some content ↔ node.Includes content := by
  constructor
  · intro found
    rcases node with statement | parameter | expression
    · cases statement with
      | inclusion content =>
        cases found
        exact .inclusion _
      | _ => cases found
    · cases found
    · cases found
  · rintro ⟨⟩
    rfl

end Node

/-- What the nodes of a document show is listed in pre-order, one entry for each node that shows
something. -/
theorem Root.filterMap_nodes_inPreorder {α : Type} (root : Root) {shows : Node → α → Prop}
    {read : Node → Option α} (reads : ∀ {node entry}, read node = some entry ↔ shows node entry) :
    InPreorder (fun route entry => ∃ node, root.at? route = some node ∧ shows node entry)
      (root.nodes.filterMap read) :=
  root.nodes_inPreorder.filterMap (fun here there => Option.some.inj (here.symm.trans there)) reads

/-- The symbol table of a document has one entry for each node that declares, defines, mentions or
includes something, at any depth, and each of its lists is in pre-order. -/
theorem SymbolTable.extract_inPreorder (root : Root) :
    InPreorder (fun route entry => ∃ node, root.at? route = some node ∧ node.Declares entry)
        (extract root).declarations ∧
      InPreorder (fun route entry => ∃ node, root.at? route = some node ∧ node.Defines entry)
        (extract root).callables ∧
      InPreorder (fun route entry => ∃ node, root.at? route = some node ∧ node.Mentions entry)
        (extract root).mentions ∧
      InPreorder (fun route entry => ∃ node, root.at? route = some node ∧ node.Includes entry)
        (extract root).includes :=
  ⟨root.filterMap_nodes_inPreorder Node.declaration?_eq_some_iff,
    root.filterMap_nodes_inPreorder Node.callable?_eq_some_iff,
    root.filterMap_nodes_inPreorder Node.mention?_eq_some_iff,
    root.filterMap_nodes_inPreorder Node.include?_eq_some_iff⟩

end DiagramAssist
