import DiagramAssist.Message.Encode
import DiagramAssist.Proofs.Document.Shift

/-! # What a document says wherever it stands

Moving a document moves the spans of its nodes and nothing else: a walk meets the moved nodes in the
same order, and expressions keep their written form. What answers tell of a node is its summary:
neither where it stands nor, for a callable, what it stands for. Two documents whose nodes have the
same summaries offer the same items and have the same callables by name.
-/

namespace DiagramAssist

/-! ## Written forms -/

mutual

@[simp] theorem Expression.render_shift (distance : Nat) : (expression : Expression) →
    (expression.shift distance).render = expression.render
  | .binary left operator right _ => by
    simp only [Expression.shift, Expression.render, Expression.render_shift distance left,
      Expression.render_shift distance right, Located.value_shift]
  | .parenthesized inner _ => by
    simp only [Expression.shift, Expression.render, Expression.render_shift distance inner]
  | .call builtin callee arguments _ => by
    simp only [Expression.shift, Expression.render, Argument.renderAll_shiftAll distance arguments,
      Located.value_shift]
  | .string _ _ => rfl
  | .number _ _ => rfl
  | .identifier _ _ => rfl

theorem Argument.render_shift (distance : Nat) : (argument : Argument) →
    (argument.shift distance).render = argument.render
  | .mk none value _ => by
    simp only [Argument.shift, Argument.render, Option.map_none,
      Expression.render_shift distance value]
  | .mk (some name) value _ => by
    simp only [Argument.shift, Argument.render, Option.map_some, Located.value_shift,
      Expression.render_shift distance value]

theorem Argument.renderAll_shiftAll (distance : Nat) : (arguments : List Argument) →
    Argument.renderAll (Argument.shiftAll distance arguments) = Argument.renderAll arguments
  | [] => rfl
  | argument :: rest => by
    simp only [Argument.shiftAll, Argument.renderAll, Argument.render_shift distance argument,
      Argument.renderAll_shiftAll distance rest]

end

/-! ## Walks -/

def Node.shift (distance : Nat) : Node → Node
  | .statement node => .statement (node.shift distance)
  | .parameter node => .parameter (node.shift distance)
  | .expression node => .expression (node.shift distance)

section Walks

variable (distance : Nat)

mutual

theorem Expression.walk_shift : (expression : Expression) →
    (expression.shift distance).walk (fun _ => true) =
      (expression.walk fun _ => true).map (Node.shift distance)
  | .binary left operator right _ => by
    simp only [Expression.shift, Expression.walk, Expression.walk_shift left,
      Expression.walk_shift right, if_true, List.map_cons, List.map_append, Node.shift]
  | .parenthesized inner _ => by
    simp only [Expression.shift, Expression.walk, Expression.walk_shift inner, if_true,
      List.map_cons, Node.shift]
  | .call builtin callee arguments _ => by
    simp only [Expression.shift, Expression.walk, Argument.walkAll_shiftAll arguments, if_true,
      List.map_cons, Node.shift]
  | .string _ _ => rfl
  | .number _ _ => rfl
  | .identifier _ _ => rfl

theorem Argument.walkAll_shiftAll : (arguments : List Argument) →
    Argument.walkAll (fun _ => true) (Argument.shiftAll distance arguments) =
      (Argument.walkAll (fun _ => true) arguments).map (Node.shift distance)
  | [] => rfl
  | .mk _ value _ :: rest => by
    simp only [Argument.shiftAll, Argument.shift, Argument.walkAll, Argument.walk,
      Expression.walk_shift value, Argument.walkAll_shiftAll rest, List.map_append]

end

theorem Parameter.walk_shift (parameter : Parameter) :
    (parameter.shift distance).walk (fun _ => true) =
      (parameter.walk fun _ => true).map (Node.shift distance) := by
  obtain ⟨name, default, span⟩ := parameter
  cases default with
  | none => rfl
  | some value =>
    simp only [Parameter.shift, Parameter.walk, Option.map_some, if_true, List.map_cons, Node.shift,
      Expression.walk_shift]

theorem Parameter.walkAll_shift (parameters : List Parameter) :
    Parameter.walkAll (fun _ => true) (parameters.map (·.shift distance)) =
      (Parameter.walkAll (fun _ => true) parameters).map (Node.shift distance) := by
  simp only [Parameter.walkAll, List.flatMap_map, List.map_flatMap, Parameter.walk_shift]

theorem Parameter.walkOption_shift (parameters : Option (List Parameter)) :
    Parameter.walkOption (fun _ => true) (parameters.map (·.map (·.shift distance))) =
      (Parameter.walkOption (fun _ => true) parameters).map (Node.shift distance) := by
  cases parameters with
  | none => rfl
  | some parameters => exact Parameter.walkAll_shift distance parameters

mutual

theorem Statement.walkBelow_shift : (statement : Statement) →
    (statement.shift distance).walkBelow (fun _ => true) =
      (statement.walkBelow fun _ => true).map (Node.shift distance)
  | .declaration _ initializer _ _ _ => Expression.walk_shift distance initializer
  | .callable _ _ _ parameters body _ => by
    simp only [Statement.shift, Statement.walkBelow, Parameter.walkAll_shift,
      Statement.walkAll_shiftAll body, List.map_append]
  | .inlineFunction _ _ parameters value _ => by
    simp only [Statement.shift, Statement.walkBelow, Parameter.walkAll_shift,
      Expression.walk_shift, List.map_append]
  | .define _ parameters _ _ => Parameter.walkOption_shift distance parameters
  | .defineLong _ parameters _ _ => Parameter.walkOption_shift distance parameters
  | .inclusion _ => rfl
  | .branch _ condition consequent elseIfs alternate _ => by
    simp only [Statement.shift, Statement.walkBelow, Expression.walk_shift,
      Statement.walkAll_shiftAll consequent, ElseIf.walkAll_shiftAll elseIfs,
      Statement.walkOption_shiftOption alternate, List.map_append]
  | .loop condition body _ => by
    simp only [Statement.shift, Statement.walkBelow, Expression.walk_shift,
      Statement.walkAll_shiftAll body, List.map_append]
  | .result value _ => Expression.walk_shift distance value
  | .call expression _ => Expression.walk_shift distance expression
  | .unknown _ _ _ => rfl
  | .text _ _ => rfl

theorem Statement.walkAll_shiftAll : (statements : List Statement) →
    Statement.walkAll (fun _ => true) (Statement.shiftAll distance statements) =
      (Statement.walkAll (fun _ => true) statements).map (Node.shift distance)
  | [] => rfl
  | statement :: rest => by
    simp only [Statement.shiftAll, Statement.walkAll, Statement.walkBelow_shift statement,
      Statement.walkAll_shiftAll rest, if_true, List.map_cons, List.map_append, Node.shift]

theorem ElseIf.walkAll_shiftAll : (clauses : List ElseIf) →
    ElseIf.walkAll (fun _ => true) (ElseIf.shiftAll distance clauses) =
      (ElseIf.walkAll (fun _ => true) clauses).map (Node.shift distance)
  | [] => rfl
  | .mk condition body _ :: rest => by
    simp only [ElseIf.shiftAll, ElseIf.shift, ElseIf.walkAll, ElseIf.walk, Expression.walk_shift,
      Statement.walkAll_shiftAll body, ElseIf.walkAll_shiftAll rest, List.map_append]

theorem Statement.walkOption_shiftOption : (statements : Option (List Statement)) →
    Statement.walkOption (fun _ => true) (Statement.shiftOption distance statements) =
      (Statement.walkOption (fun _ => true) statements).map (Node.shift distance)
  | none => rfl
  | some statements => Statement.walkAll_shiftAll statements

end

end Walks

/-! ## Summaries -/

/-- What answers tell of a declaration. -/
def Declaration.summary (declaration : Declaration) : String × DeclarationKind :=
  (declaration.name, declaration.kind)

/-- What answers tell of a parameter: its name and the written form of its default value. -/
def Parameter.summary (parameter : Parameter) : String × Option String :=
  (parameter.name.value, parameter.default.map Expression.render)

/-- What answers tell of a callable. -/
def Callable.summary (callable : Callable) :
    CallableKind × String × List (String × Option String) :=
  (callable.kind, callable.name.value, callable.parameters.map Parameter.summary)

theorem Parameter.map_summary_shift (distance : Nat) (parameters : List Parameter) :
    (parameters.map (·.shift distance)).map summary = parameters.map summary := by
  rw [List.map_map]
  refine List.map_congr_left fun parameter _ => ?_
  obtain ⟨name, default, span⟩ := parameter
  cases default with
  | none => rfl
  | some value =>
    simp only [Function.comp_def, Parameter.shift, Parameter.summary, Located.value_shift,
      Option.map_some, Expression.render_shift]

namespace Node

variable (distance : Nat) (node : Node)

theorem declaration?_shift :
    (node.shift distance).declaration?.map Declaration.summary =
      node.declaration?.map Declaration.summary := by
  cases node with
  | statement statement =>
    cases statement with
    | define name parameters value span => cases parameters <;> rfl
    | defineLong name parameters body span => cases parameters <;> rfl
    | _ => rfl
  | parameter parameter => rfl
  | expression expression => cases expression <;> rfl

theorem callable?_shift :
    (node.shift distance).callable?.map Callable.summary =
      node.callable?.map Callable.summary := by
  have told (kind : CallableKind) (name : Located String) (parameters : List Parameter)
      (body body' : CallableBody) (span span' : Span) :
      Callable.summary ⟨kind, name.shift distance, parameters.map (·.shift distance), body, span⟩ =
        Callable.summary ⟨kind, name, parameters, body', span'⟩ := by
    simp only [Callable.summary, Located.value_shift, Parameter.map_summary_shift]
  cases node with
  | statement statement =>
    cases statement with
    | callable kind unquoted name parameters body span =>
      cases kind <;> exact congrArg some (told ..)
    | inlineFunction unquoted name parameters value span => exact congrArg some (told ..)
    | define name parameters value span =>
      cases parameters with
      | none => rfl
      | some parameters => exact congrArg some (told ..)
    | defineLong name parameters body span =>
      cases parameters with
      | none => rfl
      | some parameters => exact congrArg some (told ..)
    | _ => rfl
  | parameter parameter => rfl
  | expression expression => cases expression <;> rfl

theorem mention?_shift :
    (node.shift distance).mention?.map Mention.name = node.mention?.map Mention.name := by
  cases node with
  | statement statement => cases statement <;> rfl
  | parameter parameter => rfl
  | expression expression => cases expression <;> rfl

theorem include?_shift :
    (node.shift distance).include? = node.include?.map (·.shift distance) := by
  cases node with
  | statement statement => cases statement <;> rfl
  | parameter parameter => rfl
  | expression expression => cases expression <;> rfl

end Node

/-- One symbol table tells the same as another. The documents they include may differ. -/
structure SymbolTable.Echoes (table other : SymbolTable) : Prop where
  declarations : table.declarations.map Declaration.summary =
    other.declarations.map Declaration.summary
  callables : table.callables.map Callable.summary = other.callables.map Callable.summary
  mentions : table.mentions.map Mention.name = other.mentions.map Mention.name

/-! ## Answers -/

/-- What is read off items that tell the same. -/
theorem map_eq_of_summaries {α β γ : Type} {summary : α → β} {read : α → γ}
    (told : ∀ {item other : α}, summary item = summary other → read item = read other)
    {items others : List α} (same : items.map summary = others.map summary) :
    items.map read = others.map read := by
  induction items generalizing others with
  | nil =>
    cases others with
    | nil => rfl
    | cons other others => cases same
  | cons item items ih =>
    cases others with
    | nil => cases same
    | cons other others =>
      obtain ⟨here, same⟩ := List.cons_eq_cons.mp same
      rw [List.map_cons, List.map_cons, told here, ih same]

namespace Parameter

variable {parameter other : Parameter}

theorem name_eq (same : parameter.summary = other.summary) :
    parameter.name.value = other.name.value :=
  congrArg Prod.fst same

theorem render_eq (same : parameter.summary = other.summary) :
    parameter.render = other.render := by
  have rendered (parameter : Parameter) : parameter.render =
      parameter.summary.2.elim parameter.name.value (parameter.name.value ++ " = " ++ ·) := by
    rw [render, summary]
    cases parameter.default <;> rfl
  rw [rendered, rendered, same, name_eq same]

theorem toJson_eq (same : parameter.summary = other.summary) :
    parameter.toJson = other.toJson := by
  have told (parameter : Parameter) : parameter.toJson =
      .object (("name", .string parameter.name.value) ::
        optionalMember "default" (parameter.summary.2.map .string)) := by
    rw [toJson, summary, Option.map_map]
    rfl
  rw [told, told, same, name_eq same]

end Parameter

namespace Callable

variable {callable other : Callable} (same : callable.summary = other.summary)

include same

theorem kind_eq : callable.kind = other.kind :=
  congrArg Prod.fst same

theorem name_eq : callable.name.value = other.name.value :=
  congrArg (·.2.1) same

theorem parameters_eq :
    callable.parameters.map Parameter.summary = other.parameters.map Parameter.summary :=
  congrArg (·.2.2) same

theorem signature_eq : callable.signature = other.signature := by
  rw [signature, signature, name_eq same,
    map_eq_of_summaries Parameter.render_eq (parameters_eq same)]

theorem argumentItems_eq (range : Range) :
    callable.argumentItems range = other.argumentItems range := by
  have offered : (callable.parameters.map fun parameter =>
        (⟨.variable, parameter.name.value ++ "=", parameter.name.value, range⟩ : Item)) =
      other.parameters.map fun parameter =>
        ⟨.variable, parameter.name.value ++ "=", parameter.name.value, range⟩ :=
    map_eq_of_summaries (fun same => by rw [Parameter.name_eq same]) (parameters_eq same)
  rw [argumentItems, argumentItems, offered, isDefine, isDefine, kind_eq same]

theorem toJson_eq (origin : Option String) :
    (CallableMatch.mk callable origin).toJson = (CallableMatch.mk other origin).toJson := by
  simp only [CallableMatch.toJson, kind_eq same, name_eq same, signature_eq same,
    map_eq_of_summaries Parameter.toJson_eq (parameters_eq same)]

end Callable

namespace SymbolTable.Echoes

variable {table other : SymbolTable} (echoes : table.Echoes other)

include echoes

theorem symm : other.Echoes table :=
  ⟨echoes.declarations.symm, echoes.callables.symm, echoes.mentions.symm⟩

theorem declares (name : String) : table.declares name = other.declares name := by
  have read (table : SymbolTable) : table.declares name =
      ((table.declarations.map Declaration.summary).any (·.1 == name) ||
        (table.callables.map Callable.summary).any (·.2.1 == name)) := by
    rw [List.any_map, List.any_map]
    rfl
  rw [read, read, echoes.declarations, echoes.callables]

theorem declarationItems (range : Range) (filter : Filter) :
    table.declarationItems range filter = other.declarationItems range filter := by
  have read (table : SymbolTable) : table.declarationItems range filter =
      ((table.declarations.map Declaration.summary).filter fun told =>
        !(filter.globalVariablesOnly && Declaration.isVariable ⟨told.1, told.2, default⟩ &&
          !Declaration.isGlobal ⟨told.1, told.2, default⟩)).map fun told =>
            ⟨.variable, told.1, told.1, range⟩ := by
    rw [List.filter_map, List.map_map]
    rfl
  rw [read, read, echoes.declarations]

theorem callableItems (range : Range) :
    table.callableItems range = other.callableItems range :=
  map_eq_of_summaries
    (fun same => by rw [Callable.name_eq same, Callable.signature_eq same]) echoes.callables

theorem mentionItems (range : Range) (filter : Filter) :
    table.mentionItems range filter = other.mentionItems range filter := by
  have read (table : SymbolTable) :
      (table.mentions.filter fun mention => !table.declares mention.name).map
          (fun mention => (⟨.field, mention.name, mention.name, range⟩ : Item)) =
        ((table.mentions.map Mention.name).filter fun name => !table.declares name).map
          fun name => ⟨.field, name, name, range⟩ := by
    rw [List.filter_map, List.map_map]
    rfl
  have declares : table.declares = other.declares := funext echoes.declares
  rw [SymbolTable.mentionItems, SymbolTable.mentionItems, read, read, declares, echoes.mentions]

/-- Documents that tell the same offer the same. -/
theorem items (range : Range) (filter : Filter) :
    table.items range filter = other.items range filter := by
  rw [SymbolTable.items, SymbolTable.items, echoes.declarationItems, echoes.callableItems,
    echoes.mentionItems]

/-- Documents that tell the same have the same callables by name. -/
theorem callable? (name : String) :
    (table.callable? name).map Callable.summary = (other.callable? name).map Callable.summary := by
  have read (table : SymbolTable) : (table.callable? name).map Callable.summary =
      (table.callables.map Callable.summary).find? (·.2.1 == name) := by
    rw [List.find?_map]
    rfl
  rw [read, read, echoes.callables]

end SymbolTable.Echoes

end DiagramAssist
