import DiagramAssist.Document.Statement

/-! # Walking a document

The nodes of a document in source order, every node before what is below it. A walk asks at every
node whether to go on below it; nodes of raw text have nothing below them, and neither have
includes.
-/

namespace DiagramAssist

inductive Node where
  | statement (statement : Statement)
  | parameter (parameter : Parameter)
  | expression (expression : Expression)

namespace Node

instance : Inhabited Node := ⟨.statement default⟩

def span : Node → Span
  | .statement node => node.span
  | .parameter node => node.span
  | .expression node => node.span

/-- The public name of the node's shape. -/
def kindName : Node → String
  | .statement node => node.kind.name
  | .parameter _ => "Parameter"
  | .expression node => node.kind.name

end Node

mutual

/-- The nodes of an expression met by a walk that goes below a node when `enters` says so. -/
def Expression.walk (enters : Node → Bool) : Expression → List Node
  | .binary left operator right span =>
    .expression (.binary left operator right span) ::
      if enters (.expression (.binary left operator right span)) then
        left.walk enters ++ right.walk enters
      else []
  | .parenthesized inner span =>
    .expression (.parenthesized inner span) ::
      if enters (.expression (.parenthesized inner span)) then inner.walk enters else []
  | .call builtin callee arguments span =>
    .expression (.call builtin callee arguments span) ::
      if enters (.expression (.call builtin callee arguments span)) then
        Argument.walkAll enters arguments
      else []
  | .string value span => [.expression (.string value span)]
  | .number value span => [.expression (.number value span)]
  | .identifier name span => [.expression (.identifier name span)]

/-- The nodes of an argument: those of its value. -/
def Argument.walk (enters : Node → Bool) : Argument → List Node
  | .mk _ value _ => value.walk enters

def Argument.walkAll (enters : Node → Bool) : List Argument → List Node
  | [] => []
  | argument :: rest => argument.walk enters ++ Argument.walkAll enters rest

end

/-- The nodes of a parameter: itself and those of its default value. -/
def Parameter.walk (enters : Node → Bool) (parameter : Parameter) : List Node :=
  .parameter parameter ::
    if enters (.parameter parameter) then
      match parameter.default with
      | some value => value.walk enters
      | none => []
    else []

def Parameter.walkAll (enters : Node → Bool) (parameters : List Parameter) : List Node :=
  parameters.flatMap (·.walk enters)

def Parameter.walkOption (enters : Node → Bool) : Option (List Parameter) → List Node
  | some parameters => Parameter.walkAll enters parameters
  | none => []

mutual

def Statement.walkBelow (enters : Node → Bool) : Statement → List Node
  | .declaration _ initializer _ _ _ => initializer.walk enters
  | .callable _ _ _ parameters body _ =>
    Parameter.walkAll enters parameters ++ Statement.walkAll enters body
  | .inlineFunction _ _ parameters value _ =>
    Parameter.walkAll enters parameters ++ value.walk enters
  | .define _ parameters _ _ => Parameter.walkOption enters parameters
  | .defineLong _ parameters _ _ => Parameter.walkOption enters parameters
  | .inclusion _ => []
  | .branch _ condition consequent elseIfs alternate _ =>
    condition.walk enters ++ Statement.walkAll enters consequent ++ ElseIf.walkAll enters elseIfs ++
      Statement.walkOption enters alternate
  | .loop condition body _ => condition.walk enters ++ Statement.walkAll enters body
  | .result value _ => value.walk enters
  | .call expression _ => expression.walk enters
  | .unknown _ _ _ => []
  | .text _ _ => []

def ElseIf.walk (enters : Node → Bool) : ElseIf → List Node
  | .mk condition body _ => condition.walk enters ++ Statement.walkAll enters body

def Statement.walkAll (enters : Node → Bool) : List Statement → List Node
  | [] => []
  | statement :: rest =>
    .statement statement ::
      ((if enters (.statement statement) then statement.walkBelow enters else []) ++
        Statement.walkAll enters rest)

def ElseIf.walkAll (enters : Node → Bool) : List ElseIf → List Node
  | [] => []
  | clause :: rest => clause.walk enters ++ ElseIf.walkAll enters rest

def Statement.walkOption (enters : Node → Bool) : Option (List Statement) → List Node
  | none => []
  | some body => Statement.walkAll enters body

end

def Statement.walk (enters : Node → Bool) (statement : Statement) : List Node :=
  .statement statement :: if enters (.statement statement) then statement.walkBelow enters else []

def Root.walk (enters : Node → Bool) (root : Root) : List Node :=
  Statement.walkAll enters root.statements

def Root.nodes (root : Root) : List Node :=
  root.walk fun _ => true

end DiagramAssist
