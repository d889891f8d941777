import DiagramAssist.Document.Expression

/-! # Statements

A document is a sequence of statements. Most occupy one line; blocks run from an opening directive
to the closing one and hold statements of their own.
-/

namespace DiagramAssist

/-- The scope word of a variable declaration. -/
inductive Scope where
  | local
  | global
  | unspecified
deriving DecidableEq, Inhabited

/-- The two kinds of callable that have a block as body. -/
inductive BlockCallable where
  | function
  | procedure
deriving DecidableEq, Inhabited

/-- The spelling of an include directive. -/
inductive IncludeDirective where
  | include
  | includeMany
  | includeOnce
  | includeUrl
  | includeSub
deriving DecidableEq, Inhabited

/-- The word written after the `!`. -/
def IncludeDirective.word : IncludeDirective → String
  | .include => "include"
  | .includeMany => "include_many"
  | .includeOnce => "include_once"
  | .includeUrl => "includeurl"
  | .includeSub => "includesub"

inductive TargetKind where
  /-- A module of the standard library, written in angle brackets. -/
  | standard
  /-- A path relative to the including document. -/
  | path
  /-- An absolute address. -/
  | url
deriving DecidableEq, Inhabited

def TargetKind.word : TargetKind → String
  | .standard => "standard"
  | .path => "path"
  | .url => "url"

structure Include where
  directive : IncludeDirective
  target : Located String
  kind : TargetKind
  /-- The tag after the last `!` of the target. -/
  part : Option (Located String)
  span : Span
deriving DecidableEq, Inhabited

/-- Which directive opened a branch. -/
inductive ConditionKind where
  | holds
  | defined
  | undefined
deriving DecidableEq, Inhabited

/-- The word written after the `!`. -/
def ConditionKind.word : ConditionKind → String
  | .holds => "if"
  | .defined => "ifdef"
  | .undefined => "ifndef"

mutual

inductive Statement where
  /-- `!$name = value`; a conditional one, written `?=`, keeps an existing value. -/
  | declaration (name : Located String) (initializer : Expression) (scope : Scope)
      (conditional : Bool) (span : Span)
  /-- `!function $name(..)` or `!procedure $name(..)` with a block as body. -/
  | callable (kind : BlockCallable) (unquoted : Bool) (name : Located String)
      (parameters : List Parameter) (body : List Statement) (span : Span)
  /-- `!function $name(..) !return value` on one line. -/
  | inlineFunction (unquoted : Bool) (name : Located String) (parameters : List Parameter)
      (value : Expression) (span : Span)
  /-- `!define NAME value`; the list is present whenever parentheses are written. -/
  | define (name : Located String) (parameters : Option (List Parameter))
      (value : Option (Located String)) (span : Span)
  /-- `!definelong NAME` with raw lines as body. -/
  | defineLong (name : Located String) (parameters : Option (List Parameter))
      (body : Located String) (span : Span)
  | inclusion (content : Include)
  /-- `!if`, `!ifdef` or `!ifndef` with its clauses. -/
  | branch (kind : ConditionKind) (condition : Expression) (consequent : List Statement)
      (elseIfs : List ElseIf) (alternate : Option (List Statement)) (span : Span)
  | loop (condition : Expression) (body : List Statement) (span : Span)
  | result (value : Expression) (span : Span)
  /-- A line that holds one call. -/
  | call (expression : Expression) (span : Span)
  /-- A `!` line that is no known directive, kept as it is written. -/
  | unknown (directive : Located String) (text : String) (span : Span)
  /-- A line of the diagram itself. -/
  | text (text : String) (span : Span)

inductive ElseIf where
  | mk (condition : Expression) (body : List Statement) (span : Span)

end

instance : Inhabited Statement := ⟨.text "" default⟩

instance : Inhabited ElseIf := ⟨.mk default [] default⟩

namespace ElseIf

def condition : ElseIf → Expression
  | .mk condition _ _ => condition

def body : ElseIf → List Statement
  | .mk _ body _ => body

/-- Where the clause stands: up to the directive that ends it. -/
def span : ElseIf → Span
  | .mk _ _ span => span

end ElseIf

structure Root where
  statements : List Statement
  span : Span
deriving Inhabited

def Statement.span : Statement → Span
  | .declaration _ _ _ _ span => span
  | .callable _ _ _ _ _ span => span
  | .inlineFunction _ _ _ _ span => span
  | .define _ _ _ span => span
  | .defineLong _ _ _ span => span
  | .inclusion content => content.span
  | .branch _ _ _ _ _ span => span
  | .loop _ _ span => span
  | .result _ span => span
  | .call _ span => span
  | .unknown _ _ span => span
  | .text _ span => span

/-- The shape of a node. -/
inductive NodeKind where
  | root
  | declaration
  | function
  | procedure
  | inlineFunction
  | define
  | defineLong
  | inclusion
  | branch
  | loop
  | result
  | callLine
  | unknown
  | text
  | binary
  | parenthesized
  | call
  | string
  | number
  | identifier
deriving DecidableEq, Inhabited

def NodeKind.name : NodeKind → String
  | .root => "Root"
  | .declaration => "VariableDeclaration"
  | .function => "FunctionDeclaration"
  | .procedure => "ProcedureDeclaration"
  | .inlineFunction => "InlineFunctionDeclaration"
  | .define => "DefineStatement"
  | .defineLong => "DefineLongStatement"
  | .inclusion => "IncludeStatement"
  | .branch => "IfStatement"
  | .loop => "WhileStatement"
  | .result => "ReturnStatement"
  | .callLine => "ExpressionStatement"
  | .unknown => "UnknownStatement"
  | .text => "DiagramText"
  | .binary => "BinaryExpression"
  | .parenthesized => "ParenthesizedExpression"
  | .call => "CallExpression"
  | .string => "StringLiteral"
  | .number => "NumberLiteral"
  | .identifier => "Identifier"

def Statement.kind : Statement → NodeKind
  | .declaration .. => .declaration
  | .callable .function .. => .function
  | .callable .procedure .. => .procedure
  | .inlineFunction .. => .inlineFunction
  | .define .. => .define
  | .defineLong .. => .defineLong
  | .inclusion _ => .inclusion
  | .branch .. => .branch
  | .loop .. => .loop
  | .result .. => .result
  | .call .. => .callLine
  | .unknown .. => .unknown
  | .text .. => .text

def Expression.kind : Expression → NodeKind
  | .binary .. => .binary
  | .parenthesized .. => .parenthesized
  | .call .. => .call
  | .string .. => .string
  | .number .. => .number
  | .identifier .. => .identifier

def Include.shift (distance : Nat) (content : Include) : Include :=
  { content with
    target := content.target.shift distance
    part := content.part.map (·.shift distance)
    span := content.span.shift distance }

mutual

def Statement.shift (distance : Nat) : Statement → Statement
  | .declaration name initializer scope conditional span =>
    .declaration (name.shift distance) (initializer.shift distance) scope conditional
      (span.shift distance)
  | .callable kind unquoted name parameters body span =>
    .callable kind unquoted (name.shift distance) (parameters.map (·.shift distance))
      (Statement.shiftAll distance body) (span.shift distance)
  | .inlineFunction unquoted name parameters value span =>
    .inlineFunction unquoted (name.shift distance) (parameters.map (·.shift distance))
      (value.shift distance) (span.shift distance)
  | .define name parameters value span =>
    .define (name.shift distance) (parameters.map (·.map (·.shift distance)))
      (value.map (·.shift distance)) (span.shift distance)
  | .defineLong name parameters body span =>
    .defineLong (name.shift distance) (parameters.map (·.map (·.shift distance)))
      (body.shift distance) (span.shift distance)
  | .inclusion content => .inclusion (content.shift distance)
  | .branch kind condition consequent elseIfs alternate span =>
    .branch kind (condition.shift distance) (Statement.shiftAll distance consequent)
      (ElseIf.shiftAll distance elseIfs) (Statement.shiftOption distance alternate)
      (span.shift distance)
  | .loop condition body span =>
    .loop (condition.shift distance) (Statement.shiftAll distance body) (span.shift distance)
  | .result value span => .result (value.shift distance) (span.shift distance)
  | .call expression span => .call (expression.shift distance) (span.shift distance)
  | .unknown directive text span => .unknown (directive.shift distance) text (span.shift distance)
  | .text text span => .text text (span.shift distance)

def ElseIf.shift (distance : Nat) : ElseIf → ElseIf
  | .mk condition body span =>
    .mk (condition.shift distance) (Statement.shiftAll distance body) (span.shift distance)

def Statement.shiftAll (distance : Nat) : List Statement → List Statement
  | [] => []
  | statement :: rest => statement.shift distance :: Statement.shiftAll distance rest

def ElseIf.shiftAll (distance : Nat) : List ElseIf → List ElseIf
  | [] => []
  | clause :: rest => clause.shift distance :: ElseIf.shiftAll distance rest

def Statement.shiftOption (distance : Nat) : Option (List Statement) → Option (List Statement)
  | none => none
  | some statements => some (Statement.shiftAll distance statements)

end

def Include.same (left right : Include) : Bool :=
  left.directive == right.directive && left.target.same right.target && left.kind == right.kind &&
    Located.sameOption left.part right.part && left.span == right.span

def Parameter.sameOption : Option (List Parameter) → Option (List Parameter) → Bool
  | none, none => true
  | some left, some right => sameList Parameter.same left right
  | _, _ => false

mutual

/-- Two statements say the same: like `Expression.same`, node by node. The name of a declared
variable counts with its place. -/
def Statement.same : Statement → Statement → Bool
  | .declaration name initializer scope conditional span,
      .declaration name' initializer' scope' conditional' span' =>
    name == name' && initializer.same initializer' && scope == scope' &&
      conditional == conditional' && span == span'
  | .callable kind unquoted name parameters body span,
      .callable kind' unquoted' name' parameters' body' span' =>
    kind == kind' && unquoted == unquoted' && name.same name' &&
      sameList Parameter.same parameters parameters' && Statement.sameAll body body' &&
      span == span'
  | .inlineFunction unquoted name parameters value span,
      .inlineFunction unquoted' name' parameters' value' span' =>
    unquoted == unquoted' && name.same name' && sameList Parameter.same parameters parameters' &&
      value.same value' && span == span'
  | .define name parameters value span, .define name' parameters' value' span' =>
    name.same name' && Parameter.sameOption parameters parameters' &&
      Located.sameOption value value' && span == span'
  | .defineLong name parameters body span, .defineLong name' parameters' body' span' =>
    name.same name' && Parameter.sameOption parameters parameters' && body.same body' &&
      span == span'
  | .inclusion content, .inclusion content' => content.same content'
  | .branch kind condition consequent elseIfs alternate span,
      .branch kind' condition' consequent' elseIfs' alternate' span' =>
    kind == kind' && condition.same condition' && Statement.sameAll consequent consequent' &&
      ElseIf.sameAll elseIfs elseIfs' && Statement.sameOption alternate alternate' && span == span'
  | .loop condition body span, .loop condition' body' span' =>
    condition.same condition' && Statement.sameAll body body' && span == span'
  | .result value span, .result value' span' => value.same value' && span == span'
  | .call expression span, .call expression' span' =>
    expression.same expression' && span == span'
  | .unknown directive text span, .unknown directive' text' span' =>
    directive.same directive' && text == text' && span == span'
  | .text text span, .text text' span' => text == text' && span == span'
  | _, _ => false
termination_by structural left => left

def ElseIf.same : ElseIf → ElseIf → Bool
  | .mk condition body span, .mk condition' body' span' =>
    condition.same condition' && Statement.sameAll body body' && span == span'
termination_by structural left => left

def Statement.sameAll : List Statement → List Statement → Bool
  | [], [] => true
  | statement :: rest, statement' :: rest' =>
    statement.same statement' && Statement.sameAll rest rest'
  | _, _ => false
termination_by structural left => left

def ElseIf.sameAll : List ElseIf → List ElseIf → Bool
  | [], [] => true
  | clause :: rest, clause' :: rest' => clause.same clause' && ElseIf.sameAll rest rest'
  | _, _ => false
termination_by structural left => left

def Statement.sameOption : Option (List Statement) → Option (List Statement) → Bool
  | none, none => true
  | some body, some body' => Statement.sameAll body body'
  | _, _ => false
termination_by structural left => left

end

def Root.same (left right : Root) : Bool :=
  Statement.sameAll left.statements right.statements && left.span == right.span

end DiagramAssist
