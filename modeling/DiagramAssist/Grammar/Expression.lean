import DiagramAssist.Reader.Lexical

/-! # Grammar of expressions

Each production is given the reader for the expressions nested inside it, and `expression` ties the
knot. Every level of nesting takes a parenthesis off the line, so the number of characters left
bounds the depth.
-/

namespace DiagramAssist.Grammar

open Reader

def parenthesized (nested : Reader Expression) : Reader Expression := do
  let start ← column
  char '('
  spaces
  let inner ← nested
  spaces
  expecting "`)`" (char ')')
  return .parenthesized inner (.between start (← column))

/-- The name of a named argument with its `=`, which is not the beginning of `==`. -/
def argumentName : Reader (Located String) := do
  let name ← anyName
  spaces
  char '='
  notFollowedBy (· == '=')
  spaces
  return name

def argument (nested : Reader Expression) : Reader Argument := do
  let start ← column
  let name ← optional argumentName
  let value ← nested
  return .mk name value (.between start value.span.stop)

def comma : Reader Unit := do
  spaces
  char ','
  spaces

structure Call where
  builtin : Bool
  callee : Located String
  arguments : List Argument
  span : Span

def Call.toExpression (call : Call) : Expression :=
  .call call.builtin call.callee call.arguments call.span

/-- A call `name(..)`, or `%name(..)` of a built-in function. -/
def call (nested : Reader Expression) : Reader Call := do
  let start ← column
  let sigil ← optional (char '%')
  let callee ← anyName
  char '('
  spaces
  let arguments ← separated comma (argument nested)
  spaces
  expecting "`)`" (char ')')
  return ⟨sigil.isSome, callee, arguments, .between start (← column)⟩

/-- A name standing for itself. -/
def identifier : Reader Expression := do
  let name ← anyName
  return .identifier name.value name.span

/-- An operand. -/
def primary (nested : Reader Expression) : Reader Expression :=
  expecting "expression" <| choose
    [parenthesized nested, stringLiteral, numberLiteral, Call.toExpression <$> call nested,
      identifier]

/-- The operators and operands that follow `left`, at most `bound` of them, grouped to the left. -/
def operations (operand : Reader Expression) :
    (bound : Nat) → (left : Expression) → Reader Expression
  | 0, left => pure left
  | bound + 1, left => do
    match ← optional (do spaces; operator) with
    | none => return left
    | some operator =>
      spaces
      let right ← expecting "operand" operand
      operations operand bound (.binary left operator right (left.span.cover right.span))

/-- An expression nested at most `depth` levels deep. -/
def expressionWithin : (depth : Nat) → Reader Expression
  | 0 => reject
  | depth + 1 => do
    let operand := primary (expressionWithin depth)
    let left ← operand
    operations operand (← remaining).length left

def expression : Reader Expression := do
  expressionWithin ((← remaining).length + 1)

/-- A call, whose arguments are expressions. -/
def callExpression : Reader Call := do
  call (expressionWithin ((← remaining).length + 1))

/-- A parameter with an optional default value. -/
def parameter : Reader Parameter := do
  let name ← expecting "parameter name" anyName
  let default ← optional (do
    spaces
    char '='
    spaces
    expression)
  let stop := match default with
    | some value => value.span.stop
    | none => name.span.stop
  return { name, default, span := .between name.span.start stop }

def parameterList : Reader (List Parameter) := do
  expecting "`(`" (char '(')
  spaces
  let parameters ← separated comma parameter
  spaces
  expecting "`)`" (char ')')
  return parameters

/-- A parameter list, if a parenthesis follows at once. -/
def optionalParameterList : Reader (Option (List Parameter)) := do
  match ← remaining with
  | '(' :: _ => return some (← parameterList)
  | _ => return none

end DiagramAssist.Grammar
