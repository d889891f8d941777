import DiagramAssist.Document.Expression
import DiagramAssist.Number.Shortest

/-! # Writing expressions

An expression is written in one normal form: one blank around an operator, none inside parentheses,
a comma and a blank between arguments. A string is put in double quotes unless it holds one.
-/

namespace DiagramAssist

/-- A string literal. It cannot hold both quotes, so one of them is free to enclose it. -/
def quoteString (value : String) : String :=
  let quote := if value.toList.contains '"' then "'" else "\""
  quote ++ value ++ quote

mutual

def Expression.render : Expression → String
  | .binary left operator right _ =>
    left.render ++ " " ++ operator.value.spelling ++ " " ++ right.render
  | .parenthesized inner _ => "(" ++ inner.render ++ ")"
  | .call builtin callee arguments _ =>
    (if builtin then "%" else "") ++ callee.value ++ "(" ++
      ", ".intercalate (Argument.renderAll arguments) ++ ")"
  | .string value _ => quoteString value
  | .number value _ => value.render
  | .identifier name _ => name

def Argument.render : Argument → String
  | .mk name value _ =>
    (match name with
      | some name => name.value ++ "="
      | none => "") ++ value.render

def Argument.renderAll : List Argument → List String
  | [] => []
  | argument :: rest => argument.render :: Argument.renderAll rest

end

def Parameter.render (parameter : Parameter) : String :=
  match parameter.default with
  | some value => parameter.name.value ++ " = " ++ value.render
  | none => parameter.name.value

end DiagramAssist
