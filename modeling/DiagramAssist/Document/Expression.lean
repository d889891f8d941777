import DiagramAssist.Number.Binary64
import DiagramAssist.Span

/-! # Expressions

The expressions of the directive language. Every node carries the span it was written at.
-/

namespace DiagramAssist

inductive Operator where
  | add
  | subtract
  | multiply
  | divide
  | equal
  | notEqual
  | greaterEqual
  | greater
  | lessEqual
  | less
  | and
  | or
deriving DecidableEq, Inhabited

def Operator.spelling : Operator → String
  | .add => "+"
  | .subtract => "-"
  | .multiply => "*"
  | .divide => "/"
  | .equal => "=="
  | .notEqual => "!="
  | .greaterEqual => ">="
  | .greater => ">"
  | .lessEqual => "<="
  | .less => "<"
  | .and => "&&"
  | .or => "||"

mutual

/-- An expression. A chain of operators groups to the left, without precedence. -/
inductive Expression where
  | binary (left : Expression) (operator : Located Operator) (right : Expression) (span : Span)
  | parenthesized (inner : Expression) (span : Span)
  /-- A call; the callee of a built-in one is written with a leading `%`, which is not kept. -/
  | call (builtin : Bool) (callee : Located String) (arguments : List Argument) (span : Span)
  | string (value : String) (span : Span)
  | number (value : Binary64) (span : Span)
  /-- A variable, written with a leading `$` that is kept, or the bare name of a macro. -/
  | identifier (name : String) (span : Span)

/-- An argument of a call, possibly named. -/
inductive Argument where
  | mk (name : Option (Located String)) (value : Expression) (span : Span)

end

instance : Inhabited Expression := ⟨.identifier "" default⟩

instance : Inhabited Argument := ⟨.mk none default default⟩

namespace Argument

def name : Argument → Option (Located String)
  | .mk name _ _ => name

def value : Argument → Expression
  | .mk _ value _ => value

def span : Argument → Span
  | .mk _ _ span => span

end Argument

/-- A formal parameter, possibly with a default value. -/
structure Parameter where
  name : Located String
  default : Option Expression
  span : Span
deriving Inhabited

namespace Expression

def span : Expression → Span
  | .binary _ _ _ span => span
  | .parenthesized _ span => span
  | .call _ _ _ span => span
  | .string _ span => span
  | .number _ span => span
  | .identifier _ span => span

end Expression

mutual

def Expression.shift (distance : Nat) : Expression → Expression
  | .binary left operator right span =>
    .binary (left.shift distance) (operator.shift distance) (right.shift distance)
      (span.shift distance)
  | .parenthesized inner span => .parenthesized (inner.shift distance) (span.shift distance)
  | .call builtin callee arguments span =>
    .call builtin (callee.shift distance) (Argument.shiftAll distance arguments)
      (span.shift distance)
  | .string value span => .string value (span.shift distance)
  | .number value span => .number value (span.shift distance)
  | .identifier name span => .identifier name (span.shift distance)

def Argument.shift (distance : Nat) : Argument → Argument
  | .mk name value span =>
    .mk (name.map (·.shift distance)) (value.shift distance) (span.shift distance)

def Argument.shiftAll (distance : Nat) : List Argument → List Argument
  | [] => []
  | argument :: rest => argument.shift distance :: Argument.shiftAll distance rest

end

def Parameter.shift (distance : Nat) (parameter : Parameter) : Parameter where
  name := parameter.name.shift distance
  default := parameter.default.map (·.shift distance)
  span := parameter.span.shift distance

namespace Located

/-- Optional located values say the same when both are absent or both say the same. -/
def sameOption {α : Type} [BEq α] : Option (Located α) → Option (Located α) → Bool
  | none, none => true
  | some left, some right => left.same right
  | _, _ => false

end Located

mutual

/-- Two expressions say the same: nodes stand at the same spans and carry the same values, numbers
being compared numerically, while the places of names and operators are not looked at. -/
def Expression.same : Expression → Expression → Bool
  | .binary left operator right span, .binary left' operator' right' span' =>
    left.same left' && operator.same operator' && right.same right' && span == span'
  | .parenthesized inner span, .parenthesized inner' span' => inner.same inner' && span == span'
  | .call builtin callee arguments span, .call builtin' callee' arguments' span' =>
    builtin == builtin' && callee.same callee' && Argument.sameAll arguments arguments' &&
      span == span'
  | .string value span, .string value' span' => value == value' && span == span'
  | .number value span, .number value' span' => value.same value' && span == span'
  | .identifier name span, .identifier name' span' => name == name' && span == span'
  | _, _ => false

def Argument.same : Argument → Argument → Bool
  | .mk name value span, .mk name' value' span' =>
    Located.sameOption name name' && value.same value' && span == span'

def Argument.sameAll : List Argument → List Argument → Bool
  | [], [] => true
  | argument :: rest, argument' :: rest' => argument.same argument' && Argument.sameAll rest rest'
  | _, _ => false

end

def Expression.sameOption : Option Expression → Option Expression → Bool
  | none, none => true
  | some left, some right => left.same right
  | _, _ => false

/-- Two lists agree element by element under a comparison. -/
def sameList {α : Type} (same : α → α → Bool) : List α → List α → Bool
  | [], [] => true
  | left :: lefts, right :: rights => same left right && sameList same lefts rights
  | _, _ => false

def Parameter.same (left right : Parameter) : Bool :=
  left.name.same right.name && Expression.sameOption left.default right.default &&
    left.span == right.span

end DiagramAssist
