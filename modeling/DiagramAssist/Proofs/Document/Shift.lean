import DiagramAssist.Document.Statement
import DiagramAssist.Diagnostic

/-! # Moving a tree down the document

Moving everything by two distances, one after the other, moves it by their sum. This holds of spans
and of everything that carries spans, and it is what makes a line of a document independent of the
place it stands at.
-/

namespace DiagramAssist

namespace Span

@[simp] theorem shift_shift (first second : Nat) (span : Span) :
    (span.shift first).shift second = span.shift (first + second) := by
  simp only [shift, Nat.add_assoc]

theorem shift_between (distance a b : Nat) :
    (between a b).shift distance = between (a + distance) (b + distance) := by
  simp only [shift, between, Span.mk.injEq]
  omega

end Span

namespace Located

variable {α : Type}

@[simp] theorem value_shift (distance : Nat) (located : Located α) :
    (located.shift distance).value = located.value := rfl

@[simp] theorem shift_shift (first second : Nat) (located : Located α) :
    (located.shift first).shift second = located.shift (first + second) := by
  simp only [shift, Span.shift_shift]

@[simp] theorem map_shift_shift (first second : Nat) (located : Option (Located α)) :
    (located.map (·.shift first)).map (·.shift second) =
      located.map (·.shift (first + second)) := by
  cases located with
  | none => rfl
  | some located => simp only [Option.map_some, shift_shift]

end Located

mutual

@[simp] theorem Expression.shift_shift (first second : Nat) : (expression : Expression) →
    (expression.shift first).shift second = expression.shift (first + second)
  | .binary left operator right span => by
    simp only [Expression.shift, Expression.shift_shift first second left,
      Expression.shift_shift first second right, Located.shift_shift, Span.shift_shift]
  | .parenthesized inner span => by
    simp only [Expression.shift, Expression.shift_shift first second inner, Span.shift_shift]
  | .call builtin callee arguments span => by
    simp only [Expression.shift, Argument.shiftAll_shiftAll first second arguments,
      Located.shift_shift, Span.shift_shift]
  | .string value span => by simp only [Expression.shift, Span.shift_shift]
  | .number value span => by simp only [Expression.shift, Span.shift_shift]
  | .identifier name span => by simp only [Expression.shift, Span.shift_shift]

theorem Argument.shift_shift (first second : Nat) : (argument : Argument) →
    (argument.shift first).shift second = argument.shift (first + second)
  | .mk name value span => by
    simp only [Argument.shift, Expression.shift_shift first second value, Located.map_shift_shift,
      Span.shift_shift]

theorem Argument.shiftAll_shiftAll (first second : Nat) : (arguments : List Argument) →
    Argument.shiftAll second (Argument.shiftAll first arguments) =
      Argument.shiftAll (first + second) arguments
  | [] => rfl
  | argument :: rest => by
    simp only [Argument.shiftAll, Argument.shift_shift first second argument,
      Argument.shiftAll_shiftAll first second rest]

end

namespace Parameter

@[simp] theorem shift_shift (first second : Nat) (parameter : Parameter) :
    (parameter.shift first).shift second = parameter.shift (first + second) := by
  simp only [shift, Located.shift_shift, Span.shift_shift, Option.map_map, Function.comp_def,
    Expression.shift_shift]

@[simp] theorem map_shift_shift (first second : Nat) (parameters : List Parameter) :
    (parameters.map (·.shift first)).map (·.shift second) =
      parameters.map (·.shift (first + second)) := by
  simp only [List.map_map, Function.comp_def, shift_shift]

@[simp] theorem mapOption_shift_shift (first second : Nat) (parameters : Option (List Parameter)) :
    (parameters.map (·.map (·.shift first))).map (·.map (·.shift second)) =
      parameters.map (·.map (·.shift (first + second))) := by
  cases parameters with
  | none => rfl
  | some parameters => simp only [Option.map_some, map_shift_shift]

end Parameter

@[simp] theorem Include.shift_shift (first second : Nat) (content : Include) :
    (content.shift first).shift second = content.shift (first + second) := by
  simp only [Include.shift, Located.shift_shift, Located.map_shift_shift, Span.shift_shift]

mutual

@[simp] theorem Statement.shift_shift (first second : Nat) : (statement : Statement) →
    (statement.shift first).shift second = statement.shift (first + second)
  | .declaration name initializer scope conditional span => by
    simp only [Statement.shift, Located.shift_shift, Expression.shift_shift, Span.shift_shift]
  | .callable kind unquoted name parameters body span => by
    simp only [Statement.shift, Statement.shiftAll_shiftAll first second body, Located.shift_shift,
      Parameter.map_shift_shift, Span.shift_shift]
  | .inlineFunction unquoted name parameters value span => by
    simp only [Statement.shift, Located.shift_shift, Parameter.map_shift_shift,
      Expression.shift_shift, Span.shift_shift]
  | .define name parameters value span => by
    simp only [Statement.shift, Located.shift_shift, Parameter.mapOption_shift_shift,
      Located.map_shift_shift, Span.shift_shift]
  | .defineLong name parameters body span => by
    simp only [Statement.shift, Located.shift_shift, Parameter.mapOption_shift_shift,
      Span.shift_shift]
  | .inclusion content => by simp only [Statement.shift, Include.shift_shift]
  | .branch kind condition consequent elseIfs alternate span => by
    simp only [Statement.shift, Statement.shiftAll_shiftAll first second consequent,
      ElseIf.shiftAll_shiftAll first second elseIfs,
      Statement.shiftOption_shiftOption first second alternate, Expression.shift_shift,
      Span.shift_shift]
  | .loop condition body span => by
    simp only [Statement.shift, Statement.shiftAll_shiftAll first second body,
      Expression.shift_shift, Span.shift_shift]
  | .result value span => by simp only [Statement.shift, Expression.shift_shift, Span.shift_shift]
  | .call expression span => by
    simp only [Statement.shift, Expression.shift_shift, Span.shift_shift]
  | .unknown directive text span => by
    simp only [Statement.shift, Located.shift_shift, Span.shift_shift]
  | .text text span => by simp only [Statement.shift, Span.shift_shift]

theorem ElseIf.shift_shift (first second : Nat) : (clause : ElseIf) →
    (clause.shift first).shift second = clause.shift (first + second)
  | .mk condition body span => by
    simp only [ElseIf.shift, Statement.shiftAll_shiftAll first second body, Expression.shift_shift,
      Span.shift_shift]

theorem Statement.shiftAll_shiftAll (first second : Nat) : (statements : List Statement) →
    Statement.shiftAll second (Statement.shiftAll first statements) =
      Statement.shiftAll (first + second) statements
  | [] => rfl
  | statement :: rest => by
    simp only [Statement.shiftAll, Statement.shift_shift first second statement,
      Statement.shiftAll_shiftAll first second rest]

theorem ElseIf.shiftAll_shiftAll (first second : Nat) : (clauses : List ElseIf) →
    ElseIf.shiftAll second (ElseIf.shiftAll first clauses) =
      ElseIf.shiftAll (first + second) clauses
  | [] => rfl
  | clause :: rest => by
    simp only [ElseIf.shiftAll, ElseIf.shift_shift first second clause,
      ElseIf.shiftAll_shiftAll first second rest]

theorem Statement.shiftOption_shiftOption (first second : Nat) :
    (statements : Option (List Statement)) →
    Statement.shiftOption second (Statement.shiftOption first statements) =
      Statement.shiftOption (first + second) statements
  | none => rfl
  | some statements => by
    simp only [Statement.shiftOption, Statement.shiftAll_shiftAll first second statements]

end

/-- Statements are moved one by one. -/
theorem Statement.shiftAll_eq_map (distance : Nat) (statements : List Statement) :
    Statement.shiftAll distance statements = statements.map (·.shift distance) := by
  induction statements with
  | nil => rfl
  | cons statement rest ih => simp only [Statement.shiftAll, List.map_cons, ih]

/-- Clauses are moved one by one. -/
theorem ElseIf.shiftAll_eq_map (distance : Nat) (clauses : List ElseIf) :
    ElseIf.shiftAll distance clauses = clauses.map (·.shift distance) := by
  induction clauses with
  | nil => rfl
  | cons clause rest ih => simp only [ElseIf.shiftAll, List.map_cons, ih]

theorem Statement.shiftAll_reverse (distance : Nat) (statements : List Statement) :
    Statement.shiftAll distance statements.reverse =
      (Statement.shiftAll distance statements).reverse := by
  simp only [Statement.shiftAll_eq_map, List.map_reverse]

namespace Diagnostic

/-- A report keeps its fault, message and suggestion wherever it is moved; only its labels move. -/
theorem shift_shift (first second : Nat) (diagnostic : Diagnostic) :
    (diagnostic.shift first).shift second = diagnostic.shift (first + second) := by
  simp only [shift, List.map_map, Function.comp_def, Label.shift, Span.shift_shift]

end Diagnostic

def ParseError.shift (distance : Nat) (error : ParseError) : ParseError :=
  ⟨error.diagnostics.map (·.shift distance)⟩

end DiagramAssist
