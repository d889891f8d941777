import DiagramAssist.Document.Statement
import DiagramAssist.Grammar.Expression

/-! # Grammar of lines

What a single line says: a whole statement, or the opening directive of a block. Productions are
tried in a fixed order. Once the word of a known directive has been read the line is committed, so
that a malformed directive is an error and never diagram text. All columns count from the start of
the line.
-/

namespace DiagramAssist.Grammar

open Reader

inductive Header where
  | callable (kind : BlockCallable) (unquoted : Bool) (name : Located String)
      (parameters : List Parameter)
  | branch (kind : ConditionKind) (condition : Expression)
  | loop (condition : Expression)
  | defineLong (name : Located String) (parameters : Option (List Parameter))

/-- What a line says on its own. -/
inductive Reading where
  | whole (statement : Statement)
  /-- A block opens with the directive at this column. -/
  | opens (start : Nat) (header : Header)

/-- `![global|local] $name = value`, or with `?=`. -/
def declaration (completes : Bool) : Reader Reading := do
  let start ← directiveStart
  let scope ← optional (do
    let scope ← choose
      [(do keyword "global"; return Scope.global), (do keyword "local"; return Scope.local)]
    spaces1
    return scope)
  let name ← variableName
  spaces
  let conditional ← choose [(do literal "?="; return true), (do literal "="; return false)]
  directiveRest start .unexpectedToken do
    spaces
    let initializer ← expecting "variable value" expression
    let stop ← endOfStatement completes
    return .whole (.declaration name initializer (scope.getD .unspecified) conditional
      (.between start stop))

/-- The name behind the word of a declaring directive. -/
def declaredName (start : Nat) (what : String) : Reader (Located String) :=
  directiveRest start .missingName <| expecting what do
    spaces1
    anyName

/-- `!definelong NAME[(params)]`. -/
def defineLongHeader (completes : Bool) : Reader Reading := do
  let start ← directive "definelong"
  let name ← declaredName start "macro name"
  let parameters ← directiveRest start .unexpectedToken do
    let parameters ← optionalParameterList
    let _ ← endOfStatement completes
    return parameters
  return .opens start (.defineLong name parameters)

/-- `!define NAME[(params)] [value]`. The value runs to the end of the line, less trailing blanks.
-/
def define : Reader Reading := do
  let start ← directive "define"
  let name ← declaredName start "macro name"
  let parameters ← directiveRest start .unexpectedToken optionalParameterList
  let headerStop ← column
  spaces
  let (rest, valueStart) ← restOfLine
  let text := Text.trimEnd rest
  let value := if text.isEmpty then none else some (located text valueStart)
  let stop := match value with
    | some value => value.span.stop
    | none => headerStop
  return .whole (.define name parameters value (.between start stop))

/-- Splits the tag behind the last `!` off an include target that stands at `start`. The tag is not
empty and holds no `/`, and something stands before it. -/
def splitPart (text : List Char) (start : Nat) : Located String × Option (Located String) :=
  let part := (text.reverse.takeWhile (· != '!')).reverse
  let target := text.take (text.length - part.length - 1)
  if part.length < text.length && !target.isEmpty && !part.isEmpty && !part.contains '/' then
    (located target start, some (located part (start + Text.byteLength target + 1)))
  else (located text start, none)

structure Target where
  target : Located String
  kind : TargetKind
  part : Option (Located String)

/-- A module of the standard library in angle brackets. -/
def standardTarget : Reader Target := do
  char '<'
  let start ← column
  let text ← takeWhile1 fun c => !(c == '>' || c == '\n' || c == '\r')
  expecting "`>`" <| commit <| char '>'
  let (target, part) := splitPart (Text.trimEnd text) start
  return { target, kind := .standard, part }

/-- A path or an address, up to the next blank. -/
def locationTarget (directive : IncludeDirective) : Reader Target := do
  let start ← column
  let text ← takeWhile1 fun c => !(c == ' ' || c == '\t' || c == '\n' || c == '\r')
  let kind := if directive == .includeUrl || Text.contains "://".toList text then .url else .path
  let (target, part) := splitPart text start
  return { target, kind, part }

/-- The words of the include directives, a longer one before its own beginning. -/
def includeDirective : Reader IncludeDirective :=
  choose ([.includeMany, .includeOnce, .includeUrl, .includeSub, .include].map fun directive => do
    keyword (IncludeDirective.word directive)
    return directive)

/-- `!include target` and its variants. -/
def inclusion (completes : Bool) : Reader Reading := do
  let start ← directiveStart
  let directive ← includeDirective
  directiveRest start .malformedInclude do
    expecting "include target" spaces1
    let found ← expecting "include target" (orElse standardTarget (locationTarget directive))
    let stop ← endOfStatement completes
    return .whole (.inclusion
      { directive, target := found.target, kind := found.kind, part := found.part,
        span := .between start stop })

/-- `!return value` behind the header of a function. -/
def inlineReturn : Reader Expression := do
  spaces
  char '!'
  keyword "return"
  spaces1
  expression

/-- `![unquoted] function` or `procedure`. -/
def callable (completes : Bool) : Reader Reading := do
  let start ← directiveStart
  let unquoted ← optional (do keyword "unquoted"; spaces1)
  let kind ← choose
    [(do keyword "function"; return BlockCallable.function),
      (do keyword "procedure"; return BlockCallable.procedure)]
  let name ← declaredName start
    (match kind with
      | .function => "function name"
      | .procedure => "procedure name")
  let (parameters, value, stop) ← directiveRest start .unexpectedToken do
    let parameters ← parameterList
    let value ← match kind with
      | .function => optional inlineReturn
      | .procedure => pure none
    let stop ← endOfStatement completes
    return (parameters, value, stop)
  match value with
  | some value =>
    return .whole (.inlineFunction unquoted.isSome name parameters value (.between start stop))
  | none => return .opens start (.callable kind unquoted.isSome name parameters)

/-- The rest of a line that holds only a condition: an expression, or a name where the question is
whether something is defined. -/
def conditionRest (kind : ConditionKind) (completes : Bool) : Reader Expression := do
  expecting "condition" spaces1
  let condition ← match kind with
    | .holds => expecting "condition" expression
    | _ => do
      let name ← expecting "macro name" anyName
      pure (.identifier name.value name.span)
  let _ ← endOfStatement completes
  return condition

/-- `!if`, `!ifdef` or `!ifndef`. -/
def branchHeader (completes : Bool) : Reader Reading := do
  let start ← directiveStart
  let kind ← choose ([.defined, .undefined, .holds].map fun kind => do
    keyword (ConditionKind.word kind)
    return kind)
  let condition ← directiveRest start .unexpectedToken (conditionRest kind completes)
  return .opens start (.branch kind condition)

/-- `!while condition`. -/
def loopHeader (completes : Bool) : Reader Reading := do
  let start ← directive "while"
  let condition ← directiveRest start .unexpectedToken (conditionRest .holds completes)
  return .opens start (.loop condition)

/-- `!return value`. -/
def result (completes : Bool) : Reader Reading := do
  let start ← directive "return"
  directiveRest start .unexpectedToken do
    spaces1
    let value ← expecting "return value" expression
    let stop ← endOfStatement completes
    return .whole (.result value (.between start stop))

/-- A line that holds a single call of a built-in function or of a name with a sigil. It never
commits: any other line is diagram text. -/
def callLine (completes : Bool) : Reader Reading :=
  relent do
    spaces
    let call ← callExpression
    if call.builtin || call.callee.value.toList.head? == some '$' then
      let stop ← endOfStatement completes
      return .whole (.call call.toExpression (.between call.span.start stop))
    else reject

/-- Any other `!` line, kept as it is. -/
def unknown : Reader Reading := do
  let start ← directiveStart
  let (text, nameStart) ← restOfLine
  let name := text.takeWhile fun c => isNameChar c || c == '$'
  return .whole (.unknown (located name nameStart) (String.ofList ('!' :: text))
    (.between start (nameStart + Text.byteLength text)))

/-- A line of the diagram, with its leading blanks. -/
def diagramText : Reader Reading := do
  let (text, start) ← restOfLine
  return .whole (.text (String.ofList text) (.between start (start + Text.byteLength text)))

/-- What a line says, by the first production that accepts it. -/
def reading (completes : Bool) : Reader Reading :=
  choose
    [declaration completes, defineLongHeader completes, define, inclusion completes,
      callable completes, branchHeader completes, loopHeader completes, result completes,
      callLine completes, unknown, diagramText]

/-- The word of a directive that may close a block, with its span. -/
def closingWord : Reader (Located String) := do
  let start ← directiveStart
  let word ← takeWhile1 isNameChar
  return ⟨String.ofList word, .between start (← column)⟩

/-- Whether a line closes a raw block: `!enddefinelong` behind any white space. -/
def closesRaw (content : List Char) : Bool :=
  let word := "!enddefinelong".toList
  let trimmed := Text.trimStart content
  word.isPrefixOf trimmed &&
    match trimmed.drop word.length with
    | c :: _ => !isNameChar c
    | [] => true

end DiagramAssist.Grammar
