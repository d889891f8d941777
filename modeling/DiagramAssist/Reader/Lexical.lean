import DiagramAssist.Document.Expression
import DiagramAssist.Reader.Basic
import DiagramAssist.Text.Blank

/-! # Words of a line

Names, literals, operators and blanks, read directly off the line.
-/

namespace DiagramAssist.Reader

/-- A letter, a digit or an underscore, all of ASCII. -/
def isNameChar (c : Char) : Bool :=
  c.isAlphanum || c == '_'

/-- A character that may start a bare name. -/
def isNameStart (c : Char) : Bool :=
  c.isAlpha || c == '_'

/-- Spaces and tabs, possibly none. -/
def spaces : Reader Unit := do
  let _ ← takeWhile Text.isSpace

/-- Spaces and tabs, at least one. -/
def spaces1 : Reader Unit := do
  let _ ← takeWhile1 Text.isSpace

/-- A word that is not the beginning of a longer name. -/
def keyword (word : String) : Reader Unit := do
  literal word
  notFollowedBy isNameChar

/-- The `!` of a directive behind leading blanks; gives its column. -/
def directiveStart : Reader Nat := do
  spaces
  let start ← column
  char '!'
  return start

/-- The `!` and the word of a directive; gives the column of the `!`. -/
def directive (word : String) : Reader Nat := do
  let start ← directiveStart
  keyword word
  return start

/-- A text with the place it was read at. -/
def located (text : List Char) (start : Nat) : Located String :=
  ⟨String.ofList text, .between start (start + Text.byteLength text)⟩

def bareName : Reader (Located String) := do
  let start ← column
  let first ← one isNameStart
  let more ← takeWhile isNameChar
  return located (first :: more) start

/-- A variable; the `$` is part of its name. -/
def variableName : Reader (Located String) := do
  let start ← column
  char '$'
  let name ← takeWhile1 isNameChar
  return located ('$' :: name) start

def anyName : Reader (Located String) :=
  orElse variableName bareName

/-- A string in single or double quotes, without escapes. A string left open at the end of the line
is no other expression either. -/
def stringLiteral : Reader Expression := do
  let start ← column
  let quote ← one fun c => c == '"' || c == '\''
  let value ← takeWhile fun c => !(c == quote || c == '\n' || c == '\r')
  withClue (.start start) <| withClue (.help "close the string on the same line") <|
    withClue (.fault .unterminatedString) <| expecting "closing quote" <| commit <| char quote
  return .string (String.ofList value) (.between start (← column))

/-- A decimal number with an optional sign and fraction. -/
def numberLiteral : Reader Expression := do
  let start ← column
  let sign ← optional (char '-')
  let integer ← takeWhile1 Char.isDigit
  let fraction ← optional (do char '.'; takeWhile1 Char.isDigit)
  return .number (.ofDecimal sign.isSome integer (fraction.getD [])) (.between start (← column))

/-- The operators in the order they are tried: a longer spelling before its own beginning. -/
def operators : List Operator :=
  [.equal, .notEqual, .greaterEqual, .lessEqual, .and, .or, .greater, .less, .add, .subtract,
    .multiply, .divide]

def operator : Reader (Located Operator) := do
  let start ← column
  let found ← choose (operators.map fun operator => do
    literal operator.spelling
    return operator)
  return ⟨found, .between start (← column)⟩

/-- What is left of the line, with its column. -/
def restOfLine : Reader (List Char × Nat) := do
  let start ← column
  let text ← takeWhile fun _ => true
  return (text, start)

/-- Trailing blanks up to the end of the line; gives the column where they end. `completes` says
whether the ending of the line may end a directive. -/
def endOfStatement (completes : Bool) : Reader Nat := do
  spaces
  let stop ← column
  if completes then
    notFollowedBy fun _ => true
    return stop
  else reject

end DiagramAssist.Reader
