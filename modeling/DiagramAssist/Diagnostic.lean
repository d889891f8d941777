import DiagramAssist.Span

/-! # Diagnostics

A diagnostic describes one malformed directive: a fault, a message, labelled spans and a suggestion.
A failed parse carries a list of them and is located by its first primary label.
-/

namespace DiagramAssist

inductive Fault where
  | unterminatedString
  | unexpectedToken
  | incompleteInput
  | unterminatedBlock
  | missingName
  | malformedInclude
deriving DecidableEq, Inhabited

namespace Fault

def code : Fault → String
  | .unterminatedString => "E001"
  | .unexpectedToken => "E100"
  | .incompleteInput => "E101"
  | .unterminatedBlock => "E102"
  | .missingName => "E103"
  | .malformedInclude => "E104"

def ofCode? (code : String) : Option Fault :=
  [unterminatedString, unexpectedToken, incompleteInput, unterminatedBlock, missingName,
    malformedInclude].find? (·.code == code)

/-- What the fault means, in a few words. -/
def description : Fault → String
  | .unterminatedString => "unterminated string literal"
  | .unexpectedToken => "unexpected token"
  | .incompleteInput => "incomplete input"
  | .unterminatedBlock => "unterminated block"
  | .missingName => "missing declaration name"
  | .malformedInclude => "malformed include target"

/-- The suggestion made when the grammar gives no closer one. -/
def advice : Fault → String
  | .unterminatedString => "close the string with a matching quote on the same line"
  | .unexpectedToken => "check the directive syntax"
  | .incompleteInput => "the document ended in the middle of a directive"
  | .unterminatedBlock => "add the closing directive for this block"
  | .missingName => "give the declaration a name, e.g. `!function $name()`"
  | .malformedInclude => "use `<module/path>`, a relative path or a URL"

end Fault

/-- A message pinned to a span. The primary label says where parsing stopped, a secondary one which
construct was being read. -/
structure Label where
  primary : Bool
  span : Span
  message : String
deriving DecidableEq, Inhabited

def Label.render (label : Label) : String :=
  label.message ++ " (" ++ label.span.render ++ ")"

def Label.shift (distance : Nat) (label : Label) : Label :=
  { label with span := label.span.shift distance }

structure Diagnostic where
  fault : Option Fault
  message : String
  labels : List Label
  help : Option String
deriving DecidableEq, Inhabited

namespace Diagnostic

/-- The first label that says where parsing stopped. -/
def primaryLabel? (diagnostic : Diagnostic) : Option Label :=
  diagnostic.labels.find? (·.primary)

/-- The headline of a diagnostic. -/
def render (diagnostic : Diagnostic) : String :=
  match diagnostic.fault with
  | some fault => "error[" ++ fault.code ++ "]: " ++ diagnostic.message
  | none => "error: " ++ diagnostic.message

def shift (distance : Nat) (diagnostic : Diagnostic) : Diagnostic :=
  { diagnostic with labels := diagnostic.labels.map (·.shift distance) }

end Diagnostic

structure ParseError where
  diagnostics : List Diagnostic
deriving DecidableEq, Inhabited

namespace ParseError

/-- The offset at which parsing stopped: the start of the first primary label, or zero. -/
def position (error : ParseError) : Nat :=
  match error.diagnostics.findSome? (·.primaryLabel?) with
  | some label => label.span.start
  | none => 0

/-- The first diagnostic with its offset, and how many more there are. -/
def render (error : ParseError) : String :=
  match error.diagnostics with
  | [] => ""
  | first :: rest =>
    first.render ++ " at offset " ++ toString error.position ++
      (if rest.isEmpty then "" else " (+" ++ toString rest.length ++ " more)")

end ParseError

end DiagramAssist
