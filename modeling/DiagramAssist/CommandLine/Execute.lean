import DiagramAssist.CommandLine.Arguments
import DiagramAssist.CommandLine.Settings
import DiagramAssist.DiskSource
import DiagramAssist.Json.Writer
import DiagramAssist.Service
import DiagramAssist.Text.Alphanumeric

/-! # One-shot commands

A command reads a diagram, asks the engine one thing about it and prints the answer as JSON. The
text that a suggestion replaces is the word that ends at the cursor.
-/

namespace DiagramAssist.CommandLine

/-- A diagram read from a disk, under the address of its file. -/
structure Diagram where
  key : String
  text : String
deriving DecidableEq, Inhabited

namespace Diagram

def read (disk : Disk) (path : String) : Except QueryError Diagram :=
  match disk.readText (.ofText path), disk.locate (.ofText path) with
  | .ok text, .ok place => .ok ⟨(Address.ofFile (place.map String.toList)).render, text⟩
  | .error error, _ => .error (.io error.message)
  | _, .error error => .error (.io error.message)

def reference (diagram : Diagram) : DocumentRef :=
  ⟨some diagram.key, some diagram.text⟩

/-- The last word of a text, as far as the text goes. -/
def lastWord (before : List Char) : List Char :=
  (before.reverse.takeWhile Text.isWordChar).reverse

/-- The range of the word that ends at the cursor, and the word. A cursor behind the last line has
no word. -/
def wordAt (diagram : Diagram) (cursor : Position) : Range × String :=
  let index := LineIndex.ofText diagram.text
  match index.offset? cursor with
  | none => (.point cursor, "")
  | some stop =>
    match Text.splitBytes? diagram.text.toList stop with
    | none => (.point cursor, "")
    | some (before, _) =>
      let word := lastWord before
      let start := stop - Text.byteLength word
      (⟨index.position start, index.position stop⟩, String.ofList word)

end Diagram

/-- The filter of a suggestion: a given start, or else the word before the cursor. -/
def suggestionFilter (start : Option String) (word : String) : Filter :=
  { Filter.all with start := start <|> if word.isEmpty then none else some word }

def Invocation.command (disk : Disk) : Invocation → Except QueryError Command
  | .suggest file cursor start => do
    let diagram ← Diagram.read disk file
    let (range, word) := diagram.wordAt cursor
    return .document diagram.reference (.suggestions range (suggestionFilter start word))
  | .arguments file name cursor => do
    let diagram ← Diagram.read disk file
    return .document diagram.reference (.arguments name (diagram.wordAt cursor).1)
  | .callable file name => do
    let diagram ← Diagram.read disk file
    return .document diagram.reference (.callable name)
  | .stdlib start => return .library (.paths start)
  | .serve => throw (.io "serve is not a one-shot command")

/-- Runs a command on an engine: the engine afterwards, and what is printed. -/
def execute (disk : Disk) (world : World) (invocation : Invocation) :
    World × Except QueryError String :=
  match invocation.command disk with
  | .error error => (world, .error error)
  | .ok command =>
    let (world, replies) := Schedule.perform world (.command 0 0 command)
    match replies.at? [] with
    | some reply => (world, reply.value.map fun value => value.pretty ++ "\n")
    | none => (world, .error (.io "query not finished"))

/-- An engine that answers from a disk. -/
def engine (disk : Disk) (settings : Settings) : World :=
  World.initial settings.engine (disk.source settings.index) 1

/-- Runs the program on a disk; `platform` is the configuration file in the platform's place. -/
def run (disk : Disk) (platform : Option String) (arguments : Arguments) :
    Except QueryError String := do
  let settings ← Settings.load disk platform arguments.config
  (execute disk (engine disk settings) arguments.invocation).2

/-- Answers the requests on the lines of an input together. -/
def serve (world : World) (input : String) : World × List Response :=
  Service.handleAll world 0 (Service.acceptAll input)

end DiagramAssist.CommandLine
