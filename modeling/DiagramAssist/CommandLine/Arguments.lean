import DiagramAssist.LineIndex

/-! # Command line arguments

A call consists of options, one command, and the options and operands of that command. Options of
the whole program may stand before and behind the command. An option gets its value from the same
word, as in `--line=3` and `-cfile`, or from the next one, and after `--` every word is an operand.

Words are read from left to right. The value of an option is examined only when the next option or
operand has been read, or when the level ends, so an unknown option is reported before a bad value
that stands in front of it. The options before a command are examined last.
-/

namespace DiagramAssist.CommandLine

inductive UsageError where
  /-- An operand is missing. -/
  | missingOperand
  /-- There is no such option, or there are too many operands. -/
  | unknownArgument
  /-- An option lacks its value. -/
  | missingValue
  /-- A switch has a value. -/
  | unwantedValue
  /-- The value of an option is not of the right form. -/
  | malformedValue
  /-- An option is given twice on one level. -/
  | repeatedOption
  | unknownCommand
  /-- Options are given, but no command. -/
  | missingCommand
  /-- Nothing is given, and help is shown. -/
  | noArguments
  | helpRequested
  | versionRequested
deriving DecidableEq, Inhabited

inductive Flag where
  | config
  | logLevel
  | line
  | character
  | start
  | help
  | version
deriving DecidableEq, Inhabited

inductive Verb where
  | suggest
  | arguments
  | callable
  | stdlib
  | serve
deriving DecidableEq, Inhabited

namespace Flag

def all : List Flag :=
  [config, logLevel, line, character, start, help, version]

/-- The name behind two dashes. -/
def long : Flag → String
  | .config => "config"
  | .logLevel => "log-level"
  | .line => "line"
  | .character => "character"
  | .start => "prefix"
  | .help => "help"
  | .version => "version"

/-- The letter behind one dash, if the flag has one. -/
def short : Flag → Option Char
  | .config => some 'c'
  | .help => some 'h'
  | .version => some 'V'
  | _ => none

/-- Whether the flag takes no value and ends the reading. -/
def interruption? : Flag → Option UsageError
  | .help => some .helpRequested
  | .version => some .versionRequested
  | _ => none

def isNumeric : Flag → Bool
  | .line => true
  | .character => true
  | _ => false

end Flag

namespace Verb

def all : List Verb :=
  [suggest, arguments, callable, stdlib, serve]

def word : Verb → String
  | .suggest => "suggest"
  | .arguments => "arguments"
  | .callable => "callable"
  | .stdlib => "stdlib"
  | .serve => "serve"

def ofWord? (word : String) : Option Verb :=
  all.find? fun verb => verb.word == word

def requiredOperands : Verb → Nat
  | .suggest => 1
  | .arguments => 2
  | .callable => 2
  | .stdlib => 0
  | .serve => 0

def allowedOperands : Verb → Nat
  | .suggest => 1
  | .arguments => 2
  | .callable => 2
  | .stdlib => 1
  | .serve => 0

end Verb

/-- Where words are read: before the command, or behind it. -/
inductive Level where
  | top
  | within (verb : Verb)
deriving DecidableEq, Inhabited

namespace Level

def knows (level : Level) : Flag → Bool
  | .config => true
  | .logLevel => true
  | .help => true
  | .version => level == .top
  | .line => level == .within .suggest || level == .within .arguments
  | .character => level == .within .suggest || level == .within .arguments
  | .start => level == .within .suggest

def long? (level : Level) (name : String) : Option Flag :=
  Flag.all.find? fun flag => level.knows flag && flag.long == name

def short? (level : Level) (letter : Char) : Option Flag :=
  Flag.all.find? fun flag => level.knows flag && flag.short == some letter

end Level

/-- The number that decimal digits mean, if there are any. -/
def digits? (text : List Char) : Option Nat :=
  if text.isEmpty then none
  else text.foldlM (fun total c => if c.isDigit then some (10 * total + (c.toNat - 48)) else none) 0

/-- A number of 32 bits, which may have a sign. -/
def number? (text : String) : Option Nat :=
  let value := match text.toList with
    | '+' :: rest => digits? rest
    | '-' :: rest => (digits? rest).filter (· == 0)
    | rest => digits? rest
  value.filter (· < Nat.pow 2 32)

/-- What has been read on a level: the options whose values have been examined, the operands, and
the option whose value has not. -/
structure Reading where
  options : List (Flag × String)
  operands : List String
  /-- The last option, with its value once that has been read. -/
  pending : Option (Flag × Option String)
  /-- Whether only operands follow. -/
  trailing : Bool
deriving DecidableEq, Inhabited

namespace Reading

/-- Nothing has been read. -/
def initial : Reading :=
  ⟨[], [], none, false⟩

/-- The value of an option that has been examined. -/
def value? (reading : Reading) (flag : Flag) : Option String :=
  reading.options.lookup flag

/-- The number that an option has been given, or zero. -/
def number (reading : Reading) (flag : Flag) : Nat :=
  ((reading.value? flag).bind number?).getD 0

/-- Examines an option and its value. -/
def give (reading : Reading) (flag : Flag) (value : Option String) : Except UsageError Reading :=
  match value with
  | none => .error .missingValue
  | some value =>
    if (reading.value? flag).isSome then .error .repeatedOption
    else if flag.isNumeric && (number? value).isNone then .error .malformedValue
    else .ok { reading with options := reading.options ++ [(flag, value)] }

/-- Examines the last option, if that has not been done. -/
def settle (reading : Reading) : Except UsageError Reading :=
  match reading.pending with
  | none => .ok reading
  | some (flag, value) => give { reading with pending := none } flag value

/-- Whether the next word is the value of the last option, unless it is an option itself. -/
def isOpen (reading : Reading) : Bool :=
  match reading.pending with
  | some (_, none) => !reading.trailing
  | _ => false

/-- A known flag has been read, perhaps with a value in the same word. -/
def flag (reading : Reading) (flag : Flag) (attached : Option String) :
    Except UsageError Reading := do
  let reading ← reading.settle
  match flag.interruption?, attached with
  | some interruption, _ => .error interruption
  | none, some value => reading.give flag (some value)
  | none, none => .ok { reading with pending := some (flag, none) }

/-- A word that starts with two dashes: a name, and a value behind the first equality sign. -/
def long (level : Level) (reading : Reading) (text : List Char) : Except UsageError Reading :=
  let isName := fun c : Char => !(c == '=')
  let attached := match text.dropWhile isName with
    | _ :: value => some (String.ofList value)
    | [] => none
  match level.long? (String.ofList (text.takeWhile isName)) with
  | none => .error .unknownArgument
  | some name =>
    if name.interruption?.isSome && attached.isSome then .error .unwantedValue
    else reading.flag name attached

/-- A word that starts with one dash: a letter, and perhaps a value. An equality sign may stand
between them. -/
def short (level : Level) (reading : Reading) (letter : Char) (rest : List Char) :
    Except UsageError Reading :=
  match level.short? letter with
  | none => .error .unknownArgument
  | some name =>
    if name.interruption?.isSome then reading.flag name none
    else
      reading.flag name (match rest with
        | [] => none
        | '=' :: value => some (String.ofList value)
        | value => some (String.ofList value))

/-- A word that is neither a flag nor the value of one. -/
def operand (level : Level) (reading : Reading) (word : String) : Except UsageError Reading :=
  match level with
  | .top =>
    if reading.trailing && (word == "help" || (Verb.ofWord? word).isSome) then
      .error .unknownArgument
    else .error .unknownCommand
  | .within verb =>
    if reading.operands.length < verb.allowedOperands then do
      let reading ← reading.settle
      return { reading with operands := reading.operands ++ [word] }
    else .error .unknownArgument

/-- A word that is no flag. -/
def plain (level : Level) (reading : Reading) (word : String) : Except UsageError Reading :=
  match reading.pending with
  | some (flag, none) => .ok { reading with pending := some (flag, some word) }
  | _ => reading.operand level word

def next (level : Level) (reading : Reading) (word : String) : Except UsageError Reading :=
  if reading.trailing then reading.operand level word
  else
    match word.toList with
    | ['-', '-'] => .ok { reading with trailing := true }
    | '-' :: '-' :: text => reading.long level text
    | '-' :: letter :: rest => reading.short level letter rest
    | _ => reading.plain level word

end Reading

inductive Invocation where
  | suggest (file : String) (cursor : Position) (start : Option String)
  | arguments (file name : String) (cursor : Position)
  | callable (file name : String)
  | stdlib (start : String)
  | serve
deriving DecidableEq, Inhabited

structure Arguments where
  /-- The configuration file. -/
  config : Option String
  logLevel : String
  invocation : Invocation
deriving DecidableEq, Inhabited

/-- The command that a reading of its level means. -/
def Verb.invocation (verb : Verb) (reading : Reading) : Invocation :=
  let operand := fun index => reading.operands.getD index ""
  let cursor : Position := ⟨reading.number .line, reading.number .character⟩
  match verb with
  | .suggest => .suggest (operand 0) cursor (reading.value? .start)
  | .arguments => .arguments (operand 0) (operand 1) cursor
  | .callable => .callable (operand 0) (operand 1)
  | .stdlib => .stdlib (operand 0)
  | .serve => .serve

def Verb.read (verb : Verb) (words : List String) : Except UsageError Reading := do
  let reading ← words.foldlM (Reading.next (.within verb)) .initial
  let reading ← reading.settle
  if reading.operands.length < verb.requiredOperands then .error .missingOperand
  return reading

/-- What comes of a request for help on the commands named by words: only commands at the top have
any help. -/
def helpOn : List String → UsageError
  | [] => .helpRequested
  | [word] =>
    if word == "help" || (Verb.ofWord? word).isSome then .helpRequested else .unknownCommand
  | _ => .unknownCommand

/-- Reads words up to a command, which comes with the words behind it. -/
def readTop (reading : Reading) :
    List String → Except UsageError (Reading × Option (Verb × List String))
  | [] => .ok (reading, none)
  | word :: rest =>
    if reading.trailing || reading.isOpen then do readTop (← reading.next .top word) rest
    else if word == "help" then .error (helpOn rest)
    else
      match Verb.ofWord? word with
      | some verb => .ok (reading, some (verb, rest))
      | none => do readTop (← reading.next .top word) rest

/-- The level at which messages are logged unless another is given. -/
def defaultLogLevel : String := "info"

namespace Arguments

/-- The arguments that words mean. An option of the whole program behind the command wins over one
before it. -/
def ofWords (words : List String) : Except UsageError Arguments := do
  let (top, command) ← readTop .initial words
  match command with
  | none =>
    let top ← top.settle
    .error (if top.options.isEmpty then .noArguments else .missingCommand)
  | some (verb, rest) =>
    let within ← verb.read rest
    let top ← top.settle
    let value? := fun flag => within.value? flag <|> top.value? flag
    return ⟨value? .config, (value? .logLevel).getD defaultLogLevel, verb.invocation within⟩

end Arguments

end DiagramAssist.CommandLine
