import DiagramAssist.CommandLine.Execute

/-! # The program

The outer layer: it reads the files that a command turns out to need onto a disk, lets the command
run on that disk, and prints what came of it. A command that asked for a file which had not been
read is run again with it.
-/

namespace DiagramAssist.Program

open CommandLine

/-- A disk and the paths that have been looked at. -/
structure Files where
  disk : Disk
  seen : List String

/-- The names on a path from a place, without looking at what stands there. -/
def placeOf (workingDirectory : List String) (path : String) : List String :=
  (path.splitOn "/").foldl (fun place name =>
    if name = "" || name = "." then place
    else if name = ".." then place.dropLast
    else place ++ [name]) (if path.startsWith "/" then [] else workingDirectory)

namespace Files

/-- Nothing has been looked at. -/
def initial : IO Files := do
  return ⟨⟨[], placeOf [] (← IO.currentDir).toString⟩, []⟩

/-- Looks at a path and reads the file there. -/
def look (files : Files) (path : String) : IO Files := do
  let place := placeOf files.disk.workingDirectory path
  let target := (← IO.currentDir) / path
  let with? (entry : Option DiskEntry) : Files :=
    { disk := match entry with
        | some entry => { files.disk with entries := (place, entry) :: files.disk.entries }
        | none => files.disk
      seen := path :: files.seen }
  if ← target.isDir then return with? (some .directory)
  try
    let bytes ← IO.FS.readBinFile target
    return with? (some (.file bytes.toList))
  catch _ => return with? none

/-- Looks at paths, and says whether any of them was new. -/
def lookAll (files : Files) (paths : List String) : IO (Files × Bool) := do
  let new := (paths.filter fun path => !files.seen.contains path).eraseDups
  return (← new.foldlM look files, !new.isEmpty)

end Files

/-- The path that a location leads to, if it is a text. -/
def pathText? (location : String) : Option String := do
  (Text.decodeUtf8 (← (Disk.pathOf location).toOption)).toOption

/-- The paths of the documents that an engine has asked for. -/
def wanted (world : World) : List String :=
  world.log.filterMap pathText?

/-- Lets an action run on an engine, again and again as long as it asks for files that had not been
read. -/
partial def withFiles {α : Type} (files : Files) (world : World) (index : Option String)
    (action : Disk → World → World × α) : IO (Files × World × α) := do
  let start := { world with source := files.disk.source index, log := [] }
  let (after, result) := action files.disk start
  let (files, isNew) ← files.lookAll (wanted after)
  if isNew then withFiles files world index action else return (files, after, result)

/-- The configuration file in the platform's place. -/
def platformPath : IO (Option String) := do
  match ← IO.getEnv "XDG_CONFIG_HOME" with
  | some directory =>
    if directory.startsWith "/" then return some (directory ++ "/umlpp/config.toml")
  | none => pure ()
  return (← IO.getEnv "HOME").map (· ++ "/.config/umlpp/config.toml")

/-- The file that a command is about. -/
def fileOf : Invocation → List String
  | .suggest file _ _ => [file]
  | .arguments file _ _ => [file]
  | .callable file _ => [file]
  | _ => []

/-- A path without links, if something stands there. -/
def withoutLinks (path : String) : IO String := do
  try
    return (← IO.FS.realPath path).toString
  catch _ => return path

/-- The command on a file that is named without links. -/
def resolved : Invocation → IO Invocation
  | .suggest file cursor start => return .suggest (← withoutLinks file) cursor start
  | .arguments file name cursor => return .arguments (← withoutLinks file) name cursor
  | .callable file name => return .callable (← withoutLinks file) name
  | invocation => return invocation

/-- Answers requests line by line. -/
partial def serveLines (files : Files) (world : World) (index : Option String)
    (input output : IO.FS.Stream) : IO Unit := do
  let line ← input.getLine
  unless line.isEmpty do
    let (files, world, responses) ←
      withFiles files world index fun _ world => serve world line
    for response in responses do
      output.putStrLn response.toJson.compact
    output.flush
    serveLines files world index input output

def report (error : QueryError) : IO UInt32 := do
  for report in Report.ofError error do
    let code := report.code.elim "" fun code => "[" ++ code ++ "]"
    IO.eprintln ("error" ++ code ++ ": " ++ report.headline)
    for label in report.labels do
      IO.eprintln ("  " ++ label.render)
    for help in report.help do
      IO.eprintln ("  help: " ++ help)
  return 1

def run (arguments : Arguments) : IO UInt32 := do
  let platform ← platformPath
  let invocation ← resolved arguments.invocation
  let candidates := arguments.config.toList ++ Settings.localPath :: platform.toList
  let (files, _) ← (← Files.initial).lookAll (candidates ++ fileOf invocation)
  match Settings.load files.disk platform arguments.config with
  | .error error => report error
  | .ok settings =>
    let listing := settings.index.bind pathText?
    let (files, _) ← files.lookAll listing.toList
    let world := engine files.disk settings
    match invocation with
    | .serve =>
      serveLines files world settings.index (← IO.getStdin) (← IO.getStdout)
      return 0
    | invocation =>
      let (_, _, printed) ← withFiles files world settings.index fun disk world =>
        execute disk world invocation
      match printed with
      | .ok text =>
        IO.print text
        return 0
      | .error error => report error

/-- How the program is called. -/
def usage : String :=
  "Usage: umlpp [--config FILE] [--log-level LEVEL] COMMAND\n\n" ++
    "Commands:\n" ++
    "  suggest FILE [--line N] [--character N] [--prefix TEXT]\n" ++
    "  arguments FILE NAME [--line N] [--character N]\n" ++
    "  callable FILE NAME\n" ++
    "  stdlib [PREFIX]\n" ++
    "  serve\n"

/-- What is printed when no command is run. -/
def refuse : UsageError → IO UInt32
  | .helpRequested => do
    IO.print usage
    return 0
  | .versionRequested => do
    IO.println "umlpp 0.1.0"
    return 0
  | _ => do
    IO.eprint usage
    return 2

end DiagramAssist.Program

/-- Reads the arguments and runs the program. -/
def main (words : List String) : IO UInt32 :=
  match DiagramAssist.CommandLine.Arguments.ofWords words with
  | .ok arguments => DiagramAssist.Program.run arguments
  | .error error => DiagramAssist.Program.refuse error
