import DiagramAssist.Config
import DiagramAssist.Disk
import DiagramAssist.Error
import DiagramAssist.Toml.Reader

/-! # Settings

The settings of the program are those of the engine and the location of the listing of the standard
library. They are read from a TOML file: the one named on the command line, or else the first that
exists of one in the working directory and one in the platform's place for configuration.
-/

namespace DiagramAssist.CommandLine

structure Settings where
  engine : Config
  /-- Where the listing of the standard library is, if there is one. -/
  index : Option String
deriving DecidableEq

namespace Settings

/-- The settings that hold without a file. -/
def standard : Settings :=
  ⟨.standard, none⟩

instance : Inhabited Settings := ⟨standard⟩

def timeout? : Toml → Option Nat
  | .integer value => if 0 ≤ value && value < Int.pow 2 64 then some value.toNat else none
  | _ => none

/-- The section on fetching: a table, or an array that starts with the time limit. A date or time
stands for an empty section. -/
def fetch? : Option Toml → Option Nat
  | none => some Config.standard.timeoutMs
  | some (.table _ members) =>
    (members.lookup "timeout_ms").elim (some Config.standard.timeoutMs) timeout?
  | some (.array _ elements) => elements.head?.elim (some Config.standard.timeoutMs) timeout?
  | some .moment => some Config.standard.timeoutMs
  | _ => none

def string? : Toml → Option String
  | .string value => some value
  | _ => none

mutual

/-- Whether all integers in a value fit a word of 64 bits. -/
def isNarrow : Toml → Bool
  | .integer value => decide (-(Int.pow 2 63) ≤ value) && decide (value < Int.pow 2 64)
  | .array _ elements => isNarrowAll elements
  | .table _ members => isNarrowMembers members
  | _ => true

def isNarrowAll : List Toml → Bool
  | [] => true
  | value :: rest => isNarrow value && isNarrowAll rest

def isNarrowMembers : List (String × Toml) → Bool
  | [] => true
  | (_, value) :: rest => isNarrow value && isNarrowMembers rest

end

/-- The section on the standard library: the extension, and the location of the listing. A date or
time stands for an empty section. -/
def library? : Option Toml → Option (String × Option String)
  | none => some (Config.standard.extension, none)
  | some .moment => some (Config.standard.extension, none)
  | some (.table _ members) => do
    let extension ← (members.lookup "extension").elim (some Config.standard.extension) string?
    let index ← (members.lookup "index").elim (some none) fun value => (string? value).map some
    if isNarrowMembers members then return (extension, index) else none
  | _ => none

def ofToml? (root : Toml.Members) : Option Settings := do
  let timeout ← fetch? (root.lookup "fetch")
  let (extension, index) ← library? (root.lookup "stdlib")
  return ⟨⟨timeout, extension⟩, index⟩

def ofFile (disk : Disk) (path : String) : Except QueryError Settings :=
  if !disk.isFile (.ofText path) then
    .error (.io ("configuration file " ++ path ++ " does not exist"))
  else
    match disk.readText (.ofText path) with
    | .error error => .error (.io error.message)
    | .ok text =>
      match (Toml.parse? text).bind ofToml? with
      | some settings => .ok settings
      | none => .error (.io ("invalid configuration in " ++ path ++ ": unusable settings"))

/-- The configuration file in the working directory. -/
def localPath : String := "umlpp/config.toml"

/-- The settings for a call: `explicit` is the file named on the command line, `platform` the one in
the platform's place. -/
def load (disk : Disk) (platform explicit : Option String) : Except QueryError Settings :=
  match explicit with
  | some path => ofFile disk path
  | none =>
    match (localPath :: platform.toList).find? (disk.isFile <| .ofText ·) with
    | some path => ofFile disk path
    | none => .ok standard

end Settings

end DiagramAssist.CommandLine
