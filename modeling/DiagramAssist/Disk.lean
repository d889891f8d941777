import DiagramAssist.Text.Utf8

/-! # Files

A disk is a finite tree of files and directories with a working directory. Paths are bytes, and are
followed name by name, as the operating system does: a name that is missing and a file in the place
of a directory are different errors, even when a later part of the path leads out again. A name that
is no text is missing everywhere.
-/

namespace DiagramAssist

inductive DiskEntry where
  | file (bytes : List UInt8)
  | directory
deriving DecidableEq, Inhabited

/-- Why a file cannot be read. -/
inductive DiskError where
  | notFound
  | notDirectory
  | isDirectory
  | nameTooLong
  /-- A path has a character that ends texts for the operating system. -/
  | nulInPath
  | notText
deriving DecidableEq, Inhabited

/-- The wording of the operating system and of the reader of text files. -/
def DiskError.message : DiskError → String
  | .notFound => "No such file or directory (os error 2)"
  | .notDirectory => "Not a directory (os error 20)"
  | .isDirectory => "Is a directory (os error 21)"
  | .nameTooLong => "File name too long (os error 36)"
  | .nulInPath => "file name contained an unexpected NUL byte"
  | .notText => "stream did not contain valid UTF-8"

/-- A disk: entries by the names on the way from the root, and the working directory. The
directories on the way to an entry need no entries of their own. -/
structure Disk where
  entries : List (List String × DiskEntry)
  workingDirectory : List String
deriving DecidableEq, Inhabited

/-- A path, in bytes. -/
abbrev DiskPath : Type :=
  List UInt8

def DiskPath.ofText (text : String) : DiskPath :=
  Text.encodeUtf8 text

namespace Disk

/-- What stands at a place, if anything does. -/
def entry? (disk : Disk) (place : List String) : Option DiskEntry :=
  match disk.entries.lookup place with
  | some entry => some entry
  | none =>
    if place.isPrefixOf disk.workingDirectory || disk.entries.any (place.isPrefixOf ·.1) then
      some .directory
    else none

/-- The longest name in bytes. -/
def maxNameLength : Nat := 255

/-- The longest path in bytes. -/
def maxPathLength : Nat := 4095

/-- The byte between the names of a path. -/
def separator : UInt8 := 0x2F

def names : DiskPath → List (List UInt8)
  | [] => [[]]
  | byte :: rest =>
    if byte = separator then [] :: names rest
    else
      match names rest with
      | [] => [[byte]]
      | first :: later => (byte :: first) :: later

def step (disk : Disk) (place : List String) (name : List UInt8) :
    Except DiskError (List String) :=
  if maxNameLength < name.length then .error .nameTooLong
  else
    match Text.decodeUtf8 name with
    | .error _ => .error .notFound
    | .ok "" => .ok place
    | .ok "." => .ok place
    | .ok ".." => .ok place.dropLast
    | .ok name =>
      if (disk.entry? (place ++ [name])).isNone then .error .notFound else .ok (place ++ [name])

def follow (disk : Disk) (place : List String) :
    List (List UInt8) → Except DiskError (List String)
  | [] => .ok place
  | name :: rest =>
    if disk.entry? place ≠ some .directory then .error .notDirectory
    else do disk.follow (← disk.step place name) rest

def locate (disk : Disk) (path : DiskPath) : Except DiskError (List String) :=
  if path.contains 0 then .error .nulInPath
  else if path.isEmpty then .error .notFound
  else if maxPathLength < path.length then .error .nameTooLong
  else if path.head? = some separator then disk.follow [] (names path)
  else disk.follow disk.workingDirectory (names path)

def isFile (disk : Disk) (path : DiskPath) : Bool :=
  match disk.locate path with
  | .ok place => (disk.entry? place matches some (.file _))
  | .error _ => false

def readText (disk : Disk) (path : DiskPath) : Except DiskError String := do
  match disk.entry? (← disk.locate path) with
  | some (.file bytes) =>
    match Text.decodeUtf8 bytes with
    | .ok text => return text
    | .error _ => throw .notText
  | some .directory => throw .isDirectory
  | none => throw .notFound

end Disk

end DiagramAssist
