import DiagramAssist.Engine.World

/-! # The standard library

The listing of the library is fetched by the first call that needs it and then kept; a failed fetch
is reported to the call that ran it and the next one tries again. A module is included by its listed
path, with or without the extension.
-/

namespace DiagramAssist

namespace LibraryEntry

/-- The address of the first entry whose path is the given one, as it is or with the extension. -/
def resolve? (entries : List LibraryEntry) (extension path : String) : Option String :=
  (entries.find? fun entry => entry.path == path || entry.path == path ++ extension).map (·.url)

/-- The entries whose path starts with a text, in the order of the listing. -/
def startingWith (entries : List LibraryEntry) (start : String) : List LibraryEntry :=
  entries.filter fun entry => start.toList.isPrefixOf entry.path.toList

/-- The path without the extension, if it ends with it. -/
def includePath (extension : String) (entry : LibraryEntry) : String :=
  if extension.toList.isSuffixOf entry.path.toList then
    String.ofList (entry.path.toList.take (entry.path.toList.length - extension.toList.length))
  else entry.path

def toItem (extension : String) (range : Range) (entry : LibraryEntry) : Item :=
  ⟨.module, entry.includePath extension, entry.path, range⟩

end LibraryEntry

/-- A call for the listing of the library. -/
inductive Lookup where
  | arriving
  | queued (call : Nat)
  | fetching (pending : Pending (List LibraryEntry))
  | returned (result : Except FetchError (List LibraryEntry))

namespace Lookup

instance : Inhabited Lookup := ⟨.arriving⟩

/-- Goes on from how the call stands with the listing. -/
def proceed (world : World) (call : Nat) : Cell.Standing (List LibraryEntry) → World × Lookup
  | .found entries => (world, .returned (.ok entries))
  | .queued => (world, .queued call)
  | .holding =>
    let (world, pending) := world.fetchListing
    (world, .fetching pending)

def step (engine : Nat) (world : World) : Lookup → Step Lookup
  | .arriving =>
    let (world, call) := world.newCall
    let (cell, standing) := (world.library engine).enter call
    some (proceed (world.setLibrary engine cell) call standing)
  | .queued call =>
    match (world.library engine).standing call with
    | .queued => none
    | standing => some (proceed world call standing)
  | .fetching pending =>
    if !world.isOver pending.timer then none
    else
      match pending.outcome with
      | .ok entries =>
        some (world.setLibrary engine ((world.library engine).fill entries),
          .returned (.ok entries))
      | .error error =>
        some (world.setLibrary engine (world.library engine).release, .returned (.error error))
  | .returned _ => none

/-- When a waiting call goes on by itself. -/
def due? : Lookup → Option Nat
  | .fetching pending => some pending.timer.due
  | _ => none

/-- The number of the wait that is over, if the call waited and can go on. -/
def woken? (engine : Nat) (world : World) : Lookup → Option Nat
  | .queued call => (world.library engine).woken? call
  | .fetching pending => world.ended? pending.timer
  | _ => none

end Lookup

end DiagramAssist
