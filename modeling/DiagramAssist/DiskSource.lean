import DiagramAssist.Address.Basic
import DiagramAssist.Disk
import DiagramAssist.Message.Decode
import DiagramAssist.Source

/-! # Documents on a disk

A source that answers with files: an address of a local file leads to that file, and any other text
is taken for a path. The listing of the standard library is a file too. There is no network.
-/

namespace DiagramAssist.Disk

/-- Whether a location is to be downloaded. -/
def isRemote (location : String) : Bool :=
  "http://".toList.isPrefixOf location.toList || "https://".toList.isPrefixOf location.toList

/-- The path that a location leads to, if it leads to the disk at all. -/
def pathOf (location : String) : Except FetchError DiskPath :=
  match Address.parse? location with
  | none => .ok (.ofText location)
  | some address =>
    if address.scheme == "file".toList then
      match address.filePath? with
      | none => .error (.transport location "not a local file URL")
      | some path => .ok path
    else .ok (.ofText location)

def fetch (disk : Disk) (location : String) : Except FetchError String :=
  if isRemote location then .error (.transport location "no network")
  else do
    match disk.readText (← pathOf location) with
    | .ok text => return text
    | .error .notFound => throw (.notFound location)
    | .error error => throw (.transport location error.message)

def fetchListing (disk : Disk) (location : String) : Except FetchError (List LibraryEntry) := do
  let text ← disk.fetch location
  match LibraryEntry.parseListing text with
  | .ok entries => return entries
  | .error error => throw (.decode location error.message)

/-- The source that answers from a disk; without a listing the standard library is empty. -/
def source (disk : Disk) (index : Option String) : Source where
  document url := ⟨0, (disk.fetch url).map fun text => ⟨text, .utf8⟩⟩
  listing _ := ⟨0, index.elim (.ok []) disk.fetchListing⟩

end DiagramAssist.Disk
