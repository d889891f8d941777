import DiagramAssist.Config
import DiagramAssist.Document.Parse
import DiagramAssist.Source
import DiagramAssist.Store

/-! # The state of engines

Engines that share a registry and a source share this state; each has a copy of the library listing
of its own. Time is counted in milliseconds and passes only between the steps of calls. Whatever a
call waits for has a number, and the numbers say in which order the calls began to wait.
-/

namespace DiagramAssist

structure World where
  clock : Nat
  config : Config
  source : Source
  /-- How often the listing of the source has been asked for. -/
  attempts : Nat
  /-- Everything fetched so far, the last one first. -/
  log : List String
  store : Store
  registry : Registry
  /-- The library listing of each engine. -/
  libraries : List (Cell (List LibraryEntry))
  /-- The number of the next call or wait. -/
  nextCall : Nat

namespace World

/-- The state at the start, for a number of engines. -/
def initial (config : Config) (source : Source) (engines : Nat) : World where
  clock := 0
  config := config
  source := source
  attempts := 0
  log := []
  store := []
  registry := .empty
  libraries := List.replicate engines .empty
  nextCall := 0

instance : Inhabited World := ⟨initial default default 1⟩

def newCall (world : World) : World × Nat :=
  ({ world with nextCall := world.nextCall + 1 }, world.nextCall)

def addContext (world : World) (context : Context) : World × ContextId :=
  let (store, id) := world.store.add context
  ({ world with store }, id)

def library (world : World) (engine : Nat) : Cell (List LibraryEntry) :=
  world.libraries.getD engine .empty

def setLibrary (world : World) (engine : Nat) (cell : Cell (List LibraryEntry)) : World :=
  { world with libraries := world.libraries.set engine cell }

def changeDocument (world : World) (url : String) (supply : Supply Payload) : World :=
  { world with source := world.source.withDocument url supply }

/-- The source has another listing of the library, which nobody has asked for yet. -/
def changeListing (world : World) (listing : Nat → Supply (List LibraryEntry)) : World :=
  { world with source := { world.source with listing }, attempts := 0 }

end World

structure Timer where
  due : Nat
  /-- The number of the wait. -/
  number : Nat
deriving DecidableEq, Inhabited

/-- A fetch under way: when it ends, and with what. -/
structure Pending (α : Type) where
  timer : Timer
  outcome : Except FetchError α

namespace World

/-- Begins to wait for some milliseconds. -/
def startTimer (world : World) (delay : Nat) : World × Timer :=
  let (world, number) := world.newCall
  (world, ⟨world.clock + delay, number⟩)

def isOver (world : World) (timer : Timer) : Bool :=
  timer.due ≤ world.clock

/-- The number of a wait that is over. -/
def ended? (world : World) (timer : Timer) : Option Nat :=
  if world.isOver timer then some timer.number else none

def fetchDocument (world : World) (url : String) : World × Pending Payload :=
  let supply := (world.source.document url).limited url world.config.timeout?
  let (world, timer) := world.startTimer supply.delay
  ({ world with log := url :: world.log }, ⟨timer, supply.outcome⟩)

/-- The name under which the listing of the library is fetched. -/
def listingName : String := "stdlib-index"

def fetchListing (world : World) : World × Pending (List LibraryEntry) :=
  let supply := (world.source.listing world.attempts).limited listingName world.config.timeout?
  let (world, timer) := world.startTimer supply.delay
  ({ world with log := "<index>" :: world.log, attempts := world.attempts + 1 },
    ⟨timer, supply.outcome⟩)

end World

/-- What a step of a call does: nothing, because the call waits or has returned, or it changes the
world and the call. -/
abbrev Step (α : Type) : Type :=
  Option (World × α)

end DiagramAssist
