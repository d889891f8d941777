import DiagramAssist.Cell

/-! # The registry

Documents are kept under their keys. Every key has a slot, a cell that holds the number of the
document once it is loaded; a key whose load failed loses its slot again, so that a later call
starts afresh. Calls that already wait for such a slot keep waiting for it, although no new call
will find it.
-/

namespace DiagramAssist

abbrev ContextId : Type :=
  Nat

abbrev SlotId : Type :=
  Nat

/-- The slots ever made, by number, and the slot of each key. -/
structure Registry where
  slots : List (Cell ContextId)
  table : List (String × SlotId)
deriving DecidableEq

namespace Registry

def empty : Registry :=
  ⟨[], []⟩

instance : Inhabited Registry := ⟨empty⟩

/-- A slot; an unknown number stands for one that nobody has asked for. -/
def cell (registry : Registry) (slot : SlotId) : Cell ContextId :=
  registry.slots.getD slot .empty

def setCell (registry : Registry) (slot : SlotId) (cell : Cell ContextId) : Registry :=
  { registry with slots := registry.slots.set slot cell }

def slot? (registry : Registry) (key : String) : Option SlotId :=
  registry.table.lookup key

/-- The document under a key. -/
def get? (registry : Registry) (key : String) : Option ContextId := do
  (registry.cell (← registry.slot? key)).value

def contains (registry : Registry) (key : String) : Bool :=
  (registry.get? key).isSome

def size (registry : Registry) : Nat :=
  registry.table.countP fun (_, slot) => (registry.cell slot).isFilled

/-- Gives a key a slot if it has none. -/
def claim (registry : Registry) (key : String) : Registry × SlotId :=
  match registry.slot? key with
  | some slot => (registry, slot)
  | none =>
    let slot := registry.slots.length
    (⟨registry.slots ++ [.empty], registry.table ++ [(key, slot)]⟩, slot)

/-- A call asks for the document under a key. -/
def arrive (registry : Registry) (key : String) (call : Nat) :
    Registry × SlotId × Cell.Standing ContextId :=
  let (registry, slot) := registry.claim key
  let (cell, standing) := (registry.cell slot).enter call
  (registry.setCell slot cell, slot, standing)

/-- How a call that waits for a slot stands now. -/
def standing (registry : Registry) (slot : SlotId) (call : Nat) : Cell.Standing ContextId :=
  (registry.cell slot).standing call

/-- The holder of a slot has the document. -/
def succeed (registry : Registry) (slot : SlotId) (context : ContextId) : Registry :=
  registry.setCell slot ((registry.cell slot).fill context)

def holds (registry : Registry) (key : String) (slot : SlotId) : Bool :=
  registry.slot? key == some slot

/-- The holder of a slot has failed: the slot passes to the next call, and the key loses it. -/
def fail (registry : Registry) (key : String) (slot : SlotId) : Registry :=
  let released := registry.setCell slot (registry.cell slot).release
  if released.holds key slot && !(released.cell slot).isFilled then
    { released with table := released.table.filter fun entry => !(entry.1 == key) }
  else released

end Registry

end DiagramAssist
