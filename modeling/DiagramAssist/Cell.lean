/-! # Cells filled once

A cell is filled by one of the calls that want its value. The first call that finds it empty holds
it and works the value out; later calls queue. When the holder succeeds everyone gets the value, and
when it fails the cell passes to the call that has queued longest, which then works the value out
itself.
-/

namespace DiagramAssist

/-- A cell: its value once filled, the call that is working the value out, and the calls that wait,
the longest waiting first. -/
structure Cell (α : Type) where
  value : Option α
  holder : Option Nat
  queue : List Nat
deriving DecidableEq

namespace Cell

variable {α : Type}

def empty : Cell α :=
  ⟨none, none, []⟩

instance : Inhabited (Cell α) := ⟨empty⟩

/-- How a call stands with a cell. -/
inductive Standing (α : Type) where
  | found (value : α)
  | holding
  | queued
deriving DecidableEq

/-- A call asks for the value for the first time. -/
def enter (cell : Cell α) (call : Nat) : Cell α × Standing α :=
  match cell.value, cell.holder with
  | some value, _ => (cell, .found value)
  | none, none => ({ cell with holder := some call }, .holding)
  | none, some _ => ({ cell with queue := cell.queue ++ [call] }, .queued)

/-- How a call that has queued stands now. -/
def standing (cell : Cell α) (call : Nat) : Standing α :=
  match cell.value with
  | some value => .found value
  | none => if cell.holder = some call then .holding else .queued

/-- The number of a call that has queued and need not any longer. -/
def woken? (cell : Cell α) (call : Nat) : Option Nat :=
  match cell.standing call with
  | .queued => none
  | _ => some call

/-- The holder has worked the value out. -/
def fill (_ : Cell α) (value : α) : Cell α :=
  ⟨some value, none, []⟩

def release (cell : Cell α) : Cell α :=
  match cell.queue with
  | [] => { cell with holder := none }
  | next :: rest => { cell with holder := some next, queue := rest }

/-- Whether the value is known. -/
def isFilled (cell : Cell α) : Bool :=
  cell.value.isSome

@[simp] theorem value_fill (cell : Cell α) (value : α) : (cell.fill value).value = some value := rfl

@[simp] theorem value_release (cell : Cell α) : cell.release.value = cell.value := by
  unfold release
  split <;> rfl

end Cell

end DiagramAssist
