import DiagramAssist.Payload

/-! # Document sources

Where documents come from. A source answers every address after some time with a payload or an
error, and it lists the standard library; the listing may go differently at every attempt.
-/

namespace DiagramAssist

/-- What a fetch brings, and after how many milliseconds. -/
structure Supply (α : Type) where
  delay : Nat
  outcome : Except FetchError α

structure Source where
  document : String → Supply Payload
  /-- The listing of the standard library, by the number of earlier attempts. -/
  listing : Nat → Supply (List LibraryEntry)

/-- What a source answers at once for an address where there is nothing. -/
def Supply.missing {α : Type} (url : String) : Supply α :=
  ⟨0, .error (.notFound url)⟩

namespace Source

def none : Source where
  document := Supply.missing
  listing _ := ⟨0, .ok []⟩

instance : Inhabited Source := ⟨.none⟩

/-- The source with something else at an address. -/
def withDocument (source : Source) (url : String) (supply : Supply Payload) : Source :=
  { source with document := fun other => if other = url then supply else source.document other }

end Source

/-- A listing that fails a number of times before it is available. -/
def Supply.afterFailures {α : Type} (failures : Nat) (error : FetchError) (delay : Nat) (value : α)
    (attempt : Nat) : Supply α :=
  ⟨delay, if attempt < failures then .error error else .ok value⟩

/-- A supply under a time limit: one that takes longer fails when the time is over. -/
def Supply.limited {α : Type} (supply : Supply α) (name : String) : Option Nat → Supply α
  | some limit => if limit < supply.delay then ⟨limit, .error (.timeout name limit)⟩ else supply
  | none => supply

end DiagramAssist
