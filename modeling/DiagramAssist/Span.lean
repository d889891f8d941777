import DiagramAssist.Text.Measure

/-! # Spans

A span is a half-open range of byte offsets into a document. Names and operators carry the span they
were written at; two of them are compared by what they say, not by where they stand.
-/

namespace DiagramAssist

/-- A half-open range of byte offsets. -/
structure Span where
  start : Nat
  stop : Nat
  ordered : start ≤ stop
deriving DecidableEq

namespace Span

instance : Inhabited Span := ⟨⟨0, 0, Nat.le_refl 0⟩⟩

/-- The span between two offsets, given in either order. -/
def between (a b : Nat) : Span :=
  ⟨min a b, max a b, by omega⟩

/-- The width in bytes. -/
def size (span : Span) : Nat :=
  span.stop - span.start

def isEmpty (span : Span) : Bool :=
  span.size == 0

/-- The smallest span that holds both, the gap between them included. -/
def cover (left right : Span) : Span :=
  ⟨min left.start right.start, max left.stop right.stop, by
    have := left.ordered
    have := right.ordered
    omega⟩

def shift (distance : Nat) (span : Span) : Span :=
  ⟨span.start + distance, span.stop + distance, Nat.add_le_add_right span.ordered distance⟩

/-- The covered text, or nothing when the span runs past the end or cuts a character. -/
def slice? (span : Span) (source : String) : Option String :=
  (Text.slice? source.toList span.start span.stop).map String.ofList

/-- The written form `start..stop`. -/
def render (span : Span) : String :=
  toString span.start ++ ".." ++ toString span.stop

@[simp] theorem start_shift (distance : Nat) (span : Span) :
    (span.shift distance).start = span.start + distance := rfl

theorem start_between_of_le {a b : Nat} (h : a ≤ b) : (between a b).start = a :=
  Nat.min_eq_left h

theorem stop_between_of_le {a b : Nat} (h : a ≤ b) : (between a b).stop = b :=
  Nat.max_eq_right h

end Span

/-- A value together with the span it was written at. -/
structure Located (α : Type) where
  value : α
  span : Span
deriving DecidableEq

namespace Located

variable {α : Type}

instance [Inhabited α] : Inhabited (Located α) := ⟨⟨default, default⟩⟩

/-- The same value further down the document. -/
def shift (distance : Nat) (located : Located α) : Located α :=
  { located with span := located.span.shift distance }

/-- Two located values say the same when their values are equal, wherever they stand. -/
def same [BEq α] (left right : Located α) : Bool :=
  left.value == right.value

end Located

end DiagramAssist
