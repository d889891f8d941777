import DiagramAssist.Cell
import Mathlib.Data.Multiset.AddSub

/-! # Cells and the calls at them

A cell that is not filled is held for one of the calls at it: either a call works its value out, or
the holder has queued and will find at its next turn that it is to work. Hence there is at most one
worker, and a cell at which anybody waits never stays empty without one (`Served.busy`).
-/

namespace DiagramAssist

namespace Cell

/-- A call at a cell: it has queued, or it works the value out. -/
inductive Client where
  | waiting (call : Nat)
  | working
deriving DecidableEq

variable {α : Type} {cell : Cell α} {nextCall : Nat} {clients : Multiset Client}

def queued (calls : List Nat) : Multiset Client :=
  (calls.map Client.waiting : List Client)

@[simp] theorem queued_cons (call : Nat) (calls : List Nat) :
    queued (call :: calls) = .waiting call ::ₘ queued calls := rfl

theorem queued_concat (calls : List Nat) (call : Nat) :
    queued (calls ++ [call]) = .waiting call ::ₘ queued calls := by
  rw [queued, queued, List.map_append, List.map_singleton, ← Multiset.coe_add, Multiset.add_comm]
  rfl

@[simp] theorem working_notMem_queued (calls : List Nat) : .working ∉ queued calls := by
  simp [queued]

@[simp] theorem waiting_mem_queued {call : Nat} {calls : List Nat} :
    .waiting call ∈ queued calls ↔ call ∈ calls := by
  simp [queued]

/-- The calls at a cell are those that the cell is for: nobody works at a cell that is filled;
nobody is at a cell that no call holds; and otherwise the holder works or has queued. -/
inductive Served (cell : Cell α) (nextCall : Nat) (clients : Multiset Client) : Prop where
  | filled (known : cell.value ≠ none) (idle : .working ∉ clients)
  | free (empty : cell = .empty) (nobody : clients = 0)
  | held {holder : Nat} {queue : List Nat} (cell_eq : cell = ⟨none, some holder, queue⟩)
      (distinct : (holder :: queue).Nodup) (numbered : ∀ call ∈ holder :: queue, call < nextCall)
      (staff : clients = .working ::ₘ queued queue ∨ clients = queued (holder :: queue))

namespace Served

theorem mono (served : cell.Served nextCall clients) {later : Nat} (le : nextCall ≤ later) :
    cell.Served later clients := by
  cases served with
  | filled known idle => exact .filled known idle
  | free empty nobody => exact .free empty nobody
  | held cell_eq distinct numbered staff =>
    exact .held cell_eq distinct (fun call listed => Nat.lt_of_lt_of_le (numbered call listed) le)
      staff

/-- Whoever works at a cell does so before it is filled. -/
theorem empty_of_working (served : cell.Served nextCall clients) (working : .working ∈ clients) :
    cell.value = none := by
  cases served with
  | filled known idle => exact (idle working).elim
  | free empty nobody =>
    rw [nobody] at working
    exact (Multiset.notMem_zero _ working).elim
  | held cell_eq distinct numbered staff => rw [cell_eq]

/-- A cell that is not filled is held where somebody is. -/
theorem taken (served : cell.Served nextCall clients) {client : Client}
    (listed : client ∈ clients) : cell.value ≠ none ∨ cell.holder ≠ none := by
  cases served with
  | filled known idle => exact .inl known
  | free empty nobody =>
    rw [nobody] at listed
    exact (Multiset.notMem_zero _ listed).elim
  | held cell_eq distinct numbered staff =>
    rw [cell_eq]
    exact .inr (Option.some_ne_none _)

/-- At a cell that is held somebody works, or the holder is there to take the work over. -/
theorem busy (served : cell.Served nextCall clients) (empty : cell.value = none)
    (held : cell.holder ≠ none) :
    .working ∈ clients ∨ ∃ holder, cell.holder = some holder ∧ .waiting holder ∈ clients := by
  cases served with
  | filled known idle => exact (known empty).elim
  | free isEmpty nobody =>
    rw [isEmpty] at held
    exact (held rfl).elim
  | @held holder queue cell_eq distinct numbered staff =>
    rcases staff with working | waiting
    · rw [working]
      exact .inl (Multiset.mem_cons_self _ _)
    · rw [waiting, queued_cons, cell_eq]
      exact .inr ⟨holder, rfl, Multiset.mem_cons_self _ _⟩

/-- Nobody works while the holder is still to take the work over. -/
theorem idle_of_waiting {holder : Nat} (served : cell.Served nextCall clients)
    (held : cell.holder = some holder) (waits : .waiting holder ∈ clients) :
    .working ∉ clients := by
  cases served with
  | filled known idle => exact idle
  | free isEmpty nobody =>
    rw [nobody]
    exact Multiset.notMem_zero _
  | @held other queue cell_eq distinct numbered staff =>
    obtain rfl : other = holder := by simpa [cell_eq] using held
    rcases staff with working | waiting
    · have queued : other ∈ queue := by simpa [working] using waits
      exact ((List.nodup_cons.mp distinct).1 queued).elim
    · rw [waiting]
      exact working_notMem_queued _

/-- The first call comes to hold the cell. -/
theorem hold (served : cell.Served nextCall clients) (empty : cell.value = none)
    (free : cell.holder = none) :
    Served { cell with holder := some nextCall } (nextCall + 1) (.working ::ₘ clients) := by
  cases served with
  | filled known idle => exact (known empty).elim
  | free isEmpty nobody =>
    rw [isEmpty, nobody]
    refine .held rfl (List.nodup_singleton _) (fun call listed => ?_) (.inl rfl)
    rw [List.mem_singleton.mp listed]
    exact Nat.lt_succ_self _
  | held cell_eq distinct numbered staff =>
    rw [cell_eq] at free
    cases free

/-- Any other call queues. -/
theorem enqueue (served : cell.Served nextCall clients) (empty : cell.value = none)
    (held : cell.holder ≠ none) :
    Served { cell with queue := cell.queue ++ [nextCall] } (nextCall + 1)
      (.waiting nextCall ::ₘ clients) := by
  cases served with
  | filled known idle => exact (known empty).elim
  | free isEmpty nobody =>
    rw [isEmpty] at held
    exact (held rfl).elim
  | @held holder queue cell_eq distinct numbered staff =>
    have new : nextCall ∉ holder :: queue := fun listed =>
      Nat.lt_irrefl _ (numbered _ listed)
    have longer : { cell with queue := cell.queue ++ [nextCall] } =
        (⟨none, some holder, queue ++ [nextCall]⟩ : Cell α) := by rw [cell_eq]
    refine .held longer ?_ ?_ ?_
    · rw [← List.cons_append, ← List.concat_eq_append]
      exact distinct.concat new
    · intro call listed
      rw [← List.cons_append, List.mem_append, List.mem_singleton] at listed
      rcases listed with listed | rfl
      · exact Nat.lt_succ_of_lt (numbered call listed)
      · exact Nat.lt_succ_self _
    · rw [queued_cons, queued_concat]
      rcases staff with rfl | rfl
      · exact .inl (Multiset.cons_swap _ _ _)
      · exact .inr (Multiset.cons_swap (.waiting nextCall) (.waiting holder) (queued queue))

/-- A call that has queued finds the cell filled and leaves. -/
theorem leave {call : Nat} (served : cell.Served nextCall (.waiting call ::ₘ clients))
    (known : cell.value ≠ none) : cell.Served nextCall clients := by
  cases served with
  | filled _ idle => exact .filled known fun working => idle (Multiset.mem_cons_of_mem working)
  | free empty nobody =>
    rw [empty] at known
    exact (known rfl).elim
  | held cell_eq distinct numbered staff =>
    rw [cell_eq] at known
    exact (known rfl).elim

/-- A call that has queued finds that it holds the cell, and works. -/
theorem takeOver {call : Nat} (served : cell.Served nextCall (.waiting call ::ₘ clients))
    (empty : cell.value = none) (held : cell.holder = some call) :
    cell.Served nextCall (.working ::ₘ clients) := by
  have idle := served.idle_of_waiting held (Multiset.mem_cons_self _ _)
  cases served with
  | filled known idle => exact (known empty).elim
  | free isEmpty nobody => exact (Multiset.cons_ne_zero nobody).elim
  | @held holder queue cell_eq distinct numbered staff =>
    obtain rfl : holder = call := by simpa [cell_eq] using held
    rcases staff with working | waiting
    · have listed : .working ∈ Client.waiting holder ::ₘ clients :=
        working ▸ Multiset.mem_cons_self _ _
      exact (idle listed).elim
    · rw [queued_cons] at waiting
      have rest := (Multiset.cons_inj_right _).mp waiting
      exact .held cell_eq distinct numbered (.inl (by rw [rest]))

/-- Without the call that works, only the queue is left. -/
private theorem queue_of_working {holder : Nat} {queue : List Nat}
    (staff : .working ::ₘ clients = .working ::ₘ queued queue ∨
      .working ::ₘ clients = queued (holder :: queue)) : clients = queued queue := by
  rcases staff with working | waiting
  · exact (Multiset.cons_inj_right _).mp working
  · have listed : .working ∈ queued (holder :: queue) := waiting ▸ Multiset.mem_cons_self _ _
    exact (working_notMem_queued _ listed).elim

/-- The call that works fills the cell and leaves. -/
theorem fill (served : cell.Served nextCall (.working ::ₘ clients)) (value : α) :
    (cell.fill value).Served nextCall clients := by
  refine .filled (Option.some_ne_none _) ?_
  cases served with
  | filled known idle => exact (idle (Multiset.mem_cons_self _ _)).elim
  | free empty nobody => exact (Multiset.cons_ne_zero nobody).elim
  | held cell_eq distinct numbered staff =>
    rw [queue_of_working staff]
    exact working_notMem_queued _

/-- The call that works fails and leaves; the longest waiting call holds the cell then. -/
theorem release (served : cell.Served nextCall (.working ::ₘ clients)) :
    cell.release.Served nextCall clients := by
  cases served with
  | filled known idle => exact (idle (Multiset.mem_cons_self _ _)).elim
  | free empty nobody => exact (Multiset.cons_ne_zero nobody).elim
  | @held holder queue cell_eq distinct numbered staff =>
    rw [queue_of_working staff, cell_eq]
    cases queue with
    | nil => exact .free rfl rfl
    | cons next rest =>
      exact .held rfl (List.nodup_cons.mp distinct).2
        (fun call listed => numbered call (List.mem_cons_of_mem _ listed)) (.inr rfl)

end Served

end Cell

end DiagramAssist
