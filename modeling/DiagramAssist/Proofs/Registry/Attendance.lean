import DiagramAssist.Proofs.Registry.Slots

/-! # Who waits and who works

Calls for a key queue at its slot, and the longest waiting one works for it. What makes this safe is
that a call which works for a slot is alone in doing so until it fills the slot or fails, and that a
slot belongs to one key for good, even after the key has lost it. Both hold through everything a
call can do: asking for a key (`Attended.arrive`), taking the work over (`Attended.takeOver`),
filling the slot (`Attended.succeed`) and failing (`Attended.fail`).
-/

namespace DiagramAssist

/-- How a call stands with the registry. -/
inductive Phase where
  | arriving (key : String)
  | queued (key : String) (number : Nat) (slot : SlotId)
  /-- The call holds the slot and works the document out. -/
  | working (key : String) (slot : SlotId)
  | returned

namespace Phase

/-- How a call stands once it has asked for a key. -/
def ofStanding (key : String) (number : Nat) (slot : SlotId) : Cell.Standing ContextId → Phase
  | .found _ => .returned
  | .queued => .queued key number slot
  | .holding => .working key slot

/-- The key and the slot of a call that waits or works. -/
def place? : Phase → Option (String × SlotId)
  | .queued key _ slot => some (key, slot)
  | .working key slot => some (key, slot)
  | _ => none

/-- Whether a call is at no slot. -/
def IsAway (phase : Phase) : Prop :=
  phase.place? = none

end Phase

/-- What stands in a list after one of its entries has been replaced. -/
theorem getElem?_set_eq_some {α : Type} {items : List α} {index : Nat} {old : α}
    (present : items[index]? = some old) (new : α) (other : Nat) (found : α) :
    (items.set index new)[other]? = some found ↔
      (other = index ∧ new = found) ∨ (other ≠ index ∧ items[other]? = some found) := by
  have known := (List.getElem?_eq_some_iff.mp present).1
  by_cases here : other = index
  · subst here
    simp [known]
  · simp [List.getElem?_set_ne (Ne.symm here), here]

/-- What stands in a list after one more entry. -/
theorem getElem?_concat_eq_some {α : Type} (items : List α) (last : α) (index : Nat) (found : α) :
    (items ++ [last])[index]? = some found ↔
      items[index]? = some found ∨ (index = items.length ∧ last = found) := by
  rcases Nat.lt_trichotomy index items.length with before | rfl | behind
  · simp [List.getElem?_append_left before, Nat.ne_of_lt before]
  · simp
  · have outside : (items ++ [last]).length ≤ index := by simpa using Nat.succ_le_of_lt behind
    simp [List.getElem?_eq_none outside, List.getElem?_eq_none (Nat.le_of_lt behind),
      Nat.ne_of_gt behind]

/-- Who waits for which slot, and who works for it. Every slot belongs to one key, whether the key
still has it or not; every number is that of one call; and the call that works for a slot is the
only one to do so, and fills it before anyone else can. -/
structure Attended (owner : SlotId → String) (registry : Registry) (nextCall : Nat)
    (phases : List Phase) : Prop where
  current : ∀ {key : String} {slot : SlotId}, registry.slot? key = some slot →
    slot < registry.slots.length ∧ owner slot = key
  placed : ∀ {index : Nat} {phase : Phase} {key : String} {slot : SlotId},
    phases[index]? = some phase → phase.place? = some (key, slot) →
    slot < registry.slots.length ∧ owner slot = key
  held : ∀ {slot : SlotId} {number : Nat}, (registry.cell slot).holder = some number →
    number < nextCall
  awaited : ∀ {slot : SlotId} {number : Nat}, number ∈ (registry.cell slot).queue →
    number < nextCall
  numbered : ∀ {index number : Nat} {key : String} {slot : SlotId},
    phases[index]? = some (.queued key number slot) → number < nextCall
  numberedOnce : ∀ {index other number : Nat} {key key' : String} {slot slot' : SlotId},
    phases[index]? = some (.queued key number slot) →
    phases[other]? = some (.queued key' number slot') → index = other
  worked : ∀ {index : Nat} {key : String} {slot : SlotId},
    phases[index]? = some (.working key slot) →
    (registry.cell slot).value = none ∧ ∃ holder, (registry.cell slot).holder = some holder ∧
      ∀ (other : Nat) (key' : String) (slot' : SlotId),
        phases[other]? ≠ some (.queued key' holder slot')
  workedOnce : ∀ {index other : Nat} {key key' : String} {slot : SlotId},
    phases[index]? = some (.working key slot) → phases[other]? = some (.working key' slot) →
    index = other

namespace Attended

variable {owner : SlotId → String} {registry : Registry} {nextCall : Nat} {phases : List Phase}

theorem mono (attended : Attended owner registry nextCall phases) {later : Nat}
    (le : nextCall ≤ later) : Attended owner registry later phases where
  current := attended.current
  placed := attended.placed
  held known := Nat.lt_of_lt_of_le (attended.held known) le
  awaited known := Nat.lt_of_lt_of_le (attended.awaited known) le
  numbered known := Nat.lt_of_lt_of_le (attended.numbered known) le
  numberedOnce := attended.numberedOnce
  worked := attended.worked
  workedOnce := attended.workedOnce

/-- Nothing is asked of calls that are at no slot, so calls may leave and new ones may come. -/
theorem restrict (attended : Attended owner registry nextCall phases) {fewer : List Phase}
    (kept : ∀ {index : Nat} {phase : Phase} {place : String × SlotId},
      fewer[index]? = some phase → phase.place? = some place → phases[index]? = some phase) :
    Attended owner registry nextCall fewer where
  current := attended.current
  placed found place := attended.placed (kept found place) place
  held := attended.held
  awaited := attended.awaited
  numbered found := attended.numbered (kept found rfl)
  numberedOnce first second := attended.numberedOnce (kept first rfl) (kept second rfl)
  worked found := by
    obtain ⟨empty, holder, held, nobody⟩ := attended.worked (kept found rfl)
    exact ⟨empty, holder, held, fun other key' slot' queued =>
      nobody other key' slot' (kept queued rfl)⟩
  workedOnce first second := attended.workedOnce (kept first rfl) (kept second rfl)

theorem leave (attended : Attended owner registry nextCall phases) {index : Nat} {old new : Phase}
    (present : phases[index]? = some old) (away : new.IsAway) :
    Attended owner registry nextCall (phases.set index new) := by
  apply attended.restrict
  intro other phase place found at_
  rcases (getElem?_set_eq_some present new other phase).mp found with ⟨-, rfl⟩ | ⟨-, found⟩
  · rw [away] at at_
    cases at_
  · exact found

theorem append (attended : Attended owner registry nextCall phases) (key : String) :
    Attended owner registry nextCall (phases ++ [.arriving key]) := by
  apply attended.restrict
  intro other phase place found at_
  rcases (getElem?_concat_eq_some phases _ other phase).mp found with found | ⟨-, rfl⟩
  · exact found
  · cases at_

/-- A slot may change, as long as the call that works for it, if there is one, still holds it. -/
theorem setCell (attended : Attended owner registry nextCall phases) {slot : SlotId}
    {cell : Cell ContextId} (held : ∀ {number : Nat}, cell.holder = some number → number < nextCall)
    (awaited : ∀ {number : Nat}, number ∈ cell.queue → number < nextCall)
    (working : ∀ {index : Nat} {key : String}, phases[index]? = some (.working key slot) →
      cell.value = none ∧ cell.holder = (registry.cell slot).holder) :
    Attended owner (registry.setCell slot cell) nextCall phases := by
  -- A slot that has not been made stays unmade, so either the slot is the new one or it is kept.
  have cells (other : SlotId) : (registry.setCell slot cell).cell other = registry.cell other ∨
      other = slot ∧ (registry.setCell slot cell).cell other = cell := by
    by_cases here : other = slot
    · subst here
      rcases Nat.lt_or_ge other registry.slots.length with known | unknown
      · exact .inr ⟨rfl, Registry.cell_setCell_self _ _ _ known⟩
      · left
        rw [Registry.cell_of_unknown unknown,
          Registry.cell_of_unknown (by rwa [Registry.length_setCell])]
    · exact .inl (Registry.cell_setCell_of_ne _ _ _ here)
  refine ⟨?_, ?_, ?_, ?_, attended.numbered, attended.numberedOnce, ?_, attended.workedOnce⟩
  · intro key other current
    rw [Registry.length_setCell]
    exact attended.current current
  · intro index phase key other found place
    rw [Registry.length_setCell]
    exact attended.placed found place
  · intro other number holds
    rcases cells other with same | ⟨-, new⟩
    · rw [same] at holds
      exact attended.held holds
    · rw [new] at holds
      exact held holds
  · intro other number waits
    rcases cells other with same | ⟨-, new⟩
    · rw [same] at waits
      exact attended.awaited waits
    · rw [new] at waits
      exact awaited waits
  · intro index key other found
    obtain ⟨empty, holder, holds, nobody⟩ := attended.worked found
    rcases cells other with same | ⟨rfl, new⟩
    · rw [same]
      exact ⟨empty, holder, holds, nobody⟩
    · rw [new]
      obtain ⟨empty', holder'⟩ := working found
      exact ⟨empty', holder, holder'.trans holds, nobody⟩

/-- A call that holds an empty slot, under a number that nobody queues under, works for it. -/
theorem work (attended : Attended owner registry nextCall phases) {index holder : Nat}
    {old : Phase} {key : String} {slot : SlotId} (present : phases[index]? = some old)
    (known : slot < registry.slots.length) (belongs : owner slot = key)
    (empty : (registry.cell slot).value = none)
    (held : (registry.cell slot).holder = some holder)
    (nobody : ∀ (other : Nat) (key' : String) (slot' : SlotId),
      phases[other]? ≠ some (.queued key' holder slot'))
    (idle : ∀ (other : Nat) (key' : String), phases[other]? ≠ some (.working key' slot)) :
    Attended owner registry nextCall (phases.set index (.working key slot)) := by
  have split := getElem?_set_eq_some present (.working key slot)
  have queued {other number : Nat} {key' : String} {slot' : SlotId}
      (found : (phases.set index (.working key slot))[other]? = some (.queued key' number slot')) :
      phases[other]? = some (.queued key' number slot') := by
    rcases (split other _).mp found with ⟨-, absurd⟩ | ⟨-, found⟩
    · cases absurd
    · exact found
  refine ⟨attended.current, ?_, attended.held, attended.awaited, ?_, ?_, ?_, ?_⟩
  · intro other phase key' slot' found place
    rcases (split other phase).mp found with ⟨-, rfl⟩ | ⟨-, found⟩
    · cases place
      exact ⟨known, belongs⟩
    · exact attended.placed found place
  · intro other number key' slot' found
    exact attended.numbered (queued found)
  · intro first second number key' key'' slot' slot'' found found'
    exact attended.numberedOnce (queued found) (queued found')
  · intro other key' slot' found
    rcases (split other _).mp found with ⟨-, same⟩ | ⟨-, found⟩
    · cases same
      exact ⟨empty, holder, held, fun third key' slot' found => nobody _ _ _ (queued found)⟩
    · obtain ⟨empty', holder', held', nobody'⟩ := attended.worked found
      exact ⟨empty', holder', held', fun third key' slot' found => nobody' _ _ _ (queued found)⟩
  · intro first second key' key'' slot' found found'
    rcases (split first _).mp found with ⟨rfl, same⟩ | ⟨-, found⟩
    · cases same
      rcases (split second _).mp found' with ⟨rfl, -⟩ | ⟨-, found'⟩
      · rfl
      · exact (idle _ _ found').elim
    · rcases (split second _).mp found' with ⟨-, same⟩ | ⟨-, found'⟩
      · cases same
        exact (idle _ _ found).elim
      · exact attended.workedOnce found found'

/-- A call queues under a number of its own. -/
theorem wait (attended : Attended owner registry nextCall phases) {index : Nat} {old : Phase}
    {key : String} {slot : SlotId} (present : phases[index]? = some old)
    (known : slot < registry.slots.length) (belongs : owner slot = key) :
    Attended owner registry (nextCall + 1) (phases.set index (.queued key nextCall slot)) := by
  have split := getElem?_set_eq_some present (.queued key nextCall slot)
  have later := attended.mono (Nat.le_succ nextCall)
  refine ⟨later.current, ?_, later.held, later.awaited, ?_, ?_, ?_, ?_⟩
  · intro other phase key' slot' found place
    rcases (split other phase).mp found with ⟨-, rfl⟩ | ⟨-, found⟩
    · cases place
      exact ⟨known, belongs⟩
    · exact attended.placed found place
  · intro other number key' slot' found
    rcases (split other _).mp found with ⟨-, same⟩ | ⟨-, found⟩
    · cases same
      exact Nat.lt_succ_self nextCall
    · exact later.numbered found
  · intro first second number key' key'' slot' slot'' found found'
    rcases (split first _).mp found with ⟨rfl, same⟩ | ⟨-, found⟩
    · cases same
      rcases (split second _).mp found' with ⟨rfl, -⟩ | ⟨-, found'⟩
      · rfl
      · exact (Nat.lt_irrefl _ (attended.numbered found')).elim
    · rcases (split second _).mp found' with ⟨-, same⟩ | ⟨-, found'⟩
      · cases same
        exact (Nat.lt_irrefl _ (attended.numbered found)).elim
      · exact attended.numberedOnce found found'
  · intro other key' slot' found
    rcases (split other _).mp found with ⟨-, absurd⟩ | ⟨-, found⟩
    · cases absurd
    · obtain ⟨empty, holder, held, nobody⟩ := attended.worked found
      refine ⟨empty, holder, held, fun third key' slot' found => ?_⟩
      rcases (split third _).mp found with ⟨-, same⟩ | ⟨-, found⟩
      · cases same
        exact Nat.lt_irrefl _ (attended.held held)
      · exact nobody _ _ _ found
  · intro first second key' key'' slot' found found'
    rcases (split first _).mp found with ⟨-, absurd⟩ | ⟨-, found⟩
    · cases absurd
    · rcases (split second _).mp found' with ⟨-, absurd⟩ | ⟨-, found'⟩
      · cases absurd
      · exact attended.workedOnce found found'

/-- The longest waiting call takes over the work. -/
theorem takeOver (attended : Attended owner registry nextCall phases) {index number : Nat}
    {key : String} {slot : SlotId} (present : phases[index]? = some (.queued key number slot))
    (empty : (registry.cell slot).value = none)
    (held : (registry.cell slot).holder = some number) :
    Attended owner registry nextCall (phases.set index (.working key slot)) := by
  obtain ⟨known, belongs⟩ := attended.placed present rfl
  have split := getElem?_set_eq_some present .returned
  -- The call gives its number up first, so that nobody queues under the number of the holder.
  have left : Attended owner registry nextCall (phases.set index .returned) :=
    attended.leave present rfl
  have absent : (phases.set index .returned)[index]? = some .returned :=
    (split index _).mpr (.inl ⟨rfl, rfl⟩)
  have work := left.work absent known belongs empty held
  rw [List.set_set] at work
  apply work
  · intro other key' slot' found
    rcases (split other _).mp found with ⟨-, absurd⟩ | ⟨different, found⟩
    · cases absurd
    · exact different (attended.numberedOnce found present)
  · intro other key' found
    rcases (split other _).mp found with ⟨-, absurd⟩ | ⟨-, found⟩
    · cases absurd
    · obtain ⟨-, holder, holds, nobody⟩ := attended.worked found
      rw [held] at holds
      cases holds
      exact nobody index key slot present

/-- When the call that works for a slot leaves, nobody works for it. -/
theorem idle (attended : Attended owner registry nextCall phases) {index : Nat} {key : String}
    {slot : SlotId} {new : Phase} (present : phases[index]? = some (.working key slot))
    (away : new.IsAway) (other : Nat) (key' : String) :
    (phases.set index new)[other]? ≠ some (.working key' slot) := by
  intro found
  rcases (getElem?_set_eq_some present new other _).mp found with ⟨-, rfl⟩ | ⟨different, found⟩
  · cases away
  · exact different (attended.workedOnce found present)

/-- The call that works for a slot fills it and leaves. -/
theorem succeed (attended : Attended owner registry nextCall phases) {index : Nat} {key : String}
    {slot : SlotId} {new : Phase} (present : phases[index]? = some (.working key slot))
    (away : new.IsAway) (context : ContextId) :
    Attended owner (registry.succeed slot context) nextCall (phases.set index new) := by
  apply (attended.leave present away).setCell
  · intro number holds
    cases holds
  · intro number waits
    cases waits
  · intro other key' found
    exact (attended.idle present away other key' found).elim

/-- The call that works for a slot fails and leaves; the longest waiting call holds the slot, and
the key may lose it. -/
theorem fail (attended : Attended owner registry nextCall phases) {index : Nat} {key : String}
    {slot : SlotId} {new : Phase} (present : phases[index]? = some (.working key slot))
    (away : new.IsAway) :
    Attended owner (registry.fail key slot) nextCall (phases.set index new) := by
  classical
  have released : Attended owner (registry.setCell slot (registry.cell slot).release) nextCall
      (phases.set index new) := by
    apply (attended.leave present away).setCell
    · intro number holds
      simp only [Cell.release] at holds
      split at holds
      · cases holds
      · next next rest queue =>
        cases holds
        have waits : number ∈ (registry.cell slot).queue := by
          rw [queue]
          exact List.mem_cons_self
        exact attended.awaited waits
    · intro number waits
      simp only [Cell.release] at waits
      split at waits
      · exact attended.awaited waits
      · next next rest queue =>
        have waits : number ∈ (registry.cell slot).queue := by
          rw [queue]
          exact List.mem_cons_of_mem _ waits
        exact attended.awaited waits
    · intro other key' found
      exact (attended.idle present away other key' found).elim
  have length : (registry.fail key slot).slots.length = registry.slots.length := by
    rw [Registry.fail_eq]
    exact List.length_set
  refine ⟨?_, ?_, ?_, ?_, released.numbered, released.numberedOnce, ?_, released.workedOnce⟩
  · intro key' slot' current
    rw [Registry.slot?_fail] at current
    split at current
    · cases current
    · rw [length]
      exact attended.current current
  · intro other phase key' slot' found place
    rw [length, ← Registry.length_setCell registry slot (registry.cell slot).release]
    exact released.placed found place
  · intro other number holds
    rw [Registry.cell_fail] at holds
    exact released.held holds
  · intro other number waits
    rw [Registry.cell_fail] at waits
    exact released.awaited waits
  · intro other key' slot' found
    rw [Registry.cell_fail]
    exact released.worked found

/-- A new slot belongs to the key it is made for, and the call it is made for holds it. -/
theorem claim (attended : Attended owner registry nextCall phases) {key : String}
    (missing : registry.slot? key = none) :
    Attended (fun slot => if slot = registry.slots.length then key else owner slot)
      ⟨registry.slots ++ [⟨none, some nextCall, []⟩],
        registry.table ++ [(key, registry.slots.length)]⟩ (nextCall + 1) phases := by
  have later := attended.mono (Nat.le_succ nextCall)
  have length : (registry.slots ++ [(⟨none, some nextCall, []⟩ : Cell ContextId)]).length =
      registry.slots.length + 1 := by simp
  have old {slot : SlotId} {key' : String}
      (known : slot < registry.slots.length ∧ owner slot = key') :
      slot < (registry.slots ++ [(⟨none, some nextCall, []⟩ : Cell ContextId)]).length ∧
        (if slot = registry.slots.length then key else owner slot) = key' := by
    rw [length, if_neg (Nat.ne_of_lt known.1)]
    exact ⟨Nat.lt_succ_of_lt known.1, known.2⟩
  refine ⟨?_, ?_, ?_, ?_, later.numbered, later.numberedOnce, ?_, later.workedOnce⟩
  · intro other slot current
    rw [Registry.slot?_claimed missing] at current
    split at current
    · next same =>
      cases current
      subst same
      rw [length, if_pos rfl]
      exact ⟨Nat.lt_succ_self _, rfl⟩
    · exact old (attended.current current)
  · intro index phase other slot found place
    exact old (attended.placed found place)
  · intro slot number holds
    rw [Registry.cell_claimed] at holds
    split at holds
    · cases holds
      exact Nat.lt_succ_self _
    · exact later.held holds
  · intro slot number waits
    rw [Registry.cell_claimed] at waits
    split at waits
    · cases waits
    · exact later.awaited waits
  · intro index other slot found
    have known := (attended.placed found rfl).1
    rw [Registry.cell_claimed, if_neg (Nat.ne_of_lt known)]
    exact attended.worked found

/-- A call asks for a key. If the key had no slot it gets one, which belongs to it from then on. -/
theorem arrive (attended : Attended owner registry nextCall phases) {index : Nat} {key : String}
    (present : phases[index]? = some (.arriving key)) {after : Registry} {slot : SlotId}
    {standing : Cell.Standing ContextId}
    (arrival : registry.Arrival key nextCall after slot standing) :
    ∃ owner' : SlotId → String, (∀ known < registry.slots.length, owner' known = owner known) ∧
      Attended owner' after (nextCall + 1)
        (phases.set index (.ofStanding key nextCall slot standing)) := by
  have later := attended.mono (Nat.le_succ nextCall)
  -- Nobody queues under the number of the call, which is new.
  have nobody (other : Nat) (key' : String) (slot' : SlotId) :
      phases[other]? ≠ some (.queued key' nextCall slot') := fun found =>
    Nat.lt_irrefl _ (attended.numbered found)
  cases arrival with
  | found shown => exact ⟨owner, fun _ _ => rfl, later.leave present rfl⟩
  | queued current empty held =>
    obtain ⟨known, belongs⟩ := attended.current current
    refine ⟨owner, fun _ _ => rfl, ?_⟩
    apply (attended.wait present known belongs).setCell
    · intro number holds
      have holds : (registry.cell slot).holder = some number := holds
      exact later.held holds
    · intro number waits
      rcases List.mem_append.mp waits with waits | same
      · exact later.awaited waits
      · cases List.mem_singleton.mp same
        exact Nat.lt_succ_self _
    · intro other key' found
      exact ⟨empty, rfl⟩
  | holding current empty free =>
    obtain ⟨known, belongs⟩ := attended.current current
    have idle (other : Nat) (key' : String) : phases[other]? ≠ some (.working key' slot) := by
      intro found
      obtain ⟨-, holder, holds, -⟩ := attended.worked found
      rw [free] at holds
      cases holds
    have held : Attended owner
        (registry.setCell slot { registry.cell slot with holder := some nextCall }) (nextCall + 1)
        phases := by
      apply later.setCell
      · intro number holds
        cases holds
        exact Nat.lt_succ_self _
      · intro number waits
        exact later.awaited waits
      · intro other key' found
        exact (idle other key' found).elim
    have cell := Registry.cell_setCell_self registry slot
      { registry.cell slot with holder := some nextCall } known
    refine ⟨owner, fun _ _ => rfl, ?_⟩
    exact held.work present (by rwa [Registry.length_setCell]) belongs (by rw [cell]; exact empty)
      (by rw [cell]) nobody idle
  | claimed missing =>
    have cell := Registry.cell_claimed registry (registry.table ++ [(key, registry.slots.length)])
      nextCall registry.slots.length
    rw [if_pos rfl] at cell
    have idle (other : Nat) (key' : String) :
        phases[other]? ≠ some (.working key' registry.slots.length) := fun found =>
      Nat.lt_irrefl _ (attended.placed found rfl).1
    refine ⟨fun slot => if slot = registry.slots.length then key else owner slot,
      fun known lt => if_neg (Nat.ne_of_lt lt), ?_⟩
    exact (attended.claim missing).work present (by simp) (if_pos rfl) (by rw [cell]) (by rw [cell])
      nobody idle

end Attended

end DiagramAssist
