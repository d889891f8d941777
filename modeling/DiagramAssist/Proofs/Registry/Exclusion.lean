import DiagramAssist.Proofs.Registry.Orderly
import Mathlib.Data.List.Induction

/-! # Which loads run at the same time

Loads of one key should not run at the same time. The loads at one slot do not, but a key may have
had several slots: it loses its slot when a load that runs for the slot fails, and gets another one
when it is asked for again. Those who waited at the lost slot then go on with it, one after the
other, beside whoever runs for the new one. This is the only way in which two loads of one key come
to run together: one of them has inherited its slot from a load that failed.
-/

namespace DiagramAssist

namespace Load

/-- A turn of a load takes a slot away from its key only if the load ran for that slot and fails. -/
theorem Turn.slot?_kept_or_lost {world : World} {load : Load} {outcome : World × Load}
    (turn : Turn world load outcome) {key : String} {slot : SlotId}
    (current : world.registry.slot? key = some slot) :
    outcome.1.registry.slot? key = some slot ∨
      outcome.1.registry.slot? key = none ∧ (∃ pending, load = .fetching key slot pending) ∧
        ∃ error, outcome.2 = .returned (.error error) := by
  cases turn with
  | @arrive asked registry own standing arrival =>
    left
    obtain ⟨sameRegistry, -⟩ := proceed_spec
      { world with registry, nextCall := world.nextCall + 1 } asked world.nextCall own standing
    rw [sameRegistry]
    exact arrival.slot?_kept current
  | receive filled => exact .inl current
  | takeOver empty held => exact .inl current
  | deliver ended good => exact .inl current
  | @fail asked own pending error ended bad =>
    classical
    by_cases dropped : key = asked ∧ world.registry.Drops asked own
    · obtain ⟨rfl, drops⟩ := dropped
      obtain rfl : slot = own := Option.some.inj (current.symm.trans drops.1)
      refine .inr ⟨?_, ⟨pending, rfl⟩, error, rfl⟩
      exact (world.registry.slot?_fail key slot key).trans (if_pos ⟨rfl, drops⟩)
    · left
      exact (world.registry.slot?_fail asked own key).trans ((if_neg dropped).trans current)

/-- A load that waits or runs for a slot after a turn did so before, or its key has the slot. -/
theorem Turn.place?_kept_or_current {world : World} {load : Load} {outcome : World × Load}
    (turn : Turn world load outcome) {key : String} {slot : SlotId}
    (place : (Call.load outcome.2).phase.place? = some (key, slot)) :
    (Call.load load).phase.place? = some (key, slot) ∨
      outcome.1.registry.slot? key = some slot := by
  cases turn with
  | @arrive asked registry own standing arrival =>
    right
    obtain ⟨sameRegistry, -, -, phase⟩ := proceed_spec
      { world with registry, nextCall := world.nextCall + 1 } asked world.nextCall own standing
    rw [phase] at place
    rw [sameRegistry]
    cases standing with
    | found context => cases place
    | queued =>
      cases place
      exact arrival.current
    | holding =>
      cases place
      exact arrival.current
  | receive filled => cases place
  | takeOver empty held => exact .inl place
  | deliver ended good => cases place
  | fail ended bad => cases place

end Load

namespace Update

/-- No turn of an update takes a slot away. -/
theorem Turn.slot?_kept {world : World} {update : Update} {outcome : World × Update}
    (turn : Turn world update outcome) {key : String} {slot : SlotId}
    (current : world.registry.slot? key = some slot) :
    outcome.1.registry.slot? key = some slot := by
  cases turn with
  | arrive arrival =>
    have kept := arrival.slot?_kept current
    cases arrival with
    | found shown =>
      simp only [proceed, registry_settle]
      exact kept
    | queued _ empty held => exact kept
    | holding _ empty free =>
      simp only [proceed, registry_settle]
      exact kept
    | claimed missing =>
      simp only [proceed, registry_settle]
      exact kept
  | receive filled =>
    rw [registry_settle]
    exact current
  | takeOver empty held =>
    rw [registry_settle]
    exact current

end Update

namespace Interleaving

/-- The call is a load of the key that runs: it fetches the document for the slot. -/
def Runs (state : Interleaving) (index : Nat) (key : String) (slot : SlotId) : Prop :=
  ∃ pending, state.calls[index]? = some (.load (.fetching key slot pending))

/-- The call is a load of the key that waits for the slot. -/
def Waits (state : Interleaving) (index : Nat) (key : String) (slot : SlotId) : Prop :=
  ∃ number, state.calls[index]? = some (.load (.queued key number slot))

/-- The load that runs for the slot of the key fails, and the key loses the slot. -/
structure Drops (state after : Interleaving) (index : Nat) (key : String) (slot : SlotId) :
    Prop where
  runs : state.Runs index key slot
  current : state.world.registry.slot? key = some slot
  went : state.step? (.proceed index) = some after
  failed : ∃ error, after.calls[index]? = some (.load (.returned (.error error)))
  lost : after.world.registry.slot? key = none

/-- In the course of the events the load waited for the slot while the load that ran for it failed
and the key lost the slot. -/
def Inherits (start : Interleaving) (events : List Event) (index : Nat) (key : String)
    (slot : SlotId) : Prop :=
  ∃ before failing later state after, events = before ++ .proceed failing :: later ∧
    start.run? before = some state ∧ state.Drops after failing key slot ∧
    state.Waits index key slot

theorem Inherits.concat {start : Interleaving} {events : List Event} {index : Nat} {key : String}
    {slot : SlotId} (inherits : Inherits start events index key slot) (event : Event) :
    Inherits start (events ++ [event]) index key slot := by
  obtain ⟨before, failing, later, state, after, rfl, ran, drops, waits⟩ := inherits
  refine ⟨before, failing, later ++ [event], state, after, ?_, ran, drops, waits⟩
  rw [List.append_assoc, List.cons_append]

/-- The call is a load that waits or runs for the slot of the key. -/
def Attends (state : Interleaving) (index : Nat) (key : String) (slot : SlotId) : Prop :=
  ∃ load, state.calls[index]? = some (.load load) ∧
    (Call.load load).phase.place? = some (key, slot)

variable {state after : Interleaving} {event : Event} {events : List Event} {index other : Nat}
  {key : String} {slot slot' : SlotId}

theorem Attends.waits_or_runs (attends : state.Attends index key slot) :
    state.Waits index key slot ∨ state.Runs index key slot := by
  obtain ⟨load, present, place⟩ := attends
  cases load with
  | arriving asked => cases place
  | queued asked number own =>
    cases place
    exact .inl ⟨number, present⟩
  | fetching asked own pending =>
    cases place
    exact .inr ⟨pending, present⟩
  | returned result => cases place

theorem Runs.attends (runs : state.Runs index key slot) : state.Attends index key slot := by
  obtain ⟨pending, present⟩ := runs
  exact ⟨_, present, rfl⟩

theorem Runs.working (runs : state.Runs index key slot) :
    (state.calls.map Call.phase)[index]? = some (.working key slot) := by
  obtain ⟨pending, present⟩ := runs
  exact Call.getElem?_map_phase present

theorem Runs.slot_eq (first : state.Runs index key slot) (second : state.Runs index key slot') :
    slot = slot' := by
  obtain ⟨pending, present⟩ := first
  obtain ⟨pending', present'⟩ := second
  rw [present] at present'
  cases present'
  rfl

/-- One load at a time runs for a slot. -/
theorem Runs.unique (orderly : state.Orderly) (first : state.Runs index key slot)
    (second : state.Runs other key slot) : index = other := by
  obtain ⟨owner, attended, -⟩ := orderly
  exact attended.workedOnce first.working second.working

/-- Whatever happens, a key keeps its slot unless the load that runs for it fails. -/
theorem step?_slot?_kept_or_drops (went : state.step? event = some after)
    (current : state.world.registry.slot? key = some slot) :
    after.world.registry.slot? key = some slot ∨
      ∃ failing, event = .proceed failing ∧ state.Drops after failing key slot := by
  cases event with
  | load asked =>
    cases went
    exact .inl current
  | update asked root =>
    cases went
    exact .inl current
  | proceed index =>
    obtain ⟨load, outcome, present, turn, rfl⟩ | ⟨update, outcome, present, turn, rfl⟩ :=
      step?_proceed_turn went
    · rcases turn.slot?_kept_or_lost current with kept | ⟨lost, ⟨pending, rfl⟩, error, failed⟩
      · exact .inl kept
      · have listed := (List.getElem?_eq_some_iff.mp present).1
        refine .inr ⟨index, rfl, ⟨pending, present⟩, current, went, ⟨error, ?_⟩, lost⟩
        rw [← failed]
        exact List.getElem?_set_self listed
    · exact .inl (turn.slot?_kept current)
  | wait moment =>
    cases went
    exact .inl current
  | change source =>
    cases went
    exact .inl current

/-- Whatever happens, a load comes to a slot only while its key has the slot. -/
theorem Attends.before_or_current (went : state.step? event = some after)
    (attends : after.Attends index key slot) :
    state.Attends index key slot ∨ after.world.registry.slot? key = some slot := by
  obtain ⟨load, present, place⟩ := attends
  cases event with
  | load asked =>
    cases went
    rcases (getElem?_concat_eq_some _ _ _ _).mp present with old | ⟨-, new⟩
    · exact .inl ⟨load, old, place⟩
    · cases new
      cases place
  | update asked root =>
    cases went
    rcases (getElem?_concat_eq_some _ _ _ _).mp present with old | ⟨-, new⟩
    · exact .inl ⟨load, old, place⟩
    · cases new
  | proceed moved =>
    obtain ⟨load', outcome, found, turn, rfl⟩ | ⟨update, outcome, found, turn, rfl⟩ :=
      step?_proceed_turn went
    · rcases (getElem?_set_eq_some found _ _ _).mp present with ⟨rfl, own⟩ | ⟨-, old⟩
      · cases own
        rcases turn.place?_kept_or_current place with kept | current
        · exact .inl ⟨load', found, kept⟩
        · exact .inr current
      · exact .inl ⟨load, old, place⟩
    · rcases (getElem?_set_eq_some found _ _ _).mp present with ⟨-, absurd⟩ | ⟨-, old⟩
      · cases absurd
      · exact .inl ⟨load, old, place⟩
  | wait moment =>
    cases went
    exact .inl ⟨load, present, place⟩
  | change source =>
    cases went
    exact .inl ⟨load, present, place⟩

/-- A load that attends to a slot which its key loses has waited for it. -/
theorem Attends.waits_of_drops {failing : Nat} (orderly : state.Orderly)
    (drops : state.Drops after failing key slot) (before : state.Attends index key slot)
    (behind : after.Attends index key slot) : state.Waits index key slot := by
  rcases before.waits_or_runs with waits | runs
  · exact waits
  · -- The load that ran for the slot is the one that has failed, so it has returned.
    obtain rfl : index = failing := runs.unique orderly drops.runs
    obtain ⟨load, present, place⟩ := behind
    obtain ⟨error, returned⟩ := drops.failed
    rw [returned] at present
    cases present
    cases place

variable {config : Config} {source : Source} {engines : Nat}

/-- A load that waits or runs for a slot which its key does not have has inherited it. -/
theorem Attends.current_or_inherits
    (ran : (initial config source engines).run? events = some state)
    (attends : state.Attends index key slot) :
    state.world.registry.slot? key = some slot ∨
      Inherits (initial config source engines) events index key slot := by
  -- By induction from the end of the run: either the load has come to the slot of its key just now,
  -- or it was there before, and then only a failure can have taken the slot from the key.
  induction events using List.reverseRecOn generalizing state with
  | nil =>
    cases ran
    obtain ⟨load, present, -⟩ := attends
    cases present
  | append_singleton events event ih =>
    obtain ⟨last, earlier, went⟩ := run?_concat_eq_some_iff.mp ran
    rcases attends.before_or_current went with before | current
    · rcases ih earlier before with current | inherits
      · rcases step?_slot?_kept_or_drops went current with kept | ⟨failing, rfl, drops⟩
        · exact .inl kept
        · have orderly : last.Orderly := (orderly_initial config source engines).run earlier
          have waits := before.waits_of_drops orderly drops attends
          exact .inr ⟨events, failing, [], last, state, rfl, earlier, drops, waits⟩
      · exact .inr (inherits.concat event)
    · exact .inl current

/-- However calls are interleaved and whatever fetches bring: two loads of one key that run at the
same moment are one and the same, or they run for different slots. Then each of them runs for the
slot that the key has, which is true of one at most, or has inherited its slot from a load that
failed while it waited. -/
theorem same_or_inherits_of_runs
    (ran : (initial config source engines).run? events = some state)
    (first : state.Runs index key slot) (second : state.Runs other key slot') :
    index = other ∧ slot = slot' ∨
      index ≠ other ∧ slot ≠ slot' ∧
        (state.world.registry.slot? key = some slot ∨
          Inherits (initial config source engines) events index key slot) ∧
        (state.world.registry.slot? key = some slot' ∨
          Inherits (initial config source engines) events other key slot') := by
  have orderly : state.Orderly := (orderly_initial config source engines).run ran
  by_cases same : slot = slot'
  · subst same
    exact .inl ⟨first.unique orderly second, rfl⟩
  · have different : index ≠ other := by
      rintro rfl
      exact same (first.slot_eq second)
    refine .inr ⟨different, same, ?_, ?_⟩
    · exact first.attends.current_or_inherits ran
    · exact second.attends.current_or_inherits ran

/-- Three loads of one key, each of which takes 50 milliseconds. The second waits while the first
runs and fails; the third comes 10 milliseconds later. The second and the third then run at the same
time, for slots of their own, and both have to go on waiting. -/
theorem two_loads_run_after_failure : ∃ state : Interleaving,
    (initial .standard
          (Source.none.withDocument "mem:a" ⟨50, .error (.transport "mem:a" "offline")⟩) 1).run?
        [.load "mem:a", .load "mem:a", .proceed 0, .proceed 1, .wait 50, .proceed 0, .proceed 1,
          .wait 60, .load "mem:a", .proceed 2] = some state ∧
      state.Runs 1 "mem:a" 0 ∧ state.Runs 2 "mem:a" 1 ∧
      (state.step? (.proceed 1)).isNone = true ∧ (state.step? (.proceed 2)).isNone = true :=
  ⟨_, rfl, ⟨_, rfl⟩, ⟨_, rfl⟩, rfl, rfl⟩

/-- In a run like this the third load has the slot of the key, so the second one has inherited its
own. -/
theorem inherits_of_runs_after_failure : ∃ state : Interleaving,
    (initial .standard .none 1).run?
        [.load "mem:a", .load "mem:a", .proceed 0, .proceed 1, .proceed 0, .proceed 1,
          .load "mem:a", .proceed 2] = some state ∧
      state.Runs 1 "mem:a" 0 ∧ state.Runs 2 "mem:a" 1 ∧
      Inherits (initial .standard .none 1)
        [.load "mem:a", .load "mem:a", .proceed 0, .proceed 1, .proceed 0, .proceed 1,
          .load "mem:a", .proceed 2] 1 "mem:a" 0 := by
  obtain ⟨state, ran, current, first, second⟩ : ∃ state : Interleaving,
      (initial .standard .none 1).run?
          [.load "mem:a", .load "mem:a", .proceed 0, .proceed 1, .proceed 0, .proceed 1,
            .load "mem:a", .proceed 2] = some state ∧
        state.world.registry.slot? "mem:a" = some 1 ∧
        state.Runs 1 "mem:a" 0 ∧ state.Runs 2 "mem:a" 1 := ⟨_, rfl, rfl, ⟨_, rfl⟩, _, rfl⟩
  refine ⟨state, ran, first, second, ?_⟩
  rcases same_or_inherits_of_runs ran first second with ⟨absurd, -⟩ | ⟨-, -, lost | inherits, -⟩
  · cases absurd
  · rw [current] at lost
    cases lost
  · exact inherits

end Interleaving

end DiagramAssist
