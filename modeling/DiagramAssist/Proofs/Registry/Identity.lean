import DiagramAssist.Proofs.Registry.Orderly

/-! # Whether a loaded document is the stored one

A load that returns a document should return the one stored under its key. It does unless the key
has lost the slot at which the load waited: an earlier load of the slot has failed then, and those
who still wait at it go on with a slot that no look-up finds. An update in the same position notices
and starts again; a load does not. Even then the document may be stored, by an update that has put
it into the lost slot first and under the key afterwards.
-/

namespace DiagramAssist

namespace Load

/-- The key of a load that has not returned. -/
def key? : Load → Option String
  | .arriving key => some key
  | .queued key _ _ => some key
  | .fetching key _ _ => some key
  | .returned _ => none

/-- The slot at which a load waits or works. -/
def slot? : Load → Option SlotId
  | .queued _ _ slot => some slot
  | .fetching _ slot _ => some slot
  | _ => none

end Load

namespace Interleaving

variable {owner : SlotId → String} {world : World} {calls : List Call} {key : String}
  {slot : SlotId} {context : ContextId}

/-- A document in a slot is the one stored under the owner of the slot just if the owner still has
the slot, or if an update has returned it. -/
theorem get?_owner_iff (documented : Documented owner world.registry world.store calls)
    (belongs : owner slot = key) (filled : (world.registry.cell slot).value = some context) :
    world.registry.get? key = some context ↔
      world.registry.slot? key = some slot ∨ Call.update (.returned context) ∈ calls := by
  rw [Registry.get?_eq_some_iff]
  constructor
  · rintro ⟨current, shown⟩
    rcases documented.twice shown filled with same | returned
    · rw [same]
      exact .inl shown.1
    · exact .inr returned
  · rintro (current | returned)
    · exact ⟨slot, current, filled⟩
    · -- The document has one key only, so the key under which it is stored is the slot's owner.
      obtain ⟨-, stored, storedKey, shown⟩ := documented.settled returned
      rw [(documented.stored filled).2, Option.some.injEq, belongs] at storedKey
      rw [storedKey]
      exact Registry.get?_eq_some_iff.mp shown

/-- A new document put into a slot is stored under a key just if the key has the slot. -/
theorem get?_succeed_iff (documented : Documented owner world.registry world.store calls)
    (known : slot < world.registry.slots.length) :
    (world.registry.succeed slot world.store.length).get? key = some world.store.length ↔
      world.registry.slot? key = some slot := by
  rw [Registry.get?_eq_some_iff]
  constructor
  · rintro ⟨other, shown⟩
    rw [Registry.shows_succeed known] at shown
    split at shown
    · exact shown.1
    · exact (Nat.lt_irrefl _ (documented.stored shown.2).1).elim
  · intro current
    refine ⟨slot, ?_⟩
    rw [Registry.shows_succeed known, if_pos rfl]
    exact ⟨current, rfl⟩

/-- However calls are interleaved and whatever fetches bring: when a load returns a document, that
document is stored under its key just if the key still has the slot at which the load waited or
worked, or if an update has already returned the same document. -/
theorem stored_of_load_returned_iff {config : Config} {source : Source} {engines : Nat}
    {events : List Event} {state after : Interleaving} {index : Nat} {load : Load}
    (ran : (initial config source engines).run? events = some state)
    (present : state.calls[index]? = some (.load load)) (asked : load.key? = some key)
    (went : state.step? (.proceed index) = some after)
    (returned : after.calls[index]? = some (.load (.returned (.ok context)))) :
    after.world.registry.get? key = some context ↔
      (∀ slot, load.slot? = some slot → after.world.registry.slot? key = some slot) ∨
        Call.update (.returned context) ∈ state.calls := by
  obtain ⟨owner, attended, documented⟩ := (orderly_initial config source engines).run ran
  have there := Call.getElem?_map_phase present
  obtain ⟨call, found, world, call', moved, rfl⟩ := step?_proceed_eq_some_iff.mp went
  obtain rfl : Call.load load = call := Option.some.inj (present.symm.trans found)
  obtain ⟨⟨world, load'⟩, turned, same⟩ := Option.map_eq_some_iff.mp moved
  cases same
  have result : load' = .returned (.ok context) := by
    have known := (List.getElem?_eq_some_iff.mp present).1
    rw [List.getElem?_set_self known] at returned
    cases returned
    rfl
  subst result
  have turn := Load.step_turn turned
  generalize outcome : (world, Load.returned (.ok context)) = pair at turn
  cases turn with
  | @arrive key registry slot standing arrival =>
    cases asked
    cases arrival with
    | found shown =>
      cases outcome
      simp only [Load.slot?, reduceCtorEq, false_implies, implies_true, true_or, iff_true]
      exact Registry.get?_eq_some_iff.mpr ⟨slot, shown⟩
    | queued current empty held => cases outcome
    | holding current empty free => cases outcome
    | claimed missing => cases outcome
  | receive filled =>
    cases asked
    cases outcome
    obtain ⟨-, belongs⟩ := attended.placed there rfl
    simp only [Load.slot?, Option.some.injEq, forall_eq']
    exact get?_owner_iff documented belongs filled
  | takeOver empty held => cases outcome
  | deliver ended good =>
    cases asked
    cases outcome
    obtain ⟨known, -⟩ := attended.placed there rfl
    have unknown : Call.update (.returned state.world.store.length) ∉ state.calls := fun returned =>
      Nat.lt_irrefl _ (documented.settled returned).1
    simp only [Load.slot?, Option.some.injEq, forall_eq', unknown, or_false]
    exact get?_succeed_iff documented known
  | fail ended bad => cases outcome

/-- The second of two loads waits for the fetch of the first and returns what is then stored. -/
theorem stored_of_load_returned_behind_another : ∃ state after : Interleaving,
    (initial .standard (Source.none.withDocument "mem:a" ⟨0, .ok ⟨"", .utf8⟩⟩) 1).run?
        [.load "mem:a", .load "mem:a", .proceed 0, .proceed 1, .proceed 0] = some state ∧
      state.step? (.proceed 1) = some after ∧
      after.calls[1]? = some (.load (.returned (.ok 0))) ∧
      after.world.registry.get? "mem:a" = some 0 := by
  obtain ⟨state, ran, after, went, present, returned, current⟩ : ∃ state : Interleaving,
      (initial .standard (Source.none.withDocument "mem:a" ⟨0, .ok ⟨"", .utf8⟩⟩) 1).run?
        [.load "mem:a", .load "mem:a", .proceed 0, .proceed 1, .proceed 0] = some state ∧
      ∃ after : Interleaving, state.step? (.proceed 1) = some after ∧
        state.calls[1]? = some (.load (.queued "mem:a" 2 0)) ∧
        after.calls[1]? = some (.load (.returned (.ok 0))) ∧
        after.world.registry.slot? "mem:a" = some 0 := ⟨_, rfl, _, rfl, rfl, rfl, rfl⟩
  refine ⟨state, after, ran, went, returned, ?_⟩
  apply (stored_of_load_returned_iff ran present rfl went returned).mpr
  left
  intro slot waited
  cases waited
  exact current

/-- The first of two loads fails while the second waits. The second then fetches the document for a
slot that the key has lost: it returns the document, and nothing is stored. -/
theorem not_stored_of_load_returned_after_failure : ∃ state : Interleaving,
    (initial .standard .none 1).run?
        [.load "mem:a", .load "mem:a", .proceed 0, .proceed 1, .proceed 0,
          .change (Source.none.withDocument "mem:a" ⟨0, .ok ⟨"", .utf8⟩⟩), .proceed 1,
          .proceed 1] = some state ∧
      state.calls[1]? = some (.load (.returned (.ok 0))) ∧
      state.world.registry.get? "mem:a" = none :=
  ⟨_, rfl, rfl, rfl⟩

end Interleaving

end DiagramAssist
