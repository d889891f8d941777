import DiagramAssist.Proofs.Registry.Orderly

/-! # Updates are not lost

An update makes a document with its tree before it asks for its key. Until it returns, that document
shows nowhere, so nobody changes it (`step?_context_of_unseen`). When the update returns, a document
with the same tree shows under its key: the update's own one, or one that a load has stored and that
takes the tree over. This holds whatever else is under way, in particular if a load of the key was
fetching when the update arrived, and if that load then failed and the key lost the slot at which
the update waited.
-/

namespace DiagramAssist

namespace Load

/-- A turn of a load changes no document that there is. -/
theorem Turn.context_of_known {world : World} {load : Load} {outcome : World × Load}
    (turn : Turn world load outcome) {id : ContextId} (known : id < world.store.length) :
    outcome.1.store.context id = world.store.context id := by
  cases turn with
  | @arrive key registry slot standing arrival =>
    obtain ⟨-, sameStore, -⟩ := proceed_spec
      { world with registry, nextCall := world.nextCall + 1 } key world.nextCall slot standing
    rw [sameStore]
  | receive filled => rfl
  | takeOver empty held => rfl
  | deliver ended good => exact Store.context_add_of_lt known _
  | fail ended bad => rfl

end Load

namespace Update

/-- An update still has to store the tree under the key. -/
def Offers (update : Update) (world : World) (key : String) (root : Root) : Prop :=
  ∃ fresh, (Call.update update).offer? = some (key, fresh) ∧
    (world.store.context fresh).root = root

/-- An update has returned, and what it has returned shows under the key and has the tree. -/
def Stores (update : Update) (world : World) (key : String) (root : Root) : Prop :=
  ∃ context, update = .returned context ∧ world.registry.get? key = some context ∧
    (world.store.context context).root = root

variable {world : World} {key : String} {fresh stored : ContextId} {slot : SlotId} {root : Root}

/-- Settling changes at most the document in the slot, and that only if the key has the slot. -/
theorem context_settle {id : ContextId}
    (kept : world.registry.slot? key = some slot → stored ≠ fresh → id ≠ stored) :
    (settle world key fresh slot stored).1.store.context id = world.store.context id := by
  by_cases current : world.registry.slot? key = some slot
  · rw [settle_of_current world fresh stored current]
    split
    · rfl
    · next different => exact Store.context_update_of_ne (kept current different) _ _
  · rw [settle_of_lost world fresh stored current]

/-- An update that settles has stored its tree, or it starts again. -/
theorem settle_offers_or_stores (filled : (world.registry.cell slot).value = some stored)
    (known : stored < world.store.length) (tree : (world.store.context fresh).root = root) :
    (settle world key fresh slot stored).2.Offers (settle world key fresh slot stored).1 key root ∨
      (settle world key fresh slot stored).2.Stores (settle world key fresh slot stored).1 key
        root := by
  by_cases current : world.registry.slot? key = some slot
  · right
    rw [settle_of_current world fresh stored current]
    refine ⟨stored, rfl, Registry.get?_eq_some_iff.mpr ⟨slot, current, filled⟩, ?_⟩
    split
    · next own => rwa [own]
    · rwa [Store.context_update_self known]
  · left
    rw [settle_of_lost world fresh stored current]
    exact ⟨fresh, rfl, tree⟩

/-- An update that fills a slot with its own document has stored its tree, or it starts again. -/
theorem fill_offers_or_stores (made : slot < world.registry.slots.length)
    (known : fresh < world.store.length) (tree : (world.store.context fresh).root = root) :
    let outcome := settle { world with registry := world.registry.succeed slot fresh } key fresh
      slot fresh
    outcome.2.Offers outcome.1 key root ∨ outcome.2.Stores outcome.1 key root := by
  have filled : ((world.registry.succeed slot fresh).cell slot).value = some fresh := by
    rw [Registry.cell_succeed made, if_pos rfl]
  exact settle_offers_or_stores filled known tree

/-- A turn of an update changes no document that shows nowhere. -/
theorem Turn.context_of_unseen {update : Update} {outcome : World × Update}
    (turn : Turn world update outcome) {id : ContextId}
    (unseen : ∀ key slot, ¬world.registry.Shows key slot id) :
    outcome.1.store.context id = world.store.context id := by
  cases turn with
  | @arrive key fresh registry slot standing arrival =>
    cases arrival with
    | found shown =>
      apply context_settle
      rintro - - rfl
      exact unseen key slot shown
    | queued current empty held => rfl
    | holding current empty free => exact context_settle fun _ other => (other rfl).elim
    | claimed missing => exact context_settle fun _ other => (other rfl).elim
  | @receive key fresh number slot context filled =>
    apply context_settle
    rintro current - rfl
    exact unseen key slot ⟨current, filled⟩
  | takeOver empty held => exact context_settle fun _ other => (other rfl).elim

/-- A turn of an update that has a tree to store: it has stored it, or it still has to. -/
theorem Turn.offers_or_stores {owner : SlotId → String} {calls : List Call} {index : Nat}
    {update : Update} {outcome : World × Update}
    (attended : Attended owner world.registry world.nextCall (calls.map Call.phase))
    (documented : Documented owner world.registry world.store calls)
    (present : calls[index]? = some (.update update)) (offers : update.Offers world key root)
    (turn : Turn world update outcome) :
    outcome.2.Offers outcome.1 key root ∨ outcome.2.Stores outcome.1 key root := by
  have there := Call.getElem?_map_phase present
  obtain ⟨fresh, offered, tree⟩ := offers
  have known := (documented.offered present offered).1
  cases turn with
  | @arrive _ _ registry slot standing arrival =>
    cases offered
    cases arrival with
    | found shown => exact settle_offers_or_stores shown.2 (documented.stored shown.2).1 tree
    | queued current empty held => exact .inl ⟨fresh, rfl, tree⟩
    | holding current empty free =>
      have made := (attended.current current).1
      rw [← Registry.length_setCell world.registry slot
        { world.registry.cell slot with holder := some world.nextCall }] at made
      exact fill_offers_or_stores made known tree
    | claimed missing =>
      refine fill_offers_or_stores ?_ known tree
      simp
  | receive filled =>
    cases offered
    exact settle_offers_or_stores filled (documented.stored filled).1 tree
  | takeOver empty held =>
    cases offered
    exact fill_offers_or_stores (attended.placed there rfl).1 known tree

end Update

namespace Interleaving

variable {state after : Interleaving} {event : Event} {events : List Event} {index : Nat}
  {key : String} {root : Root}

/-- Whatever happens, a document that shows nowhere stays as it is. -/
theorem step?_context_of_unseen (went : state.step? event = some after) {id : ContextId}
    (known : id < state.world.store.length)
    (unseen : ∀ key slot, ¬state.world.registry.Shows key slot id) :
    after.world.store.context id = state.world.store.context id := by
  cases event with
  | load key =>
    cases went
    rfl
  | update key root =>
    cases went
    exact Store.context_add_of_lt known _
  | proceed index =>
    obtain ⟨load, outcome, -, turn, rfl⟩ | ⟨update, outcome, -, turn, rfl⟩ :=
      step?_proceed_turn went
    · exact turn.context_of_known known
    · exact turn.context_of_unseen unseen
  | wait moment =>
    cases went
    rfl
  | change source =>
    cases went
    rfl

/-- The call is an update with the tree for the key, which it still has to store unless it has
returned. -/
def Pursues (state : Interleaving) (index : Nat) (key : String) (root : Root) : Prop :=
  ∃ update, state.calls[index]? = some (.update update) ∧
    (update.Offers state.world key root ∨ ∃ context, update = .returned context)

/-- An update that goes on and has a tree to store has stored it, or still has to. -/
theorem offers_or_stores_of_proceed {update : Update} (orderly : state.Orderly)
    (present : state.calls[index]? = some (.update update))
    (offers : update.Offers state.world key root)
    (went : state.step? (.proceed index) = some after) :
    ∃ update', after.calls[index]? = some (.update update') ∧
      (update'.Offers after.world key root ∨ update'.Stores after.world key root) := by
  obtain ⟨owner, attended, documented⟩ := orderly
  have listed := (List.getElem?_eq_some_iff.mp present).1
  obtain ⟨load, outcome, found, turn, rfl⟩ | ⟨update', outcome, found, turn, rfl⟩ :=
    step?_proceed_turn went
  · rw [present] at found
    cases found
  · rw [present] at found
    cases found
    refine ⟨outcome.2, List.getElem?_set_self listed, ?_⟩
    exact turn.offers_or_stores attended documented present offers

/-- Whatever happens, an update keeps the tree it has to store until it returns. -/
theorem Pursues.step (orderly : state.Orderly) (pursues : state.Pursues index key root)
    (went : state.step? event = some after) : after.Pursues index key root := by
  obtain ⟨update, present, offers | returned⟩ := pursues
  · by_cases own : event = .proceed index
    · subst own
      obtain ⟨update', present', offers' | stores⟩ :=
        offers_or_stores_of_proceed orderly present offers went
      · exact ⟨update', present', .inl offers'⟩
      · obtain ⟨context, returned, -⟩ := stores
        exact ⟨update', present', .inr ⟨context, returned⟩⟩
    · -- Another call goes on. What the update offers shows nowhere, so nobody else changes it.
      refine ⟨update, step?_calls_of_ne went own present, .inl ?_⟩
      obtain ⟨owner, attended, documented⟩ := orderly
      obtain ⟨fresh, offered, tree⟩ := offers
      obtain ⟨known, -, unseen⟩ := documented.offered present offered
      refine ⟨fresh, offered, ?_⟩
      rwa [step?_context_of_unseen went known unseen]
  · obtain ⟨context, rfl⟩ := returned
    refine ⟨.returned context, step?_calls_of_ne went ?_ present, .inr ⟨context, rfl⟩⟩
    rintro rfl
    rw [step?_proceed_of_returned present] at went
    cases went

theorem Pursues.run (orderly : state.Orderly) (pursues : state.Pursues index key root)
    (ran : state.run? events = some after) : after.Orderly ∧ after.Pursues index key root := by
  let Invariant (state : Interleaving) : Prop := state.Orderly ∧ state.Pursues index key root
  have kept {state after : Interleaving} {event : Event} (both : Invariant state)
      (went : state.step? event = some after) : Invariant after :=
    ⟨both.1.step went, both.2.step both.1 went⟩
  exact run?_invariant kept ⟨orderly, pursues⟩ ran

/-- However calls are interleaved and whatever fetches bring: when an update returns a document,
that document is stored under the update's key and has the update's tree. -/
theorem stored_of_update_returned {config : Config} {source : Source} {engines : Nat}
    {before later : List Event} {start : Interleaving} {context : ContextId}
    (arrived : (initial config source engines).run? before = some start)
    (ran : start.run? (.update key root :: later) = some state)
    (went : state.step? (.proceed start.calls.length) = some after)
    (returned : after.calls[start.calls.length]? = some (.update (.returned context))) :
    after.world.registry.get? key = some context ∧
      (after.world.store.context context).root = root := by
  obtain ⟨first, begun, ran⟩ := run?_cons_eq_some_iff.mp ran
  have orderly : first.Orderly := ((orderly_initial config source engines).run arrived).step begun
  have pursues : first.Pursues start.calls.length key root := by
    cases begun
    refine ⟨_, (getElem?_concat_eq_some _ _ _ _).mpr (.inr ⟨rfl, rfl⟩), .inl ?_⟩
    refine ⟨start.world.store.length, rfl, ?_⟩
    exact congrArg Context.root (start.world.store.context_add_self _)
  obtain ⟨orderly, update, present, offers | gone⟩ := Pursues.run orderly pursues ran
  · obtain ⟨update', present', offers' | stores⟩ :=
      offers_or_stores_of_proceed orderly present offers went
    · rw [returned] at present'
      cases present'
      obtain ⟨fresh, offered, -⟩ := offers'
      cases offered
    · rw [returned] at present'
      cases present'
      obtain ⟨stored, same, shown⟩ := stores
      cases same
      exact shown
  · obtain ⟨context, rfl⟩ := gone
    rw [step?_proceed_of_returned present] at went
    cases went

/-- An update waits for a load that fails. It puts its document into a slot that the key has lost,
notices, and stores it in a new one. -/
theorem stored_of_update_returned_after_failure : ∃ start state after : Interleaving,
    (initial .standard .none 1).run? [.load "mem:a", .proceed 0] = some start ∧
      start.run? [.update "mem:a" ⟨[.text "B" (.between 0 1)], .between 0 1⟩, .proceed 1,
        .proceed 0, .proceed 1] = some state ∧
      state.step? (.proceed 1) = some after ∧
      after.calls[1]? = some (.update (.returned 0)) ∧
      after.world.registry.slot? "mem:a" = some 1 ∧
      after.world.registry.get? "mem:a" = some 0 ∧
      (after.world.store.context 0).root = ⟨[.text "B" (.between 0 1)], .between 0 1⟩ := by
  obtain ⟨start, arrived, length, state, ran, after, went, returned, moved⟩ :
      ∃ start : Interleaving,
        (initial .standard .none 1).run? [.load "mem:a", .proceed 0] = some start ∧
        start.calls.length = 1 ∧ ∃ state : Interleaving,
          start.run? [.update "mem:a" ⟨[.text "B" (.between 0 1)], .between 0 1⟩, .proceed 1,
            .proceed 0, .proceed 1] = some state ∧ ∃ after : Interleaving,
              state.step? (.proceed 1) = some after ∧
                after.calls[1]? = some (.update (.returned 0)) ∧
                after.world.registry.slot? "mem:a" = some 1 :=
    ⟨_, rfl, rfl, _, rfl, _, rfl, rfl, rfl⟩
  refine ⟨start, state, after, arrived, ran, went, returned, moved, ?_⟩
  rw [← length] at went returned
  exact stored_of_update_returned arrived ran went returned

end Interleaving

end DiagramAssist
