import DiagramAssist.Proofs.Registry.Documents

/-! # Every run is orderly

However calls are interleaved, every slot has an owner such that the calls are attended (`Attended`)
and the documents are where they belong (`Documented`). Each kind of step keeps this, hence so does
every run (`Orderly.run`).
-/

namespace DiagramAssist

namespace Load

/-- Going on from a standing touches neither the registry nor the store. -/
theorem proceed_spec (world : World) (key : String) (number : Nat) (slot : SlotId)
    (standing : Cell.Standing ContextId) :
    (proceed world key number slot standing).1.registry = world.registry ∧
      (proceed world key number slot standing).1.store = world.store ∧
      world.nextCall ≤ (proceed world key number slot standing).1.nextCall ∧
      (Call.load (proceed world key number slot standing).2).phase =
        .ofStanding key number slot standing := by
  cases standing with
  | found context => exact ⟨rfl, rfl, Nat.le_refl _, rfl⟩
  | queued => exact ⟨rfl, rfl, Nat.le_refl _, rfl⟩
  | holding => exact ⟨rfl, rfl, Nat.le_succ _, rfl⟩

end Load

namespace Update

variable (world : World) {key : String} {slot : SlotId} (fresh stored : ContextId)

/-- The key has lost the slot: the update starts again. -/
theorem settle_of_lost (lost : world.registry.slot? key ≠ some slot) :
    settle world key fresh slot stored = (world, .arriving key fresh) := by
  have lost : world.registry.holds key slot = false :=
    Bool.eq_false_iff.mpr fun holds => lost (Registry.holds_iff.mp holds)
  simp only [settle, lost, Bool.not_false, ↓reduceIte]

/-- The key still has the slot: its document takes the tree, unless it is the update's own. -/
theorem settle_of_current (current : world.registry.slot? key = some slot) :
    settle world key fresh slot stored =
      ({ world with
          store := if stored = fresh then world.store
            else world.store.update stored fun context =>
              { context with root := (world.store.context fresh).root } },
        .returned stored) := by
  simp only [settle, Registry.holds_iff.mpr current, Bool.not_true, Bool.false_eq_true, ↓reduceIte]
  split <;> rfl

theorem registry_settle : (settle world key fresh slot stored).1.registry = world.registry := by
  by_cases current : world.registry.slot? key = some slot
  · rw [settle_of_current world fresh stored current]
  · rw [settle_of_lost world fresh stored current]

end Update

namespace Interleaving

/-- The slots have owners for which calls and documents are in order. -/
def Orderly (state : Interleaving) : Prop :=
  ∃ owner : SlotId → String,
    Attended owner state.world.registry state.world.nextCall (state.calls.map Call.phase) ∧
      Documented owner state.world.registry state.world.store state.calls

variable {state : Interleaving} {index : Nat}

theorem orderly_initial (config : Config) (source : Source) (engines : Nat) :
    (initial config source engines).Orderly := by
  refine ⟨fun _ => "", ?_, ?_⟩
  · constructor <;> intros <;> contradiction
  · constructor <;> intros <;> contradiction

namespace Orderly

/-- A load goes on. -/
theorem load (orderly : state.Orderly) {load : Load}
    (present : state.calls[index]? = some (.load load)) {outcome : World × Load}
    (turn : Load.Turn state.world load outcome) :
    Orderly ⟨outcome.1, state.calls.set index (.load outcome.2)⟩ := by
  obtain ⟨owner, attended, documented⟩ := orderly
  have there := Call.getElem?_map_phase present
  have unfinished (context : ContextId) : Call.load load ≠ .update (.returned context) := nofun
  -- Whatever the load does next, it neither offers a document nor returns from an update.
  have silent (offer : String × ContextId) : (Call.load outcome.2).offer? ≠ some offer := nofun
  have running (context : ContextId) : Call.load outcome.2 ≠ .update (.returned context) := nofun
  have kept {registry : Registry} {store : Store} {owner' : SlotId → String}
      (same : state.world.registry.SameDocuments registry)
      (keys : state.world.store.KeepsKeys store)
      (owners : ∀ slot < state.world.registry.slots.length, owner' slot = owner slot) :
      Documented owner' registry store (state.calls.set index (.load outcome.2)) :=
    documented.keep present unfinished same keys owners
      (fun offer offered => (silent offer offered).elim)
      fun context returned => (running context returned).elim
  cases turn with
  | @arrive key registry slot standing arrival =>
    obtain ⟨owner', owners, attended⟩ := attended.arrive there arrival
    obtain ⟨sameRegistry, sameStore, later, phase⟩ := Load.proceed_spec
      { state.world with registry, nextCall := state.world.nextCall + 1 } key state.world.nextCall
      slot standing
    refine ⟨owner', ?_, ?_⟩
    · rw [List.map_set, phase, sameRegistry]
      exact attended.mono later
    · rw [sameRegistry, sameStore]
      exact kept arrival.sameDocuments (.refl _) owners
  | receive filled =>
    refine ⟨owner, ?_, ?_⟩
    · rw [List.map_set]
      exact attended.leave there rfl
    · exact kept (.refl _) (.refl _) fun _ _ => rfl
  | takeOver empty held =>
    refine ⟨owner, ?_, ?_⟩
    · rw [List.map_set]
      exact (attended.takeOver there empty held).mono (Nat.le_succ _)
    · exact kept (.refl _) (.refl _) fun _ _ => rfl
  | @deliver key slot pending context ended good =>
    obtain ⟨known, belongs⟩ := attended.placed there rfl
    obtain ⟨empty, -⟩ := attended.worked there
    refine ⟨owner, ?_, ?_⟩
    · rw [List.map_set]
      refine attended.succeed there ?_ _
      rfl
    · -- The document is new, so it is in no slot yet and nobody offers it.
      have absent (slot' : SlotId) :
          (state.world.registry.cell slot').value ≠ some state.world.store.length := fun filled =>
        Nat.lt_irrefl _ (documented.stored filled).1
      apply documented.fill present unfinished known empty (state.world.store.keepsKeys_add context)
      · refine ⟨by simp [Store.add], ?_⟩
        rw [Store.context_add_self, Load.key_of_loaded good, belongs]
      · exact fun key' slot' shown => absent slot' shown.2
      · intro other call key' found offered
        exact (Nat.lt_irrefl _ (documented.offered found offered).1).elim
      · exact fun offer offered => (silent offer offered).elim
      · exact fun context returned => (running context returned).elim
      · exact fun _ filled => (absent _ filled).elim
  | @fail key slot pending error ended bad =>
    refine ⟨owner, ?_, ?_⟩
    · rw [List.map_set]
      exact attended.fail there rfl
    · exact kept (Registry.fail_sameDocuments _ _ _) (.refl _) fun _ _ => rfl

section Settling

variable {owner : SlotId → String} {world : World} {calls : List Call} {old : Call} {key : String}
  {fresh : ContextId} {slot : SlotId}

private theorem unfinished_of_offer (offer : old.offer? = some (key, fresh)) (context : ContextId) :
    old ≠ .update (.returned context) := by
  rintro rfl
  cases offer

/-- An update finds a document in the slot it came to. -/
private theorem settle_found
    (attended : Attended owner world.registry world.nextCall (calls.map Call.phase))
    (documented : Documented owner world.registry world.store calls)
    (present : calls[index]? = some old) (offer : old.offer? = some (key, fresh))
    (belongs : owner slot = key) {context : ContextId}
    (filled : (world.registry.cell slot).value = some context) :
    Orderly ⟨(Update.settle world key fresh slot context).1,
      calls.set index (.update (Update.settle world key fresh slot context).2)⟩ := by
  have there := Call.getElem?_map_phase present
  have unfinished := unfinished_of_offer offer
  refine ⟨owner, ?_⟩
  by_cases current : world.registry.slot? key = some slot
  · rw [Update.settle_of_current world fresh context current, List.map_set]
    refine ⟨attended.leave there rfl, ?_⟩
    apply documented.keep present unfinished (.refl _) ?_ (fun _ _ => rfl)
    · exact nofun
    · intro returned same
      cases same
      exact ⟨slot, key, ⟨current, filled⟩, belongs⟩
    · split
      · exact .refl _
      · exact world.store.keepsKeys_update context _
  · rw [Update.settle_of_lost world fresh context current, List.map_set]
    refine ⟨attended.leave there rfl, ?_⟩
    apply documented.keep present unfinished (.refl _) (.refl _) (fun _ _ => rfl)
    · intro again same
      exact offer.trans same
    · exact nofun

/-- An update fills the slot it holds. -/
private theorem settle_filled
    (attended : Attended owner world.registry world.nextCall
      ((calls.map Call.phase).set index (.working key slot)))
    (documented : Documented owner world.registry world.store calls)
    (present : calls[index]? = some old) (offer : old.offer? = some (key, fresh)) :
    Orderly ⟨(Update.settle { world with registry := world.registry.succeed slot fresh } key fresh
        slot fresh).1,
      calls.set index (.update (Update.settle
        { world with registry := world.registry.succeed slot fresh } key fresh slot fresh).2)⟩ := by
  have there : ((calls.map Call.phase).set index (.working key slot))[index]? =
      some (.working key slot) := by
    have known := (List.getElem?_eq_some_iff.mp present).1
    exact List.getElem?_set_self (by rwa [List.length_map])
  obtain ⟨known, belongs⟩ := attended.placed there rfl
  obtain ⟨empty, -⟩ := attended.worked there
  obtain ⟨stored, storedKey, unseen⟩ := documented.offered present offer
  have mine {other : Nat} {call : Call} {key' : String} (found : calls[other]? = some call)
      (offered : call.offer? = some (key', fresh)) : other = index :=
    documented.offeredOnce found offered present offer
  have unfinished := unfinished_of_offer offer
  rw [← belongs] at storedKey
  have leave {new : Phase} (away : new.IsAway) := attended.succeed there away fresh
  simp only [List.set_set] at leave
  refine ⟨owner, ?_⟩
  by_cases current : world.registry.slot? key = some slot
  · have settled := Update.settle_of_current
      { world with registry := world.registry.succeed slot fresh } fresh fresh current
    rw [settled, List.map_set, if_pos rfl]
    refine ⟨leave rfl, ?_⟩
    apply documented.fill present unfinished known empty (.refl _) ⟨stored, storedKey⟩ unseen mine
    · exact nofun
    · intro returned same
      cases same
      rw [belongs]
      exact ⟨rfl, current⟩
    · exact fun _ _ => rfl
  · have settled := Update.settle_of_lost
      { world with registry := world.registry.succeed slot fresh } fresh fresh current
    rw [settled, List.map_set]
    refine ⟨leave rfl, ?_⟩
    -- The slot is its owner's or nobody's, and its owner has lost it.
    have nobody (key' : String) : world.registry.slot? key' ≠ some slot := by
      intro other
      obtain rfl : key = key' := belongs.symm.trans (attended.current other).2
      exact current other
    apply documented.fill present unfinished known empty (.refl _) ⟨stored, storedKey⟩ unseen mine
    · intro again same
      exact ⟨offer.trans same, nobody⟩
    · exact nofun
    · exact fun other _ => (nobody _ other).elim

end Settling

/-- An update goes on. -/
theorem update (orderly : state.Orderly) {update : Update}
    (present : state.calls[index]? = some (.update update)) {outcome : World × Update}
    (turn : Update.Turn state.world update outcome) :
    Orderly ⟨outcome.1, state.calls.set index (.update outcome.2)⟩ := by
  obtain ⟨owner, attended, documented⟩ := orderly
  have there := Call.getElem?_map_phase present
  cases turn with
  | @arrive key fresh registry slot standing arrival =>
    have unfinished (context : ContextId) :
        Call.update (.arriving key fresh) ≠ .update (.returned context) := nofun
    obtain ⟨owner', owners, attended'⟩ := attended.arrive there arrival
    have kept {new : Call} (offers : new.offer? = some (key, fresh)) :
        Documented owner' registry state.world.store (state.calls.set index new) := by
      apply documented.keep present unfinished arrival.sameDocuments (.refl _) owners
      · intro offer same
        exact offers.symm.trans same
      · rintro context rfl
        cases offers
    cases standing with
    | found context =>
      cases arrival with
      | found shown =>
        let later := { state.world with nextCall := state.world.nextCall + 1 }
        have attended : Attended owner later.registry later.nextCall (state.calls.map Call.phase) :=
          attended.mono (Nat.le_succ _)
        exact settle_found attended documented present rfl (attended.current shown.1).2 shown.2
    | queued =>
      refine ⟨owner', ?_, kept rfl⟩
      rw [List.map_set]
      exact attended'
    | holding =>
      have same : Documented owner' registry state.world.store
          (state.calls.set index (.update (.arriving key fresh))) := kept rfl
      obtain ⟨known, entry⟩ := List.getElem?_eq_some_iff.mp present
      rw [← entry, List.set_getElem_self] at same
      exact settle_filled attended' same present rfl
  | receive filled =>
    exact settle_found attended documented present rfl (attended.placed there rfl).2 filled
  | takeOver empty held =>
    exact settle_filled (attended.takeOver there empty held) documented present rfl

/-- Whatever happens next, the order is kept. -/
theorem step (orderly : state.Orderly) {event : Event} {after : Interleaving}
    (went : state.step? event = some after) : after.Orderly := by
  cases event with
  | load key =>
    obtain ⟨owner, attended, documented⟩ := orderly
    cases went
    refine ⟨owner, ?_, ?_⟩
    · rw [List.map_append]
      exact attended.append key
    · exact documented.join (.refl _) nofun nofun
  | update key root =>
    obtain ⟨owner, attended, documented⟩ := orderly
    cases went
    refine ⟨owner, ?_, ?_⟩
    · rw [List.map_append]
      exact attended.append key
    · apply documented.join (state.world.store.keepsKeys_add _)
      · exact nofun
      · intro key' fresh offered
        cases offered
        refine ⟨Nat.le_refl _, by simp [Store.add], ?_⟩
        rw [Store.context_add_self]
        rfl
  | proceed index =>
    obtain ⟨load, outcome, present, turn, rfl⟩ | ⟨update, outcome, present, turn, rfl⟩ :=
      step?_proceed_turn went
    · exact orderly.load present turn
    · exact orderly.update present turn
  | wait moment =>
    cases went
    exact orderly
  | change source =>
    cases went
    exact orderly

theorem run (orderly : state.Orderly) {events : List Event} {after : Interleaving}
    (ran : state.run? events = some after) : after.Orderly :=
  run?_invariant (fun orderly went => orderly.step went) orderly ran

end Orderly

end Interleaving

end DiagramAssist
