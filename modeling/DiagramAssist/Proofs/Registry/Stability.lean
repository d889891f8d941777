import DiagramAssist.Proofs.Registry.Updates
import Mathlib.Data.List.Nodup

/-! # What a registry keeps, and what it does not leave behind

A slot is filled only while it is empty, and a key loses its slot only while that slot is empty.
Hence a document that is stored under a key stays there for good; an update may give it another
tree, and that is all. On the other hand a slot that a key has is empty only as long as some load
works for it (`Tidy.staffed`): when that load fails, the key loses the slot in the same step. So a
registry that no call is busy with has no empty slot in its table.
-/

namespace DiagramAssist

namespace Registry

/-- Filling an empty slot hides nothing that showed before. -/
theorem Shows.succeed {registry : Registry} {key : String} {slot shown : SlotId}
    {context : ContextId} (shows : registry.Shows key shown context)
    (empty : (registry.cell slot).value = none) (added : ContextId) :
    (registry.succeed slot added).Shows key shown context := by
  have different : shown ≠ slot := by
    rintro rfl
    rw [shows.2] at empty
    cases empty
  refine ⟨shows.1, ?_⟩
  rw [Registry.succeed, cell_setCell_of_ne _ _ _ different]
  exact shows.2

/-- A slot that a call comes to hold is empty. -/
theorem Arrival.empty_of_holding {registry after : Registry} {key : String} {call : Nat}
    {slot : SlotId} (arrival : Arrival registry key call after slot .holding) :
    (after.cell slot).value = none := by
  rw [arrival.sameDocuments.values]
  cases arrival with
  | holding current empty free => exact empty
  | claimed missing => rw [cell_of_unknown (Nat.le_refl _), Cell.empty]

/-- Asking for a key enters it into the table if it is not there, and nothing else. -/
theorem Arrival.distinct {registry after : Registry} {key : String} {call : Nat} {slot : SlotId}
    {standing : Cell.Standing ContextId} (arrival : Arrival registry key call after slot standing)
    (distinct : (registry.table.map Prod.fst).Nodup) : (after.table.map Prod.fst).Nodup := by
  cases arrival with
  | found shown => exact distinct
  | queued current empty held => exact distinct
  | holding current empty free => exact distinct
  | claimed missing =>
    have absent : key ∉ registry.table.map Prod.fst := by
      rw [slot?, List.lookup_eq_none_iff] at missing
      simpa using fun slot entered => by simpa using missing (key, slot) entered
    rw [List.map_append, List.map_singleton, ← List.concat_eq_append]
    exact distinct.concat absent

theorem distinct_fail {registry : Registry} (distinct : (registry.table.map Prod.fst).Nodup)
    (key : String) (slot : SlotId) : ((registry.fail key slot).table.map Prod.fst).Nodup := by
  classical
  rw [fail_eq]
  dsimp only
  split
  · exact distinct.sublist (List.Sublist.map _ List.filter_sublist)
  · exact distinct

/-- Among distinct keys an entry of the table is the one that is looked up. -/
theorem slot?_of_mem {registry : Registry} (distinct : (registry.table.map Prod.fst).Nodup)
    {key : String} {slot : SlotId} (entered : (key, slot) ∈ registry.table) :
    registry.slot? key = some slot := by
  rw [slot?]
  generalize registry.table = table at distinct entered
  induction table with
  | nil => cases entered
  | cons entry rest ih =>
    rw [List.map_cons, List.nodup_cons] at distinct
    rcases List.mem_cons.mp entered with rfl | entered
    · exact List.lookup_cons_self
    · have different : key ≠ entry.1 := fun same =>
        distinct.1 (List.mem_map.mpr ⟨(key, slot), entered, same⟩)
      rw [List.lookup_cons, beq_eq_false_iff_ne.mpr different]
      exact ih distinct.2 entered

end Registry

/-- The table has one entry for a key, and a slot in it is filled or worked for. -/
structure Tidy (registry : Registry) (phases : List Phase) : Prop where
  distinct : (registry.table.map Prod.fst).Nodup
  staffed : ∀ {key : String} {slot : SlotId}, registry.slot? key = some slot →
    (registry.cell slot).value = none → ∃ index : Nat, phases[index]? = some (.working key slot)

namespace Tidy

variable {owner : SlotId → String} {registry : Registry} {nextCall : Nat} {phases : List Phase}
  {index : Nat} {key : String} {slot : SlotId}

/-- A call that does not work for a slot may go on to whatever it likes. -/
theorem set (tidy : Tidy registry phases) {old : Phase} (present : phases[index]? = some old)
    (idle : ∀ key slot, old ≠ .working key slot) (new : Phase) :
    Tidy registry (phases.set index new) where
  distinct := tidy.distinct
  staffed {key slot} current empty := by
    obtain ⟨worker, working⟩ := tidy.staffed current empty
    refine ⟨worker, (getElem?_set_eq_some present new worker _).mpr (.inr ⟨?_, working⟩)⟩
    rintro rfl
    rw [present] at working
    exact idle key slot (Option.some.inj working)

theorem append (tidy : Tidy registry phases) (new : Phase) : Tidy registry (phases ++ [new]) where
  distinct := tidy.distinct
  staffed current empty := by
    obtain ⟨worker, working⟩ := tidy.staffed current empty
    exact ⟨worker, (getElem?_concat_eq_some phases new worker _).mpr (.inl working)⟩

/-- A call asks for a key. Nobody comes to hold a slot that was there before and is still empty,
since whoever works for it holds it. -/
theorem arrive (tidy : Tidy registry phases) (attended : Attended owner registry nextCall phases)
    (present : phases[index]? = some (.arriving key)) {after : Registry}
    {standing : Cell.Standing ContextId}
    (arrival : registry.Arrival key nextCall after slot standing) :
    Tidy after (phases.set index (.ofStanding key nextCall slot standing)) := by
  have kept := tidy.set present nofun (.ofStanding key nextCall slot standing)
  refine ⟨arrival.distinct tidy.distinct, fun {key' slot'} current empty => ?_⟩
  rw [arrival.sameDocuments.values] at empty
  cases arrival with
  | found shown => exact kept.staffed current empty
  | queued _ _ held => exact kept.staffed current empty
  | holding own unfilled free =>
    obtain ⟨worker, working⟩ := tidy.staffed own unfilled
    obtain ⟨-, holder, held, -⟩ := attended.worked working
    rw [free] at held
    cases held
  | claimed missing =>
    rw [Registry.slot?_claimed missing] at current
    split at current
    · next same =>
      cases current
      subst same
      exact ⟨index, List.getElem?_set_self (List.getElem?_eq_some_iff.mp present).1⟩
    · exact kept.staffed current empty

/-- Whoever works for one slot does not work for another, so the others stay worked for when a
call leaves its slot. -/
private theorem staffed_set (tidy : Tidy registry phases)
    (present : phases[index]? = some (.working key slot)) (new : Phase) {key' : String}
    {other : SlotId} (current : registry.slot? key' = some other)
    (empty : (registry.cell other).value = none) (different : ¬(key' = key ∧ other = slot)) :
    ∃ worker : Nat, (phases.set index new)[worker]? = some (.working key' other) := by
  obtain ⟨worker, working⟩ := tidy.staffed current empty
  refine ⟨worker, (getElem?_set_eq_some present new worker _).mpr (.inr ⟨?_, working⟩)⟩
  rintro rfl
  rw [present] at working
  cases working
  exact different ⟨rfl, rfl⟩

/-- The call that works for a slot fills it and leaves. -/
theorem succeed (tidy : Tidy registry phases) (known : slot < registry.slots.length)
    (present : phases[index]? = some (.working key slot)) (new : Phase) (context : ContextId) :
    Tidy (registry.succeed slot context) (phases.set index new) where
  distinct := tidy.distinct
  staffed {key' other} current empty := by
    rw [Registry.cell_succeed known] at empty
    split at empty
    · cases empty
    · next different =>
      exact tidy.staffed_set present new current empty fun same => different same.2

/-- The call that works for a slot fails and leaves. If the key has the slot, the key loses it. -/
theorem fail (tidy : Tidy registry phases) (attended : Attended owner registry nextCall phases)
    (present : phases[index]? = some (.working key slot)) (new : Phase) :
    Tidy (registry.fail key slot) (phases.set index new) := by
  classical
  refine ⟨Registry.distinct_fail tidy.distinct key slot, fun {key' other} current empty => ?_⟩
  rw [(registry.fail_sameDocuments key slot).values] at empty
  rw [Registry.slot?_fail] at current
  split at current
  · cases current
  · next kept =>
    refine tidy.staffed_set present new current empty ?_
    rintro ⟨rfl, rfl⟩
    exact kept ⟨rfl, current, (attended.worked present).1⟩

end Tidy

namespace Update

/-- Settling leaves every document as it is, but for its tree. -/
theorem context_settle_but_root (world : World) (key : String) (fresh : ContextId) (slot : SlotId)
    (stored id : ContextId) :
    ∃ root, (settle world key fresh slot stored).1.store.context id =
      { world.store.context id with root } := by
  by_cases current : world.registry.slot? key = some slot
  · rw [settle_of_current world fresh stored current]
    dsimp only
    split
    · exact ⟨_, rfl⟩
    · by_cases here : id = stored
      · subst here
        rcases Nat.lt_or_ge id world.store.length with known | unknown
        · exact ⟨_, Store.context_update_self known _⟩
        · rw [Store.context_of_le unknown, Store.context_of_le]
          · exact ⟨_, rfl⟩
          · simpa [Store.update] using unknown
      · exact ⟨_, Store.context_update_of_ne here _ _⟩
  · rw [settle_of_lost world fresh stored current]
    exact ⟨_, rfl⟩

/-- A turn of an update leaves every document as it is, but for its tree. -/
theorem Turn.context_but_root {world : World} {update : Update} {outcome : World × Update}
    (turn : Turn world update outcome) (id : ContextId) :
    ∃ root, outcome.1.store.context id = { world.store.context id with root } := by
  cases turn with
  | arrive arrival =>
    cases arrival with
    | found shown => exact context_settle_but_root _ _ _ _ _ id
    | queued current empty held => exact ⟨_, rfl⟩
    | holding current empty free => exact context_settle_but_root _ _ _ _ _ id
    | claimed missing => exact context_settle_but_root _ _ _ _ _ id
  | receive filled => exact context_settle_but_root _ _ _ _ _ id
  | takeOver empty held => exact context_settle_but_root _ _ _ _ _ id

/-- A turn of an update hides no document that showed before. -/
theorem Turn.shows {world : World} {update : Update} {outcome : World × Update}
    (turn : Turn world update outcome) {key : String} {slot : SlotId} {context : ContextId}
    (shown : world.registry.Shows key slot context) :
    outcome.1.registry.Shows key slot context := by
  cases turn with
  | @arrive asked fresh registry own standing arrival =>
    have shown := (arrival.sameDocuments.shows key slot context).mpr shown
    cases standing with
    | found stored =>
      simp only [proceed, registry_settle]
      exact shown
    | queued => exact shown
    | holding =>
      simp only [proceed, registry_settle]
      exact shown.succeed arrival.empty_of_holding fresh
  | receive filled =>
    rw [registry_settle]
    exact shown
  | takeOver empty held =>
    rw [registry_settle]
    exact shown.succeed empty _

end Update

namespace Interleaving

variable {state after : Interleaving} {event : Event} {events : List Event} {index : Nat}

/-- The registry is tidy for the calls that are under way. -/
def IsTidy (state : Interleaving) : Prop :=
  Tidy state.world.registry (state.calls.map Call.phase)

theorem isTidy_initial (config : Config) (source : Source) (engines : Nat) :
    (initial config source engines).IsTidy :=
  ⟨.nil, nofun⟩

namespace IsTidy

variable {owner : SlotId → String}

/-- A load goes on. -/
theorem load (tidy : state.IsTidy)
    (attended : Attended owner state.world.registry state.world.nextCall
      (state.calls.map Call.phase))
    {load : Load} (present : state.calls[index]? = some (.load load)) {outcome : World × Load}
    (turn : Load.Turn state.world load outcome) :
    IsTidy ⟨outcome.1, state.calls.set index (.load outcome.2)⟩ := by
  have there := Call.getElem?_map_phase present
  rw [IsTidy, List.map_set]
  cases turn with
  | @arrive key registry slot standing arrival =>
    obtain ⟨sameRegistry, -, -, phase⟩ := Load.proceed_spec
      { state.world with registry, nextCall := state.world.nextCall + 1 } key state.world.nextCall
      slot standing
    rw [sameRegistry, phase]
    exact Tidy.arrive tidy attended there arrival
  | receive filled => exact Tidy.set tidy there nofun _
  | takeOver empty held => exact Tidy.set tidy there nofun _
  | deliver ended good => exact Tidy.succeed tidy (attended.placed there rfl).1 there _ _
  | fail ended bad => exact Tidy.fail tidy attended there _

/-- An update goes on. One that comes to hold a slot fills it in the same turn. -/
theorem update (tidy : state.IsTidy)
    (attended : Attended owner state.world.registry state.world.nextCall
      (state.calls.map Call.phase))
    {update : Update} (present : state.calls[index]? = some (.update update))
    {outcome : World × Update} (turn : Update.Turn state.world update outcome) :
    IsTidy ⟨outcome.1, state.calls.set index (.update outcome.2)⟩ := by
  have there := Call.getElem?_map_phase present
  have listed : index < (state.calls.map Call.phase).length :=
    (List.getElem?_eq_some_iff.mp there).1
  have filled {registry : Registry} {key : String} {slot : SlotId} (fresh : ContextId)
      (tidy : Tidy registry ((state.calls.map Call.phase).set index (.working key slot)))
      (known : slot < registry.slots.length) (new : Phase) :
      Tidy (registry.succeed slot fresh) ((state.calls.map Call.phase).set index new) := by
    have working := List.getElem?_set_self (a := Phase.working key slot) listed
    simpa only [List.set_set] using tidy.succeed known working new fresh
  rw [IsTidy, List.map_set]
  cases turn with
  | @arrive key fresh registry slot standing arrival =>
    have arrived := Tidy.arrive tidy attended there arrival
    obtain ⟨owner', -, attended'⟩ := attended.arrive there arrival
    cases standing with
    | found stored =>
      simp only [Update.proceed, Update.registry_settle]
      simpa only [List.set_set] using arrived.set (List.getElem?_set_self listed) nofun _
    | queued => exact arrived
    | holding =>
      simp only [Update.proceed, Update.registry_settle]
      exact filled fresh arrived (attended'.current arrival.current).1 _
  | receive stored =>
    rw [Update.registry_settle]
    exact Tidy.set tidy there nofun _
  | @takeOver key fresh number slot empty held =>
    rw [Update.registry_settle]
    have working := Tidy.set tidy there nofun (.working key slot)
    exact filled fresh working (attended.placed there rfl).1 _

/-- Whatever happens next, the registry stays tidy. -/
theorem step (tidy : state.IsTidy) (orderly : state.Orderly)
    (went : state.step? event = some after) : after.IsTidy := by
  obtain ⟨owner, attended, -⟩ := orderly
  cases event with
  | load key =>
    cases went
    rw [IsTidy, List.map_append]
    exact Tidy.append tidy _
  | update key root =>
    cases went
    rw [IsTidy, List.map_append]
    exact Tidy.append tidy _
  | proceed index =>
    obtain ⟨load, outcome, present, turn, rfl⟩ | ⟨update, outcome, present, turn, rfl⟩ :=
      step?_proceed_turn went
    · exact tidy.load attended present turn
    · exact tidy.update attended present turn
  | wait moment =>
    cases went
    exact tidy
  | change source =>
    cases went
    exact tidy

end IsTidy

/-- Every run leaves calls and documents in order and the registry tidy. -/
theorem orderly_and_tidy {config : Config} {source : Source} {engines : Nat}
    (ran : (initial config source engines).run? events = some state) :
    state.Orderly ∧ state.IsTidy := by
  let Invariant (state : Interleaving) : Prop := state.Orderly ∧ state.IsTidy
  have kept {state after : Interleaving} {event : Event} (both : Invariant state)
      (went : state.step? event = some after) : Invariant after :=
    ⟨both.1.step went, both.2.step both.1 went⟩
  exact run?_invariant kept
    ⟨orderly_initial config source engines, isTidy_initial config source engines⟩ ran

/-- Whatever happens next, a document that shows goes on showing. -/
theorem step?_shows (orderly : state.Orderly) (went : state.step? event = some after)
    {key : String} {slot : SlotId} {context : ContextId}
    (shown : state.world.registry.Shows key slot context) :
    after.world.registry.Shows key slot context := by
  obtain ⟨owner, attended, -⟩ := orderly
  cases event with
  | load key =>
    cases went
    exact shown
  | update key root =>
    cases went
    exact shown
  | proceed index =>
    obtain ⟨load, outcome, present, turn, rfl⟩ | ⟨update, outcome, present, turn, rfl⟩ :=
      step?_proceed_turn went
    · cases turn with
      | @arrive asked registry own standing arrival =>
        obtain ⟨sameRegistry, -⟩ := Load.proceed_spec
          { state.world with registry, nextCall := state.world.nextCall + 1 } asked
          state.world.nextCall own standing
        rw [sameRegistry]
        exact (arrival.sameDocuments.shows _ _ _).mpr shown
      | receive filled => exact shown
      | takeOver empty held => exact shown
      | deliver ended good =>
        exact shown.succeed (attended.worked (Call.getElem?_map_phase present)).1 _
      | fail ended bad =>
        exact ((Registry.fail_sameDocuments _ _ _).shows _ _ _).mpr shown
    · exact turn.shows shown
  | wait moment =>
    cases went
    exact shown
  | change source =>
    cases went
    exact shown

/-- Whatever happens next, a document that there is keeps everything but its tree. -/
theorem step?_context_but_root (went : state.step? event = some after) {id : ContextId}
    (known : id < state.world.store.length) :
    ∃ root, after.world.store.context id = { state.world.store.context id with root } := by
  cases event with
  | load key =>
    cases went
    exact ⟨_, rfl⟩
  | update key root =>
    cases went
    exact ⟨_, Store.context_add_of_lt known _⟩
  | proceed index =>
    obtain ⟨load, outcome, -, turn, rfl⟩ | ⟨update, outcome, -, turn, rfl⟩ :=
      step?_proceed_turn went
    · exact ⟨_, turn.context_of_known known⟩
    · exact turn.context_but_root id
  | wait moment =>
    cases went
    exact ⟨_, rfl⟩
  | change source =>
    cases went
    exact ⟨_, rfl⟩

/-- What is stored in a run stays stored to its end. -/
theorem Orderly.stored_kept (orderly : state.Orderly) (ran : state.run? events = some after)
    {key : String} {context : ContextId}
    (stored : state.world.registry.get? key = some context) :
    after.world.registry.get? key = some context ∧
      ∃ root, after.world.store.context context =
        { state.world.store.context context with root } := by
  let Invariant (now : Interleaving) : Prop := now.Orderly ∧
    now.world.registry.get? key = some context ∧
      ∃ root, now.world.store.context context = { state.world.store.context context with root }
  have kept {now next : Interleaving} {event : Event} (invariant : Invariant now)
      (went : now.step? event = some next) : Invariant next := by
    obtain ⟨orderly, stored, root, same⟩ := invariant
    obtain ⟨slot, shown⟩ := Registry.get?_eq_some_iff.mp stored
    have known : context < now.world.store.length := by
      obtain ⟨owner, -, documented⟩ := orderly
      exact (documented.stored shown.2).1
    obtain ⟨root', changed⟩ := step?_context_but_root went known
    refine ⟨orderly.step went, ?_, root', ?_⟩
    · exact Registry.get?_eq_some_iff.mpr ⟨slot, step?_shows orderly went shown⟩
    · rw [changed, same]
  exact (run?_invariant kept ⟨orderly, stored, _, rfl⟩ ran).2

/-- However calls are interleaved and whatever fetches bring: a document that is stored under a key
stays stored under it and keeps everything but its tree; and when no call is under way, every entry
of the table shows a document. -/
theorem documents_stay_and_entries_show {config : Config} {source : Source} {engines : Nat}
    (ran : (initial config source engines).run? events = some state) :
    (∀ {later : List Event} {after : Interleaving} {key : String} {context : ContextId},
      state.run? later = some after → state.world.registry.get? key = some context →
        after.world.registry.get? key = some context ∧
          ∃ root, after.world.store.context context =
            { state.world.store.context context with root }) ∧
      ((∀ call ∈ state.calls, call.phase = .returned) →
        ∀ entry ∈ state.world.registry.table, ∃ context,
          state.world.registry.Shows entry.1 entry.2 context) := by
  obtain ⟨orderly, tidy⟩ := orderly_and_tidy ran
  refine ⟨fun ran stored => orderly.stored_kept ran stored, fun finished entry entered => ?_⟩
  have current := Registry.slot?_of_mem tidy.distinct entered
  cases value : (state.world.registry.cell entry.2).value with
  | some context => exact ⟨context, current, value⟩
  | none =>
    -- Whoever works for an empty slot is under way.
    obtain ⟨worker, working⟩ := tidy.staffed current value
    rw [List.getElem?_map, Option.map_eq_some_iff] at working
    obtain ⟨call, present, phase⟩ := working
    rw [finished call (List.mem_of_getElem? present)] at phase
    cases phase

/-- Two loads of `mem:a` fail one after the other, the second for a slot that the key has lost; in
between an update stores a document under `mem:a`, which another update then changes. In the end
`mem:a` is the only entry. -/
theorem documents_stay_after_failures : ∃ state after : Interleaving,
    (initial .standard .none 1).run?
        [.load "mem:a", .load "mem:a", .proceed 0, .proceed 1, .proceed 0, .update "mem:a" default,
          .proceed 2] = some state ∧
      state.run? [.proceed 1, .proceed 1,
        .update "mem:a" ⟨[.text "B" (.between 0 1)], .between 0 1⟩, .proceed 3] = some after ∧
      after.world.registry.get? "mem:a" = some 0 ∧
      ∀ entry ∈ after.world.registry.table, ∃ context,
        after.world.registry.Shows entry.1 entry.2 context := by
  obtain ⟨state, ran, stored, after, later, finished⟩ : ∃ state : Interleaving,
      (initial .standard .none 1).run?
        [.load "mem:a", .load "mem:a", .proceed 0, .proceed 1, .proceed 0, .update "mem:a" default,
          .proceed 2] = some state ∧
      state.world.registry.get? "mem:a" = some 0 ∧ ∃ after : Interleaving,
        state.run? [.proceed 1, .proceed 1,
          .update "mem:a" ⟨[.text "B" (.between 0 1)], .between 0 1⟩, .proceed 3] = some after ∧
        after.calls.map Call.phase = [.returned, .returned, .returned, .returned] :=
    ⟨_, rfl, rfl, _, rfl, rfl⟩
  have whole : (initial .standard .none 1).run? _ = some after :=
    run?_append_eq_some_iff.mpr ⟨state, ran, later⟩
  refine ⟨state, after, ran, later, ?_, ?_⟩
  · exact ((documents_stay_and_entries_show ran).1 later stored).1
  · refine (documents_stay_and_entries_show whole).2 fun call listed => ?_
    have phase := List.mem_map_of_mem (f := Call.phase) listed
    rw [finished] at phase
    simpa using phase

end Interleaving

end DiagramAssist
