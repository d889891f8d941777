import DiagramAssist.Proofs.Registry.Exclusion
import DiagramAssist.Proofs.Registry.Identity
import DiagramAssist.Proofs.Registry.Stability

/-! # Calls for one key share one load

As long as no load of a key fails, the key keeps its first slot, and whoever asks for the key comes
to that slot. The call for which the slot was made works for it; nobody takes over from it, because
only a failure passes the work on. Hence one load of the key is started at most, all calls for the
key return the document in that slot, and none of them waits for ever. Calls for other keys may be
under way at the same time, and their loads may fail.
-/

namespace DiagramAssist

namespace Update

/-- The key of an update that has not returned. -/
def key? : Update → Option String
  | .arriving key _ => some key
  | .queued key _ _ _ => some key
  | .returned _ => none

variable {world : World} {update : Update} {outcome : World × Update}

theorem key?_settle (key : String) (fresh stored : ContextId) (slot : SlotId) {found : String}
    (asks : (settle world key fresh slot stored).2.key? = some found) : key = found := by
  by_cases current : world.registry.slot? key = some slot
  · rw [settle_of_current world fresh stored current] at asks
    cases asks
  · rw [settle_of_lost world fresh stored current] at asks
    cases asks
    rfl

theorem Turn.asks (turn : Turn world update outcome) : ∃ key, update.key? = some key := by
  cases turn <;> exact ⟨_, rfl⟩

/-- An update asks for one key until it returns. -/
theorem Turn.key?_kept (turn : Turn world update outcome) {key : String}
    (asks : outcome.2.key? = some key) : update.key? = some key := by
  cases turn with
  | arrive arrival =>
    cases arrival with
    | found shown => exact congrArg some (key?_settle _ _ _ _ asks)
    | queued current empty held => exact asks
    | holding current empty free => exact congrArg some (key?_settle _ _ _ _ asks)
    | claimed missing => exact congrArg some (key?_settle _ _ _ _ asks)
  | receive filled => exact congrArg some (key?_settle _ _ _ _ asks)
  | takeOver empty held => exact congrArg some (key?_settle _ _ _ _ asks)

theorem place?_settle (key : String) (fresh stored : ContextId) (slot : SlotId) :
    (Call.update (settle world key fresh slot stored).2).phase.place? = none := by
  by_cases current : world.registry.slot? key = some slot
  · rw [settle_of_current world fresh stored current]
    rfl
  · rw [settle_of_lost world fresh stored current]
    rfl

/-- An update that waits for a slot after a turn has just come to the slot of its key. -/
theorem Turn.current_of_place? (turn : Turn world update outcome) {key : String} {slot : SlotId}
    (place : (Call.update outcome.2).phase.place? = some (key, slot)) :
    outcome.1.registry.slot? key = some slot := by
  cases turn with
  | @arrive asked fresh registry own standing arrival =>
    cases standing with
    | found stored =>
      rw [proceed, place?_settle] at place
      cases place
    | queued =>
      cases place
      exact arrival.current
    | holding =>
      rw [proceed, place?_settle] at place
      cases place
  | receive filled =>
    rw [place?_settle] at place
    cases place
  | takeOver empty held =>
    rw [place?_settle] at place
    cases place

/-- An update that returns while its key has the slot at which it waited returns what is stored. -/
theorem Turn.get?_of_returned {owner : SlotId → String} {calls : List Call} {index : Nat}
    (attended : Attended owner world.registry world.nextCall (calls.map Call.phase))
    (present : calls[index]? = some (.update update)) (turn : Turn world update outcome)
    {key : String} (asks : update.key? = some key) {context : ContextId}
    (returned : outcome.2 = .returned context) :
    outcome.1.registry.get? key = some context := by
  have there := Call.getElem?_map_phase present
  have found {start : World} {fresh stored : ContextId} {slot : SlotId}
      (filled : (start.registry.cell slot).value = some stored)
      (returned : (settle start key fresh slot stored).2 = .returned context) :
      (settle start key fresh slot stored).1.registry.get? key = some context := by
    rw [registry_settle]
    by_cases current : start.registry.slot? key = some slot
    · rw [settle_of_current start fresh stored current] at returned
      cases returned
      exact Registry.get?_eq_some_iff.mpr ⟨slot, current, filled⟩
    · rw [settle_of_lost start fresh stored current] at returned
      cases returned
  have filled {registry : Registry} {slot : SlotId} (known : slot < registry.slots.length)
      (fresh : ContextId) : ((registry.succeed slot fresh).cell slot).value = some fresh := by
    rw [Registry.cell_succeed known, if_pos rfl]
  cases turn with
  | @arrive asked fresh registry own standing arrival =>
    cases asks
    obtain ⟨owner', -, attended'⟩ := attended.arrive there arrival
    cases standing with
    | found stored =>
      cases arrival with
      | found shown => exact found shown.2 returned
    | queued => cases returned
    | holding => exact found (filled (attended'.current arrival.current).1 fresh) returned
  | receive stored =>
    cases asks
    exact found stored returned
  | takeOver empty held =>
    cases asks
    exact found (filled (attended.placed there rfl).1 _) returned

/-- How many steps an update still takes at most, if its key keeps its slot. -/
def rank : Update → Nat
  | .arriving _ _ => 2
  | .queued _ _ _ _ => 1
  | .returned _ => 0

/-- An update that comes to a slot of its key, or waits there, does not have to start again. -/
theorem Turn.rank_lt (turn : Turn world update outcome)
    (current : ∀ {key : String} {slot : SlotId},
      (Call.update update).phase.place? = some (key, slot) →
        world.registry.slot? key = some slot) :
    outcome.2.rank < update.rank := by
  have settled (start : World) {key : String} {slot : SlotId}
      (current : start.registry.slot? key = some slot) (fresh stored : ContextId) :
      (settle start key fresh slot stored).2.rank = 0 := by
    rw [settle_of_current start fresh stored current]
    rfl
  cases turn with
  | @arrive key fresh registry slot standing arrival =>
    cases standing with
    | found stored =>
      rw [proceed, settled _ arrival.current]
      exact Nat.zero_lt_two
    | queued => exact Nat.one_lt_two
    | holding =>
      rw [proceed, settled _ arrival.current]
      exact Nat.zero_lt_two
  | receive filled =>
    rw [settled _ (current rfl)]
    exact Nat.zero_lt_one
  | @takeOver key fresh number slot empty held =>
    rw [settled { world with registry := world.registry.succeed slot fresh } (current rfl)]
    exact Nat.zero_lt_one

/-- An update fetches nothing. -/
theorem Turn.log (turn : Turn world update outcome) : outcome.1.log = world.log := by
  have settled (start : World) (key : String) (fresh stored : ContextId) (slot : SlotId) :
      (settle start key fresh slot stored).1.log = start.log := by
    by_cases current : start.registry.slot? key = some slot
    · rw [settle_of_current start fresh stored current]
    · rw [settle_of_lost start fresh stored current]
  cases turn with
  | arrive arrival =>
    cases arrival with
    | found shown => exact settled _ _ _ _ _
    | queued current empty held => rfl
    | holding current empty free => exact settled _ _ _ _ _
    | claimed missing => exact settled _ _ _ _ _
  | receive filled => exact settled _ _ _ _ _
  | takeOver empty held => exact settled _ _ _ _ _

end Update

namespace Load

variable {world : World} {load : Load} {outcome : World × Load}

theorem Turn.asks (turn : Turn world load outcome) : ∃ key, load.key? = some key := by
  cases turn <;> exact ⟨_, rfl⟩

/-- A load asks for one key until it returns. -/
theorem Turn.key?_kept (turn : Turn world load outcome) {key : String}
    (asks : outcome.2.key? = some key) : load.key? = some key := by
  cases turn with
  | arrive arrival =>
    cases arrival with
    | found shown => cases asks
    | queued current empty held => exact asks
    | holding current empty free => exact asks
    | claimed missing => exact asks
  | receive filled => cases asks
  | takeOver empty held => exact asks
  | deliver ended good => cases asks
  | fail ended bad => cases asks

/-- A load that is no failure returns what is then in a slot of its key: the one at which it waited
or worked, or the one that the key has. -/
theorem Turn.shows_of_returned {owner : SlotId → String} {calls : List Call} {index : Nat}
    (attended : Attended owner world.registry world.nextCall (calls.map Call.phase))
    (present : calls[index]? = some (.load load)) (turn : Turn world load outcome)
    {key : String} (asks : load.key? = some key)
    (current : ∀ slot, load.slot? = some slot → world.registry.slot? key = some slot)
    {context : ContextId} (returned : outcome.2 = .returned (.ok context)) :
    outcome.1.registry.get? key = some context := by
  have there := Call.getElem?_map_phase present
  rw [Registry.get?_eq_some_iff]
  cases turn with
  | arrive arrival =>
    cases asks
    cases arrival with
    | found shown =>
      cases returned
      exact ⟨_, shown⟩
    | queued current empty held => cases returned
    | holding current empty free => cases returned
    | claimed missing => cases returned
  | receive filled =>
    cases asks
    cases returned
    exact ⟨_, current _ rfl, filled⟩
  | takeOver empty held => cases returned
  | @deliver asked slot pending document ended good =>
    cases asks
    cases returned
    refine ⟨slot, current slot rfl, ?_⟩
    exact congrArg Cell.value (Registry.cell_setCell_self _ _ _ (attended.placed there rfl).1)
  | fail ended bad => cases returned

/-- What a turn of a load does to the log. A load starts to fetch when its key gets a first slot, or
when it takes the work over at a slot which the key has lost. -/
theorem Turn.log {owner : SlotId → String} {calls : List Call} {index : Nat}
    (attended : Attended owner world.registry world.nextCall (calls.map Call.phase))
    (tidy : Tidy world.registry (calls.map Call.phase))
    (present : calls[index]? = some (.load load)) (turn : Turn world load outcome) :
    outcome.1.log = world.log ∨ ∃ key, load.key? = some key ∧ outcome.1.log = key :: world.log ∧
      (world.registry.slot? key = none ∧ outcome.1.registry.slot? key ≠ none ∨
        ∃ slot, load.slot? = some slot ∧ world.registry.slot? key ≠ some slot) := by
  have there := Call.getElem?_map_phase present
  cases turn with
  | @arrive key registry slot standing arrival =>
    obtain ⟨sameRegistry, -⟩ := proceed_spec
      { world with registry, nextCall := world.nextCall + 1 } key world.nextCall slot standing
    have current := arrival.current
    cases arrival with
    | found shown => exact .inl rfl
    | queued current empty held => exact .inl rfl
    | holding current empty free =>
      obtain ⟨worker, working⟩ := tidy.staffed current empty
      obtain ⟨-, holder, held, -⟩ := attended.worked working
      rw [free] at held
      cases held
    | claimed missing =>
      refine .inr ⟨key, rfl, rfl, .inl ⟨missing, ?_⟩⟩
      rw [sameRegistry, current]
      exact Option.some_ne_none _
  | receive filled => exact .inl rfl
  | @takeOver key number slot empty held =>
    refine .inr ⟨key, rfl, rfl, .inr ⟨slot, rfl, fun current => ?_⟩⟩
    -- If the key had the slot, somebody would work for it and hold it under another number.
    obtain ⟨worker, working⟩ := tidy.staffed current empty
    obtain ⟨-, holder, held', nobody⟩ := attended.worked working
    rw [held] at held'
    cases held'
    exact nobody index key slot there
  | deliver ended good => exact .inl rfl
  | fail ended bad => exact .inl rfl

end Load

namespace Call

/-- The key of a call that has not returned. -/
def key? : Call → Option String
  | .load state => state.key?
  | .update state => state.key?

/-- How many steps a call still takes at most, if its key keeps its slot. -/
def rank : Call → Nat
  | .load state => state.rank
  | .update state => state.rank

/-- The document that a call has returned. -/
def result? : Call → Option ContextId
  | .load (.returned (.ok context)) => some context
  | .update (.returned context) => some context
  | _ => none

/-- A call that still asks for its key, one that has returned a document, or a load that has
failed. -/
theorem asks_or_returned (call : Call) : (∃ key, call.key? = some key) ∨
    (∃ context, call.result? = some context) ∨
    ∃ error, call = .load (.returned (.error error)) := by
  cases call with
  | load state =>
    cases state with
    | arriving key => exact .inl ⟨key, rfl⟩
    | queued key number slot => exact .inl ⟨key, rfl⟩
    | fetching key slot pending => exact .inl ⟨key, rfl⟩
    | returned result =>
      cases result with
      | ok context => exact .inr (.inl ⟨context, rfl⟩)
      | error error => exact .inr (.inr ⟨error, rfl⟩)
  | update state =>
    cases state with
    | arriving key fresh => exact .inl ⟨key, rfl⟩
    | queued key fresh number slot => exact .inl ⟨key, rfl⟩
    | returned context => exact .inr (.inl ⟨context, rfl⟩)

theorem rank_le (call : Call) : call.rank ≤ 3 := by
  rcases call with (_ | _ | _ | _) | (_ | _ | _) <;> simp [rank, Load.rank, Update.rank]

theorem key?_of_place? {call : Call} {key : String} {slot : SlotId}
    (place : call.phase.place? = some (key, slot)) : call.key? = some key := by
  rcases call with (_ | _ | _ | _) | (_ | _ | _) <;> cases place <;> rfl

end Call

namespace Interleaving

/-- The key of a call that arrives. -/
def Event.key? : Event → Option String
  | .load key => some key
  | .update key _ => some key
  | _ => none

/-- The keys of the calls that have arrived, by the numbers of the calls. -/
def keys (events : List Event) : List String :=
  events.filterMap Event.key?

/-- The number of the call that goes on. -/
def Event.turn? : Event → Option Nat
  | .proceed index => some index
  | _ => none

/-- How many turns a call has taken. -/
def turns (index : Nat) (events : List Event) : Nat :=
  events.countP fun event => event.turn? = some index

/-- How many turns a call takes at most, if its key keeps its slot, from now on or from when it
arrives. -/
def left (state : Interleaving) (index : Nat) : Nat :=
  (state.calls[index]?).elim 3 Call.rank

/-- The call with this number is a load that has failed. -/
def Failed (state : Interleaving) (index : Nat) : Prop :=
  ∃ error, state.calls[index]? = some (.load (.returned (.error error)))

variable {state after : Interleaving} {event : Event} {events : List Event} {index : Nat}
  {key : String} {slot : SlotId}

theorem keys_concat (events : List Event) (event : Event) :
    keys (events ++ [event]) = keys events ++ event.key?.toList := by
  rw [keys, List.filterMap_append]
  cases kind : event.key? with
  | none => simp [keys, kind]
  | some key => simp [keys, kind]

theorem turns_concat (index : Nat) (events : List Event) (event : Event) :
    turns index (events ++ [event]) =
      turns index events + if event.turn? = some index then 1 else 0 := by
  simp only [turns, List.countP_append, List.countP_singleton, decide_eq_true_eq]

theorem left_of_present {call : Call} (present : state.calls[index]? = some call) :
    state.left index = call.rank := by
  rw [left, present, Option.elim_some]

/-- A call that joins the others takes as many turns as have been left for it. -/
theorem left_join_le (state : Interleaving) (world : World) (call : Call) (index : Nat) :
    left ⟨world, state.calls ++ [call]⟩ index ≤ state.left index := by
  cases present : state.calls[index]? with
  | some old =>
    have still := (getElem?_concat_eq_some state.calls call index old).mpr (.inl present)
    exact Nat.le_of_eq ((left_of_present still).trans (left_of_present present).symm)
  | none =>
    have all : state.left index = 3 := by rw [left, present, Option.elim_none]
    rw [all, left]
    cases (state.calls ++ [call])[index]? with
    | some found => exact found.rank_le
    | none => exact Nat.le_refl 3

/-- Keys are listed by the numbers of the calls, and a call that has not returned asks for its
key. -/
structure Listed (state : Interleaving) (keys : List String) : Prop where
  length : keys.length = state.calls.length
  asks : ∀ {index : Nat} {call : Call} {key : String}, state.calls[index]? = some call →
    call.key? = some key → keys[index]? = some key

/-- A call joins the others. -/
private theorem Listed.join {keys : List String} (listed : state.Listed keys) (world : World)
    {call : Call} {key : String} (asks : call.key? = some key) :
    Listed ⟨world, state.calls ++ [call]⟩ (keys ++ [key]) where
  length := by simp [listed.length]
  asks {index found key'} present asks' := by
    rw [getElem?_concat_eq_some]
    rcases (getElem?_concat_eq_some _ _ _ _).mp present with old | ⟨here, rfl⟩
    · exact .inl (listed.asks old asks')
    · exact .inr ⟨here.trans listed.length.symm, Option.some.inj (asks.symm.trans asks')⟩

theorem Listed.step {keys : List String} (listed : state.Listed keys)
    (went : state.step? event = some after) : after.Listed (keys ++ event.key?.toList) := by
  cases event with
  | load key =>
    cases went
    exact listed.join _ rfl
  | update key root =>
    cases went
    exact listed.join _ rfl
  | proceed index =>
    simp only [Event.key?, Option.toList_none, List.append_nil]
    obtain ⟨load, outcome, present, turn, rfl⟩ | ⟨update, outcome, present, turn, rfl⟩ :=
      step?_proceed_turn went
    · refine ⟨listed.length.trans List.length_set.symm, fun found asks => ?_⟩
      rcases (getElem?_set_eq_some present _ _ _).mp found with ⟨rfl, rfl⟩ | ⟨-, found⟩
      · exact listed.asks present (turn.key?_kept asks)
      · exact listed.asks found asks
    · refine ⟨listed.length.trans List.length_set.symm, fun found asks => ?_⟩
      rcases (getElem?_set_eq_some present _ _ _).mp found with ⟨rfl, rfl⟩ | ⟨-, found⟩
      · exact listed.asks present (turn.key?_kept asks)
      · exact listed.asks found asks
  | wait moment =>
    cases went
    simp only [Event.key?, Option.toList_none, List.append_nil]
    exact ⟨listed.length, listed.asks⟩
  | change source =>
    cases went
    simp only [Event.key?, Option.toList_none, List.append_nil]
    exact ⟨listed.length, listed.asks⟩

/-- A load that has failed does not go on. -/
theorem Failed.step (failed : state.Failed index) (went : state.step? event = some after) :
    after.Failed index := by
  obtain ⟨error, present⟩ := failed
  refine ⟨error, step?_calls_of_ne went ?_ present⟩
  rintro rfl
  simp only [step?, present] at went
  cases went

/-- What the calls for a key share while no load of the key fails: the slot of the key is the only
one at which they wait and work, one fetch has been started at most, and none before the key has a
slot; and whatever a call returns is stored. -/
structure Shared (state : Interleaving) (keys : List String) (key : String) : Prop where
  placed : ∀ {index : Nat} {call : Call} {slot : SlotId}, state.calls[index]? = some call →
    call.phase.place? = some (key, slot) → state.world.registry.slot? key = some slot
  once : state.world.log.count key ≤ 1
  unlogged : state.world.registry.slot? key = none → state.world.log.count key = 0
  stored : ∀ {index : Nat} {call : Call} {context : ContextId}, state.calls[index]? = some call →
    keys[index]? = some key → call.result? = some context →
    state.world.registry.get? key = some context

namespace Shared

variable {keys : List String}

/-- The key keeps its slot, since no load of it fails. -/
private theorem slot?_kept (listed : state.Listed keys) (went : state.step? event = some after)
    (unfailed : ∀ index, keys[index]? = some key → ¬after.Failed index)
    (current : state.world.registry.slot? key = some slot) :
    after.world.registry.slot? key = some slot := by
  rcases step?_slot?_kept_or_drops went current with kept | ⟨failing, -, drops⟩
  · exact kept
  · obtain ⟨pending, present⟩ := drops.runs
    exact (unfailed failing (listed.asks present rfl) drops.failed).elim

/-- What is stored stays stored. -/
private theorem get?_kept (orderly : state.Orderly) (went : state.step? event = some after)
    {context : ContextId} (stored : state.world.registry.get? key = some context) :
    after.world.registry.get? key = some context := by
  obtain ⟨slot, shown⟩ := Registry.get?_eq_some_iff.mp stored
  exact Registry.get?_eq_some_iff.mpr ⟨slot, step?_shows orderly went shown⟩

/-- A call joins the others. -/
private theorem join (shared : state.Shared keys key) (listed : state.Listed keys) {call : Call}
    {asked : String} (away : call.phase.place? = none) (open_ : call.result? = none)
    {world : World} (registry : world.registry = state.world.registry)
    (log : world.log = state.world.log) :
    Shared ⟨world, state.calls ++ [call]⟩ (keys ++ [asked]) key where
  placed {index found slot} present place := by
    rcases (getElem?_concat_eq_some _ _ _ _).mp present with old | ⟨-, rfl⟩
    · rw [registry]
      exact shared.placed old place
    · rw [away] at place
      cases place
  once := by
    rw [log]
    exact shared.once
  unlogged missing := by
    rw [registry] at missing
    rw [log]
    exact shared.unlogged missing
  stored {index found context} present asks returned := by
    rcases (getElem?_concat_eq_some _ _ _ _).mp present with old | ⟨-, rfl⟩
    · rw [registry]
      refine shared.stored old ?_ returned
      have before := (List.getElem?_eq_some_iff.mp old).1
      rwa [List.getElem?_append_left (listed.length ▸ before)] at asks
    · rw [open_] at returned
      cases returned

/-- A load goes on. -/
private theorem load (shared : state.Shared keys key) (listed : state.Listed keys)
    (orderly : state.Orderly) (tidy : state.IsTidy) {load : Load} {outcome : World × Load}
    (present : state.calls[index]? = some (.load load))
    (turn : Load.Turn state.world load outcome)
    (went : state.step? (.proceed index) =
      some ⟨outcome.1, state.calls.set index (.load outcome.2)⟩)
    (unfailed : ∀ other, keys[other]? = some key →
      ¬Failed ⟨outcome.1, state.calls.set index (.load outcome.2)⟩ other) :
    Shared ⟨outcome.1, state.calls.set index (.load outcome.2)⟩ keys key := by
  have split := getElem?_set_eq_some present (.load outcome.2)
  have kept {slot : SlotId} (current : state.world.registry.slot? key = some slot) :
      outcome.1.registry.slot? key = some slot := slot?_kept listed went unfailed current
  obtain ⟨owner, attended, -⟩ := id orderly
  -- While the load waits or works, its key has its slot.
  have current (asks : load.key? = some key) (slot : SlotId) (at_ : load.slot? = some slot) :
      state.world.registry.slot? key = some slot := by
    refine shared.placed present ?_
    cases load with
    | arriving asked => cases at_
    | queued asked number own =>
      cases asks
      cases at_
      rfl
    | fetching asked own pending =>
      cases asks
      cases at_
      rfl
    | returned result => cases at_
  -- The load starts to fetch for the key only if the key has had no slot.
  have log : outcome.1.log.count key = state.world.log.count key ∨
      outcome.1.log.count key = state.world.log.count key + 1 ∧
        state.world.registry.slot? key = none ∧ outcome.1.registry.slot? key ≠ none := by
    rcases turn.log attended tidy present with same | ⟨asked, asks, started, why⟩
    · rw [same]
      exact .inl rfl
    · rw [started]
      by_cases own : asked = key
      · subst own
        rcases why with new | ⟨slot, at_, lost⟩
        · exact .inr ⟨List.count_cons_self, new⟩
        · exact (lost (current asks slot at_)).elim
      · exact .inl (List.count_cons_of_ne own)
  refine ⟨fun found place => ?_, ?_, fun missing => ?_, fun found asks returned => ?_⟩
  · rcases (split _ _).mp found with ⟨-, rfl⟩ | ⟨-, found⟩
    · rcases turn.place?_kept_or_current place with before | now
      · exact kept (shared.placed present before)
      · exact now
    · exact kept (shared.placed found place)
  · rcases log with same | ⟨more, missing, -⟩
    · rw [same]
      exact shared.once
    · have none := shared.unlogged missing
      show outcome.1.log.count key ≤ 1
      omega
  · cases before : state.world.registry.slot? key with
    | some slot =>
      rw [kept before] at missing
      cases missing
    | none =>
      rcases log with same | ⟨-, -, made⟩
      · rw [same]
        exact shared.unlogged before
      · exact (made missing).elim
  · rcases (split _ _).mp found with ⟨rfl, rfl⟩ | ⟨-, found⟩
    · obtain ⟨own, asked⟩ := turn.asks
      obtain rfl : own = key := Option.some.inj ((listed.asks present asked).symm.trans asks)
      refine turn.shows_of_returned attended present asked (current asked) ?_
      generalize outcome.2 = load' at returned
      rcases load' with _ | _ | _ | (_ | context) <;> cases returned
      rfl
    · exact get?_kept orderly went (shared.stored found asks returned)

/-- An update goes on. -/
private theorem update (shared : state.Shared keys key) (listed : state.Listed keys)
    (orderly : state.Orderly) {update : Update} {outcome : World × Update}
    (present : state.calls[index]? = some (.update update))
    (turn : Update.Turn state.world update outcome)
    (went : state.step? (.proceed index) =
      some ⟨outcome.1, state.calls.set index (.update outcome.2)⟩)
    (unfailed : ∀ other, keys[other]? = some key →
      ¬Failed ⟨outcome.1, state.calls.set index (.update outcome.2)⟩ other) :
    Shared ⟨outcome.1, state.calls.set index (.update outcome.2)⟩ keys key := by
  have split := getElem?_set_eq_some present (.update outcome.2)
  have kept {slot : SlotId} (current : state.world.registry.slot? key = some slot) :
      outcome.1.registry.slot? key = some slot := slot?_kept listed went unfailed current
  obtain ⟨owner, attended, -⟩ := id orderly
  refine ⟨fun found place => ?_, ?_, fun missing => ?_, fun found asks returned => ?_⟩
  · rcases (split _ _).mp found with ⟨-, rfl⟩ | ⟨-, found⟩
    · exact turn.current_of_place? place
    · exact kept (shared.placed found place)
  · rw [turn.log]
    exact shared.once
  · cases before : state.world.registry.slot? key with
    | some slot =>
      rw [kept before] at missing
      cases missing
    | none =>
      rw [turn.log]
      exact shared.unlogged before
  · rcases (split _ _).mp found with ⟨rfl, rfl⟩ | ⟨-, found⟩
    · obtain ⟨own, asked⟩ := turn.asks
      obtain rfl : own = key := Option.some.inj ((listed.asks present asked).symm.trans asks)
      refine turn.get?_of_returned attended present asked ?_
      generalize outcome.2 = update' at returned
      rcases update' with _ | _ | context <;> cases returned
      rfl
    · exact get?_kept orderly went (shared.stored found asks returned)

/-- Whatever happens next: unless a load of the key has failed, its calls go on sharing. -/
theorem step (shared : state.Shared keys key) (listed : state.Listed keys)
    (orderly : state.Orderly) (tidy : state.IsTidy) (went : state.step? event = some after)
    (unfailed : ∀ index, (keys ++ event.key?.toList)[index]? = some key → ¬after.Failed index) :
    after.Shared (keys ++ event.key?.toList) key := by
  cases event with
  | load asked =>
    cases went
    exact shared.join listed rfl rfl rfl rfl
  | update asked root =>
    cases went
    exact shared.join listed rfl rfl rfl rfl
  | proceed index =>
    simp only [Event.key?, Option.toList_none, List.append_nil] at unfailed ⊢
    obtain ⟨load, outcome, present, turn, rfl⟩ | ⟨update, outcome, present, turn, rfl⟩ :=
      step?_proceed_turn went
    · exact shared.load listed orderly tidy present turn went unfailed
    · exact shared.update listed orderly present turn went unfailed
  | wait moment =>
    cases went
    simp only [Event.key?, Option.toList_none, List.append_nil]
    exact ⟨shared.placed, shared.once, shared.unlogged, shared.stored⟩
  | change source =>
    cases went
    simp only [Event.key?, Option.toList_none, List.append_nil]
    exact ⟨shared.placed, shared.once, shared.unlogged, shared.stored⟩

/-- A turn of a call leaves it fewer turns, and nothing else leaves it more. -/
theorem left_step (shared : state.Shared keys key) (listed : state.Listed keys)
    (went : state.step? event = some after) (own : ∀ asked ∈ keys[index]?, asked = key) :
    after.left index + (if event.turn? = some index then 1 else 0) ≤ state.left index := by
  cases event with
  | load asked =>
    cases went
    exact left_join_le _ _ _ _
  | update asked root =>
    cases went
    exact left_join_le _ _ _ _
  | proceed moved =>
    by_cases here : moved = index
    · subst here
      rw [Event.turn?, if_pos rfl]
      obtain ⟨load, outcome, present, turn, rfl⟩ | ⟨update, outcome, present, turn, rfl⟩ :=
        step?_proceed_turn went
      · have inside := (List.getElem?_eq_some_iff.mp present).1
        rw [left_of_present present, left_of_present (List.getElem?_set_self inside)]
        exact turn.rank_lt
      · have inside := (List.getElem?_eq_some_iff.mp present).1
        rw [left_of_present present, left_of_present (List.getElem?_set_self inside)]
        refine turn.rank_lt fun place => ?_
        obtain rfl := own _ (listed.asks present (Call.key?_of_place? place))
        exact shared.placed present place
    · obtain ⟨call, -, world, call', -, rfl⟩ := step?_proceed_eq_some_iff.mp went
      rw [Event.turn?, if_neg fun same => here (Option.some.inj same), left,
        List.getElem?_set_ne here]
      exact Nat.le_refl _
  | wait moment =>
    cases went
    exact Nat.le_refl _
  | change source =>
    cases went
    exact Nat.le_refl _

end Shared

variable {config : Config} {source : Source} {engines : Nat}

theorem listed_of_run (ran : (initial config source engines).run? events = some state) :
    state.Listed (keys events) := by
  induction events using List.reverseRecOn generalizing state with
  | nil =>
    cases ran
    exact ⟨rfl, nofun⟩
  | append_singleton events event ih =>
    obtain ⟨last, earlier, went⟩ := run?_concat_eq_some_iff.mp ran
    rw [keys_concat]
    exact (ih earlier).step went

/-- In a run in which no load of the key fails, its calls share. -/
theorem shared_of_run (ran : (initial config source engines).run? events = some state)
    (unfailed : ∀ index, (keys events)[index]? = some key → ¬state.Failed index) :
    state.Shared (keys events) key := by
  induction events using List.reverseRecOn generalizing state with
  | nil =>
    cases ran
    exact ⟨nofun, Nat.zero_le 1, fun _ => rfl, nofun⟩
  | append_singleton events event ih =>
    obtain ⟨last, earlier, went⟩ := run?_concat_eq_some_iff.mp ran
    obtain ⟨orderly, tidy⟩ := orderly_and_tidy earlier
    rw [keys_concat] at unfailed ⊢
    refine (ih earlier fun index asks failed => ?_).step (listed_of_run earlier) orderly tidy went
      unfailed
    refine unfailed index ?_ (failed.step went)
    rw [List.getElem?_append_left (List.getElem?_eq_some_iff.mp asks).1]
    exact asks

/-- In a run in which no load of the key fails, a call for it takes three turns at most. -/
theorem turns_le_of_run (ran : (initial config source engines).run? events = some state)
    (unfailed : ∀ index, (keys events)[index]? = some key → ¬state.Failed index)
    (own : ∀ asked ∈ (keys events)[index]?, asked = key) :
    turns index events + state.left index ≤ 3 := by
  induction events using List.reverseRecOn generalizing state with
  | nil =>
    cases ran
    exact Nat.le_refl 3
  | append_singleton events event ih =>
    obtain ⟨last, earlier, went⟩ := run?_concat_eq_some_iff.mp ran
    have before {index : Nat} {asked : String} (asks : (keys events)[index]? = some asked) :
        (keys (events ++ [event]))[index]? = some asked := by
      rw [keys_concat, List.getElem?_append_left (List.getElem?_eq_some_iff.mp asks).1]
      exact asks
    have unfailed' : ∀ index, (keys events)[index]? = some key → ¬last.Failed index :=
      fun index asks failed => unfailed index (before asks) (failed.step went)
    have own' : ∀ asked ∈ (keys events)[index]?, asked = key := fun asked asks =>
      own asked (before asks)
    have taken := ih earlier unfailed' own'
    have more := (shared_of_run earlier unfailed').left_step (listed_of_run earlier) went own'
    rw [turns_concat]
    omega

/-- A load that runs can go on when its time has come. -/
theorem Runs.can_proceed (runs : state.Runs index key slot) :
    ∃ moment after, state.run? [.wait moment, .proceed index] = some after := by
  obtain ⟨pending, present⟩ := runs
  refine ⟨pending.timer.due, ?_⟩
  have ended : World.isOver { state.world with clock := max state.world.clock pending.timer.due }
      pending.timer = true := decide_eq_true (Nat.le_max_right _ _)
  simp only [run?, List.foldlM_cons, step?, present, Call.step, Load.step, ended, bind,
    Option.bind_some, Bool.not_true, Bool.false_eq_true, ↓reduceIte]
  cases loaded key pending.outcome with
  | ok context => exact ⟨_, rfl⟩
  | error error => exact ⟨_, rfl⟩

/-- A call that has not come to a slot yet can go on, and so can one whose slot is filled. -/
theorem can_proceed_of_standing {call : Call} (present : state.calls[index]? = some call)
    (ready : (∃ key, call.phase = .arriving key) ∨ ∃ key number slot context,
      call.phase = .queued key number slot ∧
        (state.world.registry.cell slot).value = some context) :
    ∃ after, state.step? (.proceed index) = some after := by
  suffices some_ : ∃ outcome, call.step state.world = some outcome by
    obtain ⟨⟨world, call'⟩, moved⟩ := some_
    exact ⟨_, step?_proceed_eq_some_iff.mpr ⟨call, present, world, call', moved, rfl⟩⟩
  have found {slot : SlotId} {number : Nat} {context : ContextId}
      (filled : (state.world.registry.cell slot).value = some context) :
      state.world.registry.standing slot number = .found context := by
    simp only [Registry.standing, Cell.standing, filled]
  rcases ready with ⟨key, phase⟩ | ⟨key, number, slot, context, phase, filled⟩
  · rcases call with (_ | _ | _ | _) | (_ | _ | _) <;> cases phase <;> exact ⟨_, rfl⟩
  · rcases call with (_ | _ | _ | _) | (_ | _ | _) <;> cases phase
    · simp only [Call.step, Load.step, found filled]
      exact ⟨_, rfl⟩
    · simp only [Call.step, Update.step, found filled]
      exact ⟨_, rfl⟩

/-- Who works for a slot is a load that runs for it. -/
theorem runs_of_working
    (working : (state.calls.map Call.phase)[index]? = some (.working key slot)) :
    state.Runs index key slot := by
  rw [List.getElem?_map, Option.map_eq_some_iff] at working
  obtain ⟨call, present, phase⟩ := working
  rcases call with (_ | _ | _ | _) | (_ | _ | _) <;> cases phase
  exact ⟨_, present⟩

/-- As long as a call for a shared key has not returned, some call for the key can go on. -/
theorem Shared.can_proceed {keys : List String} (shared : state.Shared keys key)
    (listed : state.Listed keys) (tidy : state.IsTidy) {call : Call}
    (present : state.calls[index]? = some call) (asks : call.key? = some key) :
    ∃ moment other after, keys[other]? = some key ∧
      state.run? [.wait moment, .proceed other] = some after := by
  -- Time need not pass for a call that can go on at once.
  have at_once (ready : ∃ after, state.step? (.proceed index) = some after) :
      ∃ moment other after, keys[other]? = some key ∧
        state.run? [.wait moment, .proceed other] = some after := by
    obtain ⟨after, went⟩ := ready
    refine ⟨state.world.clock, index, after, listed.asks present asks, ?_⟩
    refine run?_cons_eq_some_iff.mpr ⟨state, ?_, run?_cons_eq_some_iff.mpr ⟨after, went, rfl⟩⟩
    simp only [step?, Nat.max_self]
  have in_time {worker : Nat} {slot : SlotId} (runs : state.Runs worker key slot) :
      ∃ moment other after, keys[other]? = some key ∧
        state.run? [.wait moment, .proceed other] = some after := by
    obtain ⟨moment, after, went⟩ := runs.can_proceed
    obtain ⟨pending, running⟩ := runs
    exact ⟨moment, worker, after, listed.asks running rfl, went⟩
  cases phase : call.phase with
  | arriving asked => exact at_once (can_proceed_of_standing present (.inl ⟨asked, phase⟩))
  | queued asked number slot =>
    have place : call.phase.place? = some (asked, slot) := by rw [phase]; rfl
    cases Option.some.inj ((Call.key?_of_place? place).symm.trans asks)
    cases value : (state.world.registry.cell slot).value with
    | some context =>
      exact at_once (can_proceed_of_standing present (.inr ⟨_, _, _, context, phase, value⟩))
    | none =>
      obtain ⟨worker, working⟩ := tidy.staffed (shared.placed present place) value
      exact in_time (runs_of_working working)
  | working asked slot =>
    have place : call.phase.place? = some (asked, slot) := by rw [phase]; rfl
    cases Option.some.inj ((Call.key?_of_place? place).symm.trans asks)
    have working : (state.calls.map Call.phase)[index]? = some (.working key slot) := by
      rw [Call.getElem?_map_phase present, phase]
    exact in_time (runs_of_working working)
  | returned =>
    rcases call with (_ | _ | _ | _) | (_ | _ | _) <;> cases phase <;> cases asks

/-- However the calls are interleaved, as long as no load of a key fails: one fetch for the key is
started at most; no call for the key takes more than three turns; each that has returned has
returned the document that is stored under the key; and while one has not returned, some call for
the key can take a turn, if only time has passed. -/
theorem calls_share_one_load (ran : (initial config source engines).run? events = some state)
    (unfailed : ∀ index : Nat, (keys events)[index]? = some key → ¬state.Failed index) :
    state.world.log.count key ≤ 1 ∧
      ∀ index : Nat, (keys events)[index]? = some key →
        turns index events ≤ 3 ∧ ∃ call, state.calls[index]? = some call ∧
          ((∃ context, call.result? = some context ∧
              state.world.registry.get? key = some context) ∨
            call.key? = some key ∧ ∃ (moment other : Nat) (after : Interleaving),
              (keys events)[other]? = some key ∧
                state.run? [.wait moment, .proceed other] = some after) := by
  have shared := shared_of_run ran unfailed
  have listed := listed_of_run ran
  refine ⟨shared.once, fun index asks => ?_⟩
  have arrived : index < state.calls.length :=
    listed.length ▸ (List.getElem?_eq_some_iff.mp asks).1
  have present : state.calls[index]? = some state.calls[index] := List.getElem?_eq_getElem arrived
  have taken := turns_le_of_run ran unfailed fun asked asks' =>
    Option.some.inj (asks'.symm.trans asks)
  refine ⟨Nat.le_trans (Nat.le_add_right _ _) taken, _, present, ?_⟩
  rcases Call.asks_or_returned state.calls[index] with
    ⟨asked, asks'⟩ | ⟨context, returned⟩ | ⟨error, failed⟩
  · obtain rfl : asked = key := Option.some.inj ((listed.asks present asks').symm.trans asks)
    exact .inr ⟨asks', shared.can_proceed listed (orderly_and_tidy ran).2 present asks'⟩
  · exact .inl ⟨context, returned, shared.stored present asks returned⟩
  · exact (unfailed index asks ⟨error, failed ▸ present⟩).elim

/-- Two loads of `mem:a` and an update come while a load of `mem:b` fails. The second load and the
update wait for the first load, and all three return the same document. -/
theorem calls_share_one_load_of_three : ∃ state : Interleaving,
    (initial .standard (Source.none.withDocument "mem:a" ⟨0, .ok ⟨"", .utf8⟩⟩) 1).run?
        [.load "mem:a", .update "mem:a" default, .load "mem:b", .load "mem:a", .proceed 0,
          .proceed 1, .proceed 2, .proceed 3, .proceed 2, .proceed 0, .proceed 3, .proceed 1] =
      some state ∧
    state.Failed 2 ∧ state.world.log = ["mem:b", "mem:a"] ∧
    state.calls[0]? = some (.load (.returned (.ok 1))) ∧
    state.calls[1]? = some (.update (.returned 1)) ∧
    state.calls[3]? = some (.load (.returned (.ok 1))) ∧
    state.world.registry.get? "mem:a" = some 1 := by
  obtain ⟨state, ran, ⟨error, failed⟩, log, first, second, third⟩ : ∃ state : Interleaving,
      (initial .standard (Source.none.withDocument "mem:a" ⟨0, .ok ⟨"", .utf8⟩⟩) 1).run?
          [.load "mem:a", .update "mem:a" default, .load "mem:b", .load "mem:a", .proceed 0,
            .proceed 1, .proceed 2, .proceed 3, .proceed 2, .proceed 0, .proceed 3, .proceed 1] =
        some state ∧
      state.Failed 2 ∧ state.world.log = ["mem:b", "mem:a"] ∧
      state.calls[0]? = some (.load (.returned (.ok 1))) ∧
      state.calls[1]? = some (.update (.returned 1)) ∧
      state.calls[3]? = some (.load (.returned (.ok 1))) :=
    ⟨_, rfl, ⟨_, rfl⟩, rfl, rfl, rfl, rfl⟩
  refine ⟨state, ran, ⟨error, failed⟩, log, first, second, third, ?_⟩
  have unfailed : ∀ index, ["mem:a", "mem:a", "mem:b", "mem:a"][index]? = some "mem:a" →
      ¬state.Failed index := by
    rintro (_ | _ | _ | _ | index) asks ⟨error, present⟩
    · rw [first] at present
      cases present
    · rw [second] at present
      cases present
    · simp at asks
    · rw [third] at present
      cases present
    · cases asks
  obtain ⟨-, answered⟩ := calls_share_one_load ran unfailed
  obtain ⟨-, call, present, ⟨context, returned, stored⟩ | ⟨asks, -⟩⟩ := answered 0 rfl
  · rw [first] at present
    cases present
    cases returned
    exact stored
  · rw [first] at present
    cases present
    cases asks

end Interleaving

end DiagramAssist
