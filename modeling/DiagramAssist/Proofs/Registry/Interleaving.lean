import DiagramAssist.Engine.Load
import DiagramAssist.Proofs.Registry.Attendance

/-! # Interleaved calls on a registry

Any number of loads and updates, for any keys, share a registry. They go on in any order, one step
at a time, where a step is what a call does between two waits. Time passes as it likes between the
steps, and the source may change at any moment, so that every fetch may bring anything.

What a step of a call can be is said once, by `Load.Turn` and `Update.Turn`.
-/

namespace DiagramAssist

inductive Call where
  | load (load : Load)
  | update (update : Update)

namespace Call

def step (world : World) : Call → Step Call
  | .load state => (state.step world).map fun (world, state) => (world, .load state)
  | .update state => (state.step world).map fun (world, state) => (world, .update state)

def phase : Call → Phase
  | .load (.arriving key) => .arriving key
  | .load (.queued key number slot) => .queued key number slot
  | .load (.fetching key slot _) => .working key slot
  | .load (.returned _) => .returned
  | .update (.arriving key _) => .arriving key
  | .update (.queued key _ number slot) => .queued key number slot
  | .update (.returned _) => .returned

/-- The document that an update still has to store, with its key. -/
def offer? : Call → Option (String × ContextId)
  | .update (.arriving key fresh) => some (key, fresh)
  | .update (.queued key fresh _ _) => some (key, fresh)
  | _ => none

theorem getElem?_map_phase {calls : List Call} {index : Nat} {call : Call}
    (present : calls[index]? = some call) : (calls.map phase)[index]? = some call.phase := by
  rw [List.getElem?_map, present]
  rfl

end Call

/-- Calls under way in a world that they share. -/
structure Interleaving where
  world : World
  calls : List Call

namespace Interleaving

inductive Event where
  /-- A load of a key arrives. -/
  | load (key : String)
  /-- An update arrives that stores a tree under a key. -/
  | update (key : String) (root : Root)
  /-- The call with this number goes on. -/
  | proceed (index : Nat)
  /-- The clock shows a later moment. -/
  | wait (moment : Nat)
  /-- From now on fetches are answered by another source. -/
  | change (source : Source)

/-- No calls yet, and nothing stored. -/
def initial (config : Config) (source : Source) (engines : Nat) : Interleaving :=
  ⟨.initial config source engines, []⟩

/-- What an event leads to. A call that waits or has returned cannot go on. -/
def step? (state : Interleaving) : Event → Option Interleaving
  | .load key => some { state with calls := state.calls ++ [.load (.arriving key)] }
  | .update key root =>
    let (world, update) := Update.begin state.world key root
    some ⟨world, state.calls ++ [.update update]⟩
  | .proceed index => do
    let call ← state.calls[index]?
    let (world, call) ← call.step state.world
    return ⟨world, state.calls.set index call⟩
  | .wait moment => some { state with world.clock := max state.world.clock moment }
  | .change source => some { state with world.source := source }

def run? (state : Interleaving) (events : List Event) : Option Interleaving :=
  events.foldlM step? state

theorem step?_proceed_eq_some_iff {state after : Interleaving} {index : Nat} :
    state.step? (.proceed index) = some after ↔
      ∃ call, state.calls[index]? = some call ∧ ∃ world call',
        call.step state.world = some (world, call') ∧
          (⟨world, state.calls.set index call'⟩ : Interleaving) = after := by
  simp only [step?, bind, Option.bind_eq_some_iff, Prod.exists, pure, Option.some.injEq]

section Runs

variable {state after : Interleaving} {event : Event} {events : List Event}

theorem run?_cons_eq_some_iff : state.run? (event :: events) = some after ↔
    ∃ next, state.step? event = some next ∧ next.run? events = some after := by
  simp only [run?, List.foldlM_cons, bind, Option.bind_eq_some_iff]

theorem run?_concat_eq_some_iff : state.run? (events ++ [event]) = some after ↔
    ∃ last, state.run? events = some last ∧ last.step? event = some after := by
  simp only [run?, List.foldlM_append, List.foldlM_cons, List.foldlM_nil, bind,
    Option.bind_eq_some_iff, pure, Option.some.injEq, exists_eq_right]

theorem run?_append_eq_some_iff {later : List Event} :
    state.run? (events ++ later) = some after ↔
      ∃ middle, state.run? events = some middle ∧ middle.run? later = some after := by
  simp only [run?, List.foldlM_append, bind, Option.bind_eq_some_iff]

/-- What every step keeps is kept by every run. -/
theorem run?_invariant {Invariant : Interleaving → Prop}
    (kept : ∀ {state after : Interleaving} {event : Event}, Invariant state →
      state.step? event = some after → Invariant after)
    (first : Invariant state) (ran : state.run? events = some after) : Invariant after := by
  induction events generalizing state with
  | nil =>
    cases ran
    exact first
  | cons event rest ih =>
    obtain ⟨next, went, ran⟩ := run?_cons_eq_some_iff.mp ran
    exact ih (kept first went) ran

end Runs

end Interleaving

/-! ## What a step of a call can be -/

namespace Load

/-- A load asks for its key; or it has queued, and gets the document or has to work it out itself;
or its fetch is over, and it stores what it has fetched or fails. -/
inductive Turn (world : World) : Load → World × Load → Prop where
  | arrive {key : String} {registry : Registry} {slot : SlotId} {standing : Cell.Standing ContextId}
      (arrival : world.registry.Arrival key world.nextCall registry slot standing) :
      Turn world (.arriving key)
        (proceed { world with registry, nextCall := world.nextCall + 1 } key world.nextCall slot
          standing)
  | receive {key : String} {number : Nat} {slot : SlotId} {context : ContextId}
      (filled : (world.registry.cell slot).value = some context) :
      Turn world (.queued key number slot) (world, .returned (.ok context))
  | takeOver {key : String} {number : Nat} {slot : SlotId}
      (empty : (world.registry.cell slot).value = none)
      (held : (world.registry.cell slot).holder = some number) :
      Turn world (.queued key number slot)
        ((world.fetchDocument key).1, .fetching key slot (world.fetchDocument key).2)
  | deliver {key : String} {slot : SlotId} {pending : Pending Payload} {context : Context}
      (ended : world.isOver pending.timer = true)
      (good : loaded key pending.outcome = .ok context) :
      Turn world (.fetching key slot pending)
        ({ world with
            store := (world.store.add context).1
            registry := world.registry.succeed slot world.store.length },
          .returned (.ok world.store.length))
  | fail {key : String} {slot : SlotId} {pending : Pending Payload} {error : LoadError}
      (ended : world.isOver pending.timer = true)
      (bad : loaded key pending.outcome = .error error) :
      Turn world (.fetching key slot pending)
        ({ world with registry := world.registry.fail key slot }, .returned (.error error))

theorem step_turn {world : World} {state : Load} {outcome : World × Load}
    (went : state.step world = some outcome) : Turn world state outcome := by
  cases state with
  | arriving key =>
    have arrival := Registry.arrive_arrival world.registry key world.nextCall
    cases went
    exact .arrive arrival
  | queued key number slot =>
    rcases world.registry.standing_cases slot number with
      ⟨context, filled, standing⟩ | ⟨empty, held, standing⟩ | ⟨-, -, standing⟩
    · simp only [step, standing] at went
      cases went
      exact .receive filled
    · simp only [step, standing] at went
      cases went
      exact .takeOver empty held
    · simp only [step, standing] at went
      cases went
  | fetching key slot pending =>
    simp only [step] at went
    by_cases ended : world.isOver pending.timer = true
    · simp only [ended, Bool.not_true, Bool.false_eq_true, ↓reduceIte] at went
      cases fetched : loaded key pending.outcome with
      | ok context =>
        rw [fetched] at went
        cases went
        exact .deliver ended fetched
      | error error =>
        rw [fetched] at went
        cases went
        exact .fail ended fetched
    · simp only [Bool.eq_false_iff.mpr ended, Bool.not_false, ↓reduceIte] at went
      cases went
  | returned result => cases went

/-- How many steps a load still takes at most. -/
def rank : Load → Nat
  | .arriving _ => 3
  | .queued _ _ _ => 2
  | .fetching _ _ _ => 1
  | .returned _ => 0

theorem rank_proceed_le (world : World) (key : String) (call : Nat) (slot : SlotId)
    (standing : Cell.Standing ContextId) : (proceed world key call slot standing).2.rank ≤ 2 := by
  cases standing <;> simp [proceed, rank]

theorem Turn.rank_lt {world : World} {load : Load} {outcome : World × Load}
    (turn : Turn world load outcome) : outcome.2.rank < load.rank := by
  cases turn with
  | arrive arrival => exact Nat.lt_succ_of_le (rank_proceed_le _ _ _ _ _)
  | receive filled => exact Nat.zero_lt_two
  | takeOver empty held => exact Nat.one_lt_two
  | deliver ended good => exact Nat.zero_lt_one
  | fail ended bad => exact Nat.zero_lt_one

/-- A fetch brings a document that has been parsed from the text of its payload. -/
theorem text_of_loaded {key : String} {outcome : Except FetchError Payload} {context : Context}
    (good : loaded key outcome = .ok context) :
    ∃ payload text root, outcome = .ok payload ∧ payload.decode key = .ok text ∧
      parse text = .ok root ∧ context = .fresh (some key) root := by
  cases outcome with
  | error error => cases good
  | ok payload =>
    simp only [loaded, Payload.toContext] at good
    split at good
    · cases good
    · next text decoded =>
      split at good
      · cases good
      · next root parsed =>
        cases good
        exact ⟨payload, text, root, rfl, decoded, parsed, rfl⟩

/-- A fetch brings a document of which only the tree is known. -/
theorem fresh_of_loaded {key : String} {outcome : Except FetchError Payload} {context : Context}
    (good : loaded key outcome = .ok context) : ∃ root, context = .fresh (some key) root := by
  obtain ⟨_, _, root, -, -, -, fresh⟩ := text_of_loaded good
  exact ⟨root, fresh⟩

/-- A fetch brings a document with the key it was made for. -/
theorem key_of_loaded {key : String} {outcome : Except FetchError Payload} {context : Context}
    (good : loaded key outcome = .ok context) : context.key = some key := by
  obtain ⟨root, rfl⟩ := fresh_of_loaded good
  rfl

end Load

namespace Update

/-- An update asks for its key; or it has queued, and finds the slot filled or fills it itself. -/
inductive Turn (world : World) : Update → World × Update → Prop where
  | arrive {key : String} {fresh : ContextId} {registry : Registry} {slot : SlotId}
      {standing : Cell.Standing ContextId}
      (arrival : world.registry.Arrival key world.nextCall registry slot standing) :
      Turn world (.arriving key fresh)
        (proceed { world with registry, nextCall := world.nextCall + 1 } key fresh world.nextCall
          slot standing)
  | receive {key : String} {fresh : ContextId} {number : Nat} {slot : SlotId} {context : ContextId}
      (filled : (world.registry.cell slot).value = some context) :
      Turn world (.queued key fresh number slot) (settle world key fresh slot context)
  | takeOver {key : String} {fresh : ContextId} {number : Nat} {slot : SlotId}
      (empty : (world.registry.cell slot).value = none)
      (held : (world.registry.cell slot).holder = some number) :
      Turn world (.queued key fresh number slot)
        (settle { world with registry := world.registry.succeed slot fresh } key fresh slot fresh)

theorem step_turn {world : World} {state : Update} {outcome : World × Update}
    (went : state.step world = some outcome) : Turn world state outcome := by
  cases state with
  | arriving key fresh =>
    have arrival := Registry.arrive_arrival world.registry key world.nextCall
    cases went
    exact .arrive arrival
  | queued key fresh number slot =>
    rcases world.registry.standing_cases slot number with
      ⟨context, filled, standing⟩ | ⟨empty, held, standing⟩ | ⟨-, -, standing⟩
    · simp only [step, standing] at went
      cases went
      exact .receive filled
    · simp only [step, standing] at went
      cases went
      exact .takeOver empty held
    · simp only [step, standing] at went
      cases went
  | returned context => cases went

end Update

namespace Interleaving

variable {state after : Interleaving} {event : Event} {index : Nat}

/-- When a call goes on, a load or an update takes a turn, and the other calls stay as they are. -/
theorem step?_proceed_turn
    (went : state.step? (.proceed index) = some after) :
    (∃ load outcome, state.calls[index]? = some (.load load) ∧
        Load.Turn state.world load outcome ∧
        after = ⟨outcome.1, state.calls.set index (.load outcome.2)⟩) ∨
      ∃ update outcome, state.calls[index]? = some (.update update) ∧
        Update.Turn state.world update outcome ∧
        after = ⟨outcome.1, state.calls.set index (.update outcome.2)⟩ := by
  obtain ⟨call, present, world, call', moved, rfl⟩ := step?_proceed_eq_some_iff.mp went
  cases call with
  | load load =>
    obtain ⟨outcome, turned, same⟩ := Option.map_eq_some_iff.mp moved
    cases same
    exact .inl ⟨load, outcome, present, Load.step_turn turned, rfl⟩
  | update update =>
    obtain ⟨outcome, turned, same⟩ := Option.map_eq_some_iff.mp moved
    cases same
    exact .inr ⟨update, outcome, present, Update.step_turn turned, rfl⟩

/-- A call stays as it is until it goes on itself. -/
theorem step?_calls_of_ne {call : Call} (went : state.step? event = some after)
    (other : event ≠ .proceed index) (present : state.calls[index]? = some call) :
    after.calls[index]? = some call := by
  cases event with
  | load key =>
    cases went
    exact (getElem?_concat_eq_some _ _ _ _).mpr (.inl present)
  | update key root =>
    cases went
    exact (getElem?_concat_eq_some _ _ _ _).mpr (.inl present)
  | proceed moved =>
    have different : moved ≠ index := fun same => other (congrArg Event.proceed same)
    obtain ⟨_, -, _, _, -, rfl⟩ := step?_proceed_eq_some_iff.mp went
    rwa [List.getElem?_set_ne different]
  | wait moment =>
    cases went
    exact present
  | change source =>
    cases went
    exact present

/-- An update that has returned does not go on. -/
theorem step?_proceed_of_returned {context : ContextId}
    (returned : state.calls[index]? = some (.update (.returned context))) :
    state.step? (.proceed index) = none := by
  simp only [step?, returned]
  rfl

end Interleaving

end DiagramAssist
