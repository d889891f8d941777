import DiagramAssist.Proofs.Engine.Traffic

/-! # The listing is fetched once

Any number of calls on the library of an engine want its listing: the whole of it, the modules whose
path starts with something, or the address of a module. They go on in any order, one step at a time.
Time passes as it likes between the steps, and the source may change at any moment, so that every
fetch may succeed, fail or take too long.

A record is kept of the fetches. It is a row of fetches that failed, each begun and ended by one
call, and behind them at most one fetch that is under way or has succeeded (`Recorded`). The call
that is to fetch is the one for which the cell is held, so nobody begins a fetch while another is
under way, and nobody begins one when the cell is filled.
-/

namespace DiagramAssist

/-- A call on the library: what is read off the listing, and how far the call has got with it. -/
structure LibraryCall where
  goal : LibraryGoal
  lookup : Lookup

/-- The answer of a call that has one. -/
def LibraryCall.reply? (config : Config) : LibraryCall → Option Reply
  | ⟨goal, .returned result⟩ => some (Task.libraryReply config goal result)
  | _ => none

/-- What happens to a fetch of the listing. -/
inductive FetchEvent where
  | begun (call : Nat)
  | ended (call : Nat) (outcome : Except FetchError (List LibraryEntry))

/-- Calls on the library under way, in a world that they share, with a record of their fetches. -/
structure LibraryTraffic where
  world : World
  calls : List LibraryCall
  record : List FetchEvent

namespace LibraryTraffic

inductive Event where
  /-- Another call arrives. -/
  | ask (goal : LibraryGoal)
  /-- The call with this number goes on. -/
  | proceed (call : Nat)
  /-- The clock shows a later moment. -/
  | wait (moment : Nat)
  /-- From now on fetches are answered by another source. -/
  | change (source : Source)

def initial (config : Config) (source : Source) (engines : Nat) : LibraryTraffic :=
  ⟨.initial config source engines, [], []⟩

/-- What a step of a call adds to the record. -/
def recorded (call : Nat) : Lookup → Lookup → List FetchEvent
  | .fetching pending, .returned _ => [.ended call pending.outcome]
  | _, .fetching _ => [.begun call]
  | _, _ => []

/-- What an event leads to, at the library of an engine. A call that waits or has returned cannot go
on. -/
def step? (engine : Nat) (state : LibraryTraffic) : Event → Option LibraryTraffic
  | .ask goal => some { state with calls := state.calls ++ [⟨goal, .arriving⟩] }
  | .proceed call => do
    let caller ← state.calls[call]?
    let (world, lookup) ← caller.lookup.step engine state.world
    return ⟨world, state.calls.set call { caller with lookup },
      state.record ++ recorded call caller.lookup lookup⟩
  | .wait moment => some { state with world.clock := max state.world.clock moment }
  | .change source => some { state with world.source := source }

def run? (engine : Nat) (state : LibraryTraffic) (events : List Event) : Option LibraryTraffic :=
  events.foldlM (step? engine) state

/-- How far a call has got with the listing. -/
def lookup? (state : LibraryTraffic) (call : Nat) : Option Lookup :=
  state.calls[call]?.map (·.lookup)

def IsFetching (state : LibraryTraffic) (call : Nat) : Prop :=
  ∃ pending, state.lookup? call = some (.fetching pending)

end LibraryTraffic

namespace FetchEvent

/-- The calls that have begun a fetch. -/
def begun? : FetchEvent → Option Nat
  | .begun call => some call
  | _ => none

/-- A fetch that is over, with the call that ran it. -/
def ended? : FetchEvent → Option (Nat × Except FetchError (List LibraryEntry))
  | .ended call outcome => some (call, outcome)
  | _ => none

/-- A fetch that failed, with the call that ran it. -/
def failed? : FetchEvent → Option (Nat × FetchError)
  | .ended call (.error error) => some (call, error)
  | _ => none

/-- A fetch that succeeded, with the call that ran it. -/
def succeeded? : FetchEvent → Option (Nat × List LibraryEntry)
  | .ended call (.ok entries) => some (call, entries)
  | _ => none

def failedFetch : Nat × FetchError → List FetchEvent
  | (call, error) => [.begun call, .ended call (.error error)]

end FetchEvent

/-! ## The record of the fetches -/

/-- How it stands with the listing after the fetches that failed. -/
inductive FetchStage where
  | idle
  | fetching (call : Nat)
  | fetched (call : Nat) (entries : List LibraryEntry)

namespace FetchStage

/-- The record of the last fetch, unless it failed. -/
def record : FetchStage → List FetchEvent
  | .idle => []
  | .fetching call => [.begun call]
  | .fetched call entries => [.begun call, .ended call (.ok entries)]

/-- The listing that has been fetched. -/
def listing? : FetchStage → Option (List LibraryEntry)
  | .fetched _ entries => some entries
  | _ => none

/-- The call that has fetched the listing, and the listing. -/
def success? : FetchStage → Option (Nat × List LibraryEntry)
  | .fetched call entries => some (call, entries)
  | _ => none

def fetcher? : FetchStage → Option Nat
  | .fetching call => some call
  | _ => none

end FetchStage

namespace LibraryTraffic

def clients (engine : Nat) (calls : List LibraryCall) : Attendance :=
  (calls.map fun caller => caller.lookup.clients engine).sum

/-- There is such an engine, and the calls are at its library in order. -/
structure Orderly (engine : Nat) (state : LibraryTraffic) : Prop where
  known : engine < state.world.libraries.length
  world : state.world.Orderly [] (clients engine state.calls)

/-- The record is a row of failures and what has come of the last fetch; and the calls and the cell
are as the record says. -/
structure Recorded (engine : Nat) (failures : List (Nat × FetchError)) (stage : FetchStage)
    (state : LibraryTraffic) : Prop where
  record : state.record = failures.flatMap FetchEvent.failedFetch ++ stage.record
  logged : (state.record.filterMap FetchEvent.begun?).length = state.world.log.count "<index>"
  listing : (state.world.library engine).value = stage.listing?
  fetching : ∀ call, state.IsFetching call ↔ stage = .fetching call
  failed : ∀ call error,
    state.lookup? call = some (.returned (.error error)) ↔ (call, error) ∈ failures
  distinct : (failures.map Prod.fst).Nodup
  obtained : ∀ call entries,
    state.lookup? call = some (.returned (.ok entries)) → stage.listing? = some entries

variable {engine call : Nat} {failures : List (Nat × FetchError)} {stage : FetchStage}
  {state after : LibraryTraffic} {event : Event} {events : List Event}

section Runs

theorem run?_cons_eq_some_iff : state.run? engine (event :: events) = some after ↔
    ∃ next, state.step? engine event = some next ∧ next.run? engine events = some after := by
  simp only [run?, List.foldlM_cons, bind, Option.bind_eq_some_iff]

theorem step?_proceed_eq_some_iff :
    state.step? engine (.proceed call) = some after ↔
      ∃ caller, state.calls[call]? = some caller ∧ ∃ outcome,
        caller.lookup.step engine state.world = some outcome ∧
          (⟨outcome.1, state.calls.set call { caller with lookup := outcome.2 },
            state.record ++ recorded call caller.lookup outcome.2⟩ : LibraryTraffic) = after := by
  simp only [step?, bind, Option.bind_eq_some_iff, Prod.exists, pure, Option.some.injEq]

end Runs

/-! ## Order at the library -/

theorem orderly_initial {config : Config} {source : Source} {engines : Nat}
    (known : engine < engines) : (initial config source engines).Orderly engine where
  known := by simpa [initial, World.initial] using known
  world := World.orderly_initial config source engines

/-- What a step leads to is as orderly as before. -/
theorem Orderly.step (orderly : state.Orderly engine)
    (went : state.step? engine event = some after) : after.Orderly engine := by
  cases event with
  | ask goal =>
    cases went
    refine ⟨orderly.known, ?_⟩
    simpa [clients, Lookup.clients] using orderly.world
  | proceed call =>
    obtain ⟨caller, present, outcome, moved, rfl⟩ := step?_proceed_eq_some_iff.mp went
    obtain ⟨others, whole, replaced⟩ :=
      Traffic.exists_sum_others (fun caller : LibraryCall => caller.lookup.clients engine) present
    have ordered := orderly.world
    rw [clients, whole] at ordered
    have leads := (Lookup.step_turn moved).leads ordered orderly.known
    refine ⟨leads.onward.libraries ▸ orderly.known, ?_⟩
    rw [clients, replaced]
    exact leads.orderly
  | wait moment =>
    cases went
    refine ⟨orderly.known, (orderly.world.later ?_ ?_ ?_ ?_ ?_).orderly⟩
    exacts [rfl, rfl, rfl, rfl, Nat.le_refl _]
  | change source =>
    cases went
    refine ⟨orderly.known, (orderly.world.later ?_ ?_ ?_ ?_ ?_).orderly⟩
    exacts [rfl, rfl, rfl, rfl, Nat.le_refl _]

/-- A call is among those at the library. -/
theorem mem_clients {lookup : Lookup} (present : state.lookup? call = some lookup)
    {client : Post × Cell.Client} (listed : client ∈ lookup.clients engine) :
    client ∈ clients engine state.calls := by
  obtain ⟨caller, found, rfl⟩ := Option.map_eq_some_iff.mp present
  obtain ⟨others, whole, -⟩ :=
    Traffic.exists_sum_others (fun caller : LibraryCall => caller.lookup.clients engine) found
  rw [clients, whole]
  exact Multiset.mem_add.mpr (.inl listed)

namespace Orderly

/-- The calls at the library are those that its cell is for. -/
theorem served (orderly : state.Orderly engine) :
    (state.world.library engine).shape.Served state.world.nextCall
      (clientsAt (.library engine) (clients engine state.calls)) :=
  orderly.world.staffed (.library engine)

theorem working_of_isFetching (fetches : state.IsFetching call) :
    .working ∈ clientsAt (.library engine) (clients engine state.calls) := by
  obtain ⟨pending, fetches⟩ := fetches
  exact mem_clientsAt.mpr (mem_clients fetches (Multiset.mem_singleton_self _))

/-- Nobody fetches where the cell is free. -/
theorem not_isFetching_of_free (orderly : state.Orderly engine)
    (empty : (state.world.library engine).value = none)
    (free : (state.world.library engine).holder = none) : ¬state.IsFetching call := by
  intro fetches
  rcases orderly.served.taken (working_of_isFetching fetches) with filled | held
  · exact filled (Cell.value_shape_eq_none.mpr empty)
  · exact held free

/-- Nobody fetches before the call has gone on that is to fetch. -/
theorem not_isFetching_of_queued (orderly : state.Orderly engine) {holder number : Nat}
    (waits : state.lookup? holder = some (.queued number))
    (held : (state.world.library engine).holder = some number) : ¬state.IsFetching call := by
  intro fetches
  have waiting : .waiting number ∈ clientsAt (.library engine) (clients engine state.calls) :=
    mem_clientsAt.mpr (mem_clients waits (Multiset.mem_singleton_self _))
  exact orderly.served.idle_of_waiting held waiting (working_of_isFetching fetches)

end Orderly

/-! ## One step of a call -/

/-- One call goes from one lookup to another, and all other calls stay as they are. -/
structure Moves (call : Nat) (old new : Lookup) (state after : LibraryTraffic) : Prop where
  before : state.lookup? call = some old
  behind : after.lookup? call = some new
  others : ∀ other, other ≠ call → after.lookup? other = state.lookup? other

namespace Moves

variable {old new : Lookup}

theorem lookup?_eq_some_iff (moves : Moves call old new state after) {other : Nat}
    {lookup : Lookup} : after.lookup? other = some lookup ↔
      (other = call ∧ new = lookup) ∨ (other ≠ call ∧ state.lookup? other = some lookup) := by
  by_cases here : other = call
  · subst here
    simp [moves.behind]
  · simp [moves.others other here, here]

/-- A call that neither fetches nor has returned is not in the way of what is known of a lookup. -/
theorem lookup?_eq_some_iff_of_ne (moves : Moves call old new state after) {lookup : Lookup}
    (notOld : old ≠ lookup) (notNew : new ≠ lookup) (other : Nat) :
    after.lookup? other = some lookup ↔ state.lookup? other = some lookup := by
  rw [moves.lookup?_eq_some_iff]
  constructor
  · rintro (⟨-, same⟩ | ⟨-, there⟩)
    · exact (notNew same).elim
    · exact there
  · intro there
    refine .inr ⟨?_, there⟩
    rintro rfl
    exact notOld (Option.some.inj (moves.before.symm.trans there))

/-- A call fetches after a step if it did before, unless it is the one that went on. -/
theorem isFetching_iff_of_ne (moves : Moves call old new state after)
    (notOld : ∀ pending, old ≠ .fetching pending) (notNew : ∀ pending, new ≠ .fetching pending)
    (other : Nat) : after.IsFetching other ↔ state.IsFetching other :=
  exists_congr fun pending =>
    moves.lookup?_eq_some_iff_of_ne (notOld pending) (notNew pending) other

end Moves

/-- A call that goes on moves alone. -/
theorem moves_set {goal : LibraryGoal} {old : Lookup}
    (present : state.calls[call]? = some ⟨goal, old⟩) (world : World) (new : Lookup)
    (record : List FetchEvent) :
    Moves call old new state ⟨world, state.calls.set call ⟨goal, new⟩, record⟩ where
  before := by rw [lookup?, present, Option.map_some]
  behind := by
    rw [lookup?, List.getElem?_set_self (List.getElem?_eq_some_iff.mp present).1, Option.map_some]
  others other different := by rw [lookup?, lookup?, List.getElem?_set_ne different.symm]

/-- A call goes on that neither begins nor ends a fetch; if it gets a listing, then the one that has
been fetched. -/
theorem Recorded.quiet {old new : Lookup} (recorded : state.Recorded engine failures stage)
    (moves : Moves call old new state after) (record : after.record = state.record)
    (log : after.world.log = state.world.log)
    (value : (after.world.library engine).value = (state.world.library engine).value)
    (before : ∀ pending, old ≠ .fetching pending) (behind : ∀ pending, new ≠ .fetching pending)
    (ahead : ∀ result, old ≠ .returned result)
    (gets : ∀ result, new = .returned result →
      ∃ entries, result = .ok entries ∧ stage.listing? = some entries) :
    after.Recorded engine failures stage where
  record := record.trans recorded.record
  logged := by rw [record, log, recorded.logged]
  listing := value.trans recorded.listing
  fetching other := (moves.isFetching_iff_of_ne before behind other).trans (recorded.fetching other)
  failed other error := by
    refine (moves.lookup?_eq_some_iff_of_ne (ahead _) (fun same => ?_) other).trans
      (recorded.failed other error)
    obtain ⟨entries, wrong, -⟩ := gets _ same
    cases wrong
  distinct := recorded.distinct
  obtained other entries got := by
    rcases moves.lookup?_eq_some_iff.mp got with ⟨-, same⟩ | ⟨-, got⟩
    · obtain ⟨fetched, same, known⟩ := gets _ same
      cases same
      exact known
    · exact recorded.obtained other entries got

/-- As many fetches are logged as are begun. -/
theorem Recorded.count (recorded : state.Recorded engine failures stage)
    {events : List FetchEvent} (more : List String) (record : after.record = state.record ++ events)
    (log : after.world.log = more ++ state.world.log)
    (same : (events.filterMap FetchEvent.begun?).length = more.count "<index>") :
    (after.record.filterMap FetchEvent.begun?).length = after.world.log.count "<index>" := by
  rw [record, log, List.filterMap_append, List.length_append, List.count_append, recorded.logged,
    same, Nat.add_comm]

/-- A call begins a fetch, where nobody fetches and nothing has been fetched. -/
theorem Recorded.begins {old : Lookup} {pending : Pending (List LibraryEntry)}
    (recorded : state.Recorded engine failures stage)
    (moves : Moves call old (.fetching pending) state after)
    (record : after.record = state.record ++ [.begun call])
    (log : after.world.log = "<index>" :: state.world.log)
    (value : (after.world.library engine).value = (state.world.library engine).value)
    (ahead : ∀ result, old ≠ .returned result) (empty : (state.world.library engine).value = none)
    (alone : ∀ other, ¬state.IsFetching other) :
    after.Recorded engine failures (.fetching call) := by
  have idle : stage = .idle := by
    cases stage with
    | idle => rfl
    | fetching other => exact (alone other ((recorded.fetching other).mpr rfl)).elim
    | fetched other entries =>
      have filled := recorded.listing
      rw [empty] at filled
      cases filled
  subst idle
  constructor
  case record =>
    rw [record, recorded.record]
    simp [FetchStage.record]
  case logged => exact recorded.count ["<index>"] record log rfl
  case listing => exact value.trans recorded.listing
  case fetching =>
    intro other
    constructor
    · rintro ⟨pending', fetches⟩
      rcases moves.lookup?_eq_some_iff.mp fetches with ⟨rfl, -⟩ | ⟨-, fetches⟩
      · rfl
      · exact (alone other ⟨pending', fetches⟩).elim
    · intro same
      cases same
      exact ⟨pending, moves.behind⟩
  case failed =>
    exact fun other error => (moves.lookup?_eq_some_iff_of_ne (ahead _) (by simp) other).trans
      (recorded.failed other error)
  case distinct => exact recorded.distinct
  case obtained =>
    intro other entries got
    rw [moves.lookup?_eq_some_iff_of_ne (ahead _) (by simp)] at got
    exact recorded.obtained other entries got

/-- After the only fetch is over, nobody fetches. -/
theorem Recorded.alone {pending : Pending (List LibraryEntry)}
    {result : Except FetchError (List LibraryEntry)}
    (recorded : state.Recorded engine failures (.fetching call))
    (moves : Moves call (.fetching pending) (.returned result) state after) (other : Nat) :
    ¬after.IsFetching other := by
  rintro ⟨pending', fetches⟩
  rcases moves.lookup?_eq_some_iff.mp fetches with ⟨-, same⟩ | ⟨different, fetches⟩
  · cases same
  · cases (recorded.fetching other).mp ⟨pending', fetches⟩
    exact different rfl

/-- The fetch of the listing succeeds. -/
theorem Recorded.delivers {pending : Pending (List LibraryEntry)} {entries : List LibraryEntry}
    (recorded : state.Recorded engine failures stage)
    (moves : Moves call (.fetching pending) (.returned (.ok entries)) state after)
    (record : after.record = state.record ++ [.ended call (.ok entries)])
    (log : after.world.log = state.world.log)
    (value : (after.world.library engine).value = some entries) :
    after.Recorded engine failures (.fetched call entries) := by
  have underway : stage = .fetching call := (recorded.fetching call).mp ⟨pending, moves.before⟩
  subst underway
  constructor
  case record =>
    rw [record, recorded.record]
    simp [FetchStage.record]
  case logged => exact recorded.count [] record log rfl
  case listing => exact value
  case fetching => exact fun other => iff_of_false (recorded.alone moves other) nofun
  case failed =>
    exact fun other error => (moves.lookup?_eq_some_iff_of_ne (by simp) (by simp) other).trans
      (recorded.failed other error)
  case distinct => exact recorded.distinct
  case obtained =>
    intro other entries' got
    rcases moves.lookup?_eq_some_iff.mp got with ⟨-, same⟩ | ⟨-, got⟩
    · cases same
      rfl
    · cases recorded.obtained other entries' got

/-- The fetch of the listing fails. -/
theorem Recorded.fails {pending : Pending (List LibraryEntry)} {error : FetchError}
    (recorded : state.Recorded engine failures stage)
    (moves : Moves call (.fetching pending) (.returned (.error error)) state after)
    (record : after.record = state.record ++ [.ended call (.error error)])
    (log : after.world.log = state.world.log)
    (value : (after.world.library engine).value = (state.world.library engine).value) :
    after.Recorded engine (failures ++ [(call, error)]) .idle := by
  have underway : stage = .fetching call := (recorded.fetching call).mp ⟨pending, moves.before⟩
  subst underway
  have new : call ∉ failures.map Prod.fst := by
    intro there
    obtain ⟨⟨other, error⟩, listed, rfl⟩ := List.mem_map.mp there
    cases ((recorded.failed other error).mpr listed).symm.trans moves.before
  constructor
  case record =>
    rw [record, recorded.record]
    simp [FetchStage.record, FetchEvent.failedFetch]
  case logged => exact recorded.count [] record log rfl
  case listing => exact value.trans recorded.listing
  case fetching => exact fun other => iff_of_false (recorded.alone moves other) nofun
  case failed =>
    intro other error'
    rw [moves.lookup?_eq_some_iff, recorded.failed, List.mem_append, List.mem_singleton,
      Prod.mk.injEq]
    constructor
    · rintro (⟨rfl, same⟩ | ⟨-, listed⟩)
      · cases same
        exact .inr ⟨rfl, rfl⟩
      · exact .inl listed
    · rintro (listed | ⟨rfl, rfl⟩)
      · refine .inr ⟨?_, listed⟩
        rintro rfl
        exact new (List.mem_map_of_mem listed)
      · exact .inl ⟨rfl, rfl⟩
  case distinct =>
    rw [List.map_append, List.map_singleton, ← List.concat_eq_append]
    exact recorded.distinct.concat new
  case obtained =>
    intro other entries got
    rw [moves.lookup?_eq_some_iff_of_ne (by simp) (by simp)] at got
    exact recorded.obtained other entries got

/-- Whatever a call does next is recorded. -/
theorem Recorded.turn {goal : LibraryGoal} {lookup : Lookup} {outcome : World × Lookup}
    (orderly : state.Orderly engine) (recorded : state.Recorded engine failures stage)
    (present : state.calls[call]? = some ⟨goal, lookup⟩)
    (turn : Lookup.Turn engine state.world lookup outcome) :
    ∃ failures' stage', Recorded engine failures' stage' ⟨outcome.1,
      state.calls.set call ⟨goal, outcome.2⟩,
      state.record ++ LibraryTraffic.recorded call lookup outcome.2⟩ := by
  have moves := moves_set present outcome.1 outcome.2
    (state.record ++ LibraryTraffic.recorded call lookup outcome.2)
  have stored {world : World} {cell : Cell (List LibraryEntry)}
      (known : engine < world.libraries.length) :
      ((world.setLibrary engine cell).library engine).value = cell.value :=
    congrArg Cell.value (World.Orderly.library_setLibrary_self known)
  cases turn with
  | @arrive cell standing entry =>
    cases entry with
    | found known =>
      refine ⟨_, _, recorded.quiet moves (List.append_nil _) rfl (stored orderly.known)
        (by simp) (by simp [Lookup.proceed]) (by simp) fun result same => ?_⟩
      cases same
      exact ⟨_, rfl, recorded.listing ▸ known⟩
    | queued empty held =>
      exact ⟨_, _, recorded.quiet moves (List.append_nil _) rfl (stored orderly.known)
        (by simp) (by simp [Lookup.proceed]) (by simp) (by simp [Lookup.proceed])⟩
    | holding empty free =>
      exact ⟨_, _, recorded.begins moves rfl rfl (stored orderly.known) (by simp) empty
        fun other => orderly.not_isFetching_of_free empty free⟩
  | receive filled =>
    refine ⟨_, _, recorded.quiet moves (List.append_nil _) rfl rfl (by simp) (by simp) (by simp)
      fun result same => ?_⟩
    cases same
    exact ⟨_, rfl, recorded.listing ▸ filled⟩
  | takeOver empty held =>
    exact ⟨_, _, recorded.begins moves rfl rfl rfl (by simp) empty
      fun other => orderly.not_isFetching_of_queued moves.before held⟩
  | deliver ended good =>
    refine ⟨_, _, recorded.delivers moves ?_ rfl (stored orderly.known)⟩
    simp only [LibraryTraffic.recorded, good]
  | fail ended bad =>
    refine ⟨_, _, recorded.fails moves ?_ rfl ((stored orderly.known).trans ?_)⟩
    · simp only [LibraryTraffic.recorded, bad]
    · exact Cell.value_release _

/-- What a step leads to is recorded. -/
theorem Recorded.step (orderly : state.Orderly engine)
    (recorded : state.Recorded engine failures stage)
    (went : state.step? engine event = some after) :
    ∃ failures' stage', after.Recorded engine failures' stage' := by
  cases event with
  | ask goal =>
    cases went
    have added (call : Nat) {lookup : Lookup} (further : .arriving ≠ lookup) :
        lookup? { state with calls := state.calls ++ [⟨goal, .arriving⟩] } call = some lookup ↔
          state.lookup? call = some lookup := by
      rw [lookup?, lookup?, ← List.getElem?_map, ← List.getElem?_map, List.map_append,
        List.map_singleton, getElem?_concat_eq_some]
      simp [further]
    refine ⟨failures, stage, recorded.record, recorded.logged, recorded.listing, fun call => ?_,
      fun call error => ?_, recorded.distinct, fun call entries got => ?_⟩
    · exact (exists_congr fun pending => added call (by simp)).trans (recorded.fetching call)
    · exact (added call (by simp)).trans (recorded.failed call error)
    · exact recorded.obtained call entries ((added call (by simp)).mp got)
  | proceed call =>
    obtain ⟨caller, present, outcome, moved, rfl⟩ := step?_proceed_eq_some_iff.mp went
    exact recorded.turn orderly present (Lookup.step_turn moved)
  | wait moment =>
    cases went
    exact ⟨failures, stage, { recorded with }⟩
  | change source =>
    cases went
    exact ⟨failures, stage, { recorded with }⟩

/-- Whatever happens is recorded. -/
theorem exists_recorded (orderly : state.Orderly engine)
    (recorded : state.Recorded engine failures stage)
    (ran : state.run? engine events = some after) :
    ∃ failures' stage', after.Recorded engine failures' stage' := by
  induction events generalizing state failures stage with
  | nil =>
    cases ran
    exact ⟨failures, stage, recorded⟩
  | cons event rest ih =>
    obtain ⟨next, went, ran⟩ := run?_cons_eq_some_iff.mp ran
    obtain ⟨failures, stage, recorded⟩ := recorded.step orderly went
    exact ih (orderly.step went) recorded ran

theorem recorded_initial {config : Config} {source : Source} {engines : Nat} :
    (initial config source engines).Recorded engine [] .idle where
  record := rfl
  logged := rfl
  listing := congrArg Cell.value (World.library_initial config source engines engine)
  fetching := by simp [IsFetching, lookup?, initial]
  failed := by simp [lookup?, initial]
  distinct := .nil
  obtained := by simp [lookup?, initial]

/-! ## What the record says -/

section Record

open FetchEvent

theorem filterMap_failed (failures : List (Nat × FetchError)) (stage : FetchStage) :
    (failures.flatMap failedFetch ++ stage.record).filterMap failed? = failures := by
  induction failures with
  | nil => cases stage <;> rfl
  | cons first rest ih => simpa [failedFetch, failed?, List.filterMap_cons] using ih

theorem filterMap_succeeded (failures : List (Nat × FetchError)) (stage : FetchStage) :
    (failures.flatMap failedFetch ++ stage.record).filterMap succeeded? =
      stage.success?.toList := by
  induction failures with
  | nil => cases stage <;> rfl
  | cons first rest ih => simpa [failedFetch, succeeded?, List.filterMap_cons] using ih

/-- The calls that have begun a fetch have ended it, but for the one that fetches. -/
theorem filterMap_begun (failures : List (Nat × FetchError)) (stage : FetchStage) :
    (failures.flatMap failedFetch ++ stage.record).filterMap begun? =
      ((failures.flatMap failedFetch ++ stage.record).filterMap ended?).map Prod.fst ++
        stage.fetcher?.toList := by
  induction failures with
  | nil => cases stage <;> rfl
  | cons first rest ih => simpa [failedFetch, begun?, ended?, List.filterMap_cons] using ih

/-- A fetch that is over has failed or succeeded. -/
theorem length_filterMap_ended (record : List FetchEvent) :
    (record.filterMap ended?).length =
      (record.filterMap failed?).length + (record.filterMap succeeded?).length := by
  induction record with
  | nil => rfl
  | cons event rest ih =>
    rcases event with call | ⟨call, error | entries⟩ <;>
      simp only [List.filterMap_cons, ended?, failed?, succeeded?, List.length_cons, ih] <;> omega

/-- Where a fetch ends, it has been begun right before, and behind one that succeeds there is
nothing. -/
theorem record_split {failures : List (Nat × FetchError)} {stage : FetchStage}
    {earlier later : List FetchEvent} {call : Nat}
    {outcome : Except FetchError (List LibraryEntry)}
    (split : failures.flatMap failedFetch ++ stage.record =
      earlier ++ .ended call outcome :: later) :
    (∃ before, earlier = before ++ [.begun call]) ∧
      ∀ entries, outcome = .ok entries → later = [] := by
  induction failures generalizing earlier with
  | nil =>
    cases stage with
    | idle => simp [FetchStage.record] at split
    | fetching other => cases earlier <;> simp [FetchStage.record] at split
    | fetched other entries =>
      rcases earlier with _ | ⟨first, _ | ⟨second, rest⟩⟩
      · cases split
      · cases split
        exact ⟨⟨[], rfl⟩, fun _ _ => rfl⟩
      · simp [FetchStage.record] at split
  | cons failed failures ih =>
    simp only [List.flatMap_cons, failedFetch, List.cons_append, List.nil_append] at split
    rcases earlier with _ | ⟨first, _ | ⟨second, rest⟩⟩
    · cases split
    · cases split
      exact ⟨⟨[], rfl⟩, nofun⟩
    · simp only [List.cons_append, List.cons.injEq] at split
      obtain ⟨rfl, rfl, behind⟩ := split
      obtain ⟨⟨before, rfl⟩, last⟩ := ih behind
      exact ⟨⟨_ :: _ :: before, rfl⟩, last⟩

end Record

/-- The listing is fetched at most once with success, and one fetch is over before the next one is
begun. -/
structure FetchedOnce (state : LibraryTraffic) : Prop where
  /-- At most one call fetches. -/
  exclusive : ∀ {call other}, state.IsFetching call → state.IsFetching other → call = other
  /-- A fetch ends right behind its beginning; no other one is begun or ended in between. -/
  paired : ∀ {earlier later call outcome},
    state.record = earlier ++ .ended call outcome :: later →
      ∃ before, earlier = before ++ [.begun call]
  /-- After a fetch has succeeded, none is begun any longer. -/
  final : ∀ {earlier later call entries},
    state.record = earlier ++ .ended call (.ok entries) :: later → later = []
  /-- Whoever gets a listing gets that of the one fetch that succeeded. -/
  obtained : ∀ {call entries}, state.lookup? call = some (.returned (.ok entries)) →
    ∃ fetcher, state.record.filterMap FetchEvent.succeeded? = [(fetcher, entries)]
  /-- Every answer is read off that listing, or off the failure of the fetch that the call ran. -/
  answered : ∀ {call caller reply}, state.calls[call]? = some caller →
    caller.reply? state.world.config = some reply →
      (∃ fetcher entries, state.record.filterMap FetchEvent.succeeded? = [(fetcher, entries)] ∧
        reply = Task.libraryReply state.world.config caller.goal (.ok entries)) ∨
      ∃ error, (call, error) ∈ state.record.filterMap FetchEvent.failed? ∧
        reply = Task.libraryReply state.world.config caller.goal (.error error)
  /-- The fetches that failed are those that are reported, each to the call that ran it. -/
  reported : ∀ call error, state.lookup? call = some (.returned (.error error)) ↔
    (call, error) ∈ state.record.filterMap FetchEvent.failed?
  /-- No call runs two fetches that fail. -/
  distinct : ((state.record.filterMap FetchEvent.failed?).map Prod.fst).Nodup
  /-- The fetches that are over are those that failed, and at most one more. -/
  counted : (state.record.filterMap FetchEvent.ended?).length =
      (state.record.filterMap FetchEvent.failed?).length +
        (state.record.filterMap FetchEvent.succeeded?).length ∧
    (state.record.filterMap FetchEvent.succeeded?).length ≤ 1
  /-- The fetches that have been begun are those that are over and the one under way. -/
  balanced : ∃ fetching : List Nat, (∀ call, call ∈ fetching ↔ state.IsFetching call) ∧
    state.record.filterMap FetchEvent.begun? =
      (state.record.filterMap FetchEvent.ended?).map Prod.fst ++ fetching
  /-- The world counts as many fetches of the listing. -/
  logged : (state.record.filterMap FetchEvent.begun?).length =
    state.world.log.count "<index>"

/-- Whoever gets a listing gets that of the fetch that succeeded. -/
theorem Recorded.succeeded (recorded : state.Recorded engine failures stage)
    {entries : List LibraryEntry} (got : state.lookup? call = some (.returned (.ok entries))) :
    ∃ fetcher, state.record.filterMap FetchEvent.succeeded? = [(fetcher, entries)] := by
  rw [recorded.record, filterMap_succeeded]
  have listing := recorded.obtained _ _ got
  cases stage with
  | idle => cases listing
  | fetching call => cases listing
  | fetched fetcher entries =>
    cases listing
    exact ⟨fetcher, rfl⟩

/-- The fetches that failed are those that are reported. -/
theorem Recorded.failed_iff (recorded : state.Recorded engine failures stage)
    (error : FetchError) : state.lookup? call = some (.returned (.error error)) ↔
      (call, error) ∈ state.record.filterMap FetchEvent.failed? := by
  rw [recorded.record, filterMap_failed]
  exact recorded.failed call error

theorem Recorded.fetchedOnce (recorded : state.Recorded engine failures stage) :
    state.FetchedOnce where
  exclusive fetches fetches' := by
    have first := (recorded.fetching _).mp fetches
    have second := (recorded.fetching _).mp fetches'
    exact FetchStage.fetching.inj (first.symm.trans second)
  paired split := (record_split (recorded.record ▸ split)).1
  final split := (record_split (recorded.record ▸ split)).2 _ rfl
  obtained := recorded.succeeded
  answered {call caller reply} present answered := by
    obtain ⟨goal, lookup⟩ := caller
    have looked : state.lookup? call = some lookup := by rw [lookup?, present, Option.map_some]
    cases lookup with
    | returned result =>
      cases answered
      cases result with
      | ok entries =>
        obtain ⟨fetcher, success⟩ := recorded.succeeded looked
        exact .inl ⟨fetcher, entries, success, rfl⟩
      | error error => exact .inr ⟨error, (recorded.failed_iff error).mp looked, rfl⟩
    | arriving => cases answered
    | queued number => cases answered
    | fetching pending => cases answered
  reported call error := recorded.failed_iff error
  distinct := by
    rw [recorded.record, filterMap_failed]
    exact recorded.distinct
  counted := by
    refine ⟨length_filterMap_ended _, ?_⟩
    rw [recorded.record, filterMap_succeeded]
    cases stage.success? <;> simp
  balanced := by
    refine ⟨stage.fetcher?.toList, fun call => ?_, ?_⟩
    · rw [recorded.fetching]
      cases stage <;> simp [FetchStage.fetcher?, eq_comm]
    · rw [recorded.record]
      exact filterMap_begun failures stage
  logged := recorded.logged

/-- However the calls on the library of an engine go on, and whatever their fetches bring, the
listing is fetched once: at most one call fetches at a time, none does after a fetch has succeeded,
all calls that get a listing get the same one, and the fetches that are over are those that failed,
each reported to the call that ran it alone, and at most one that succeeded. -/
theorem fetchedOnce_of_run {config : Config} {source : Source} {engines : Nat}
    (known : engine < engines)
    (ran : (initial config source engines).run? engine events = some after) :
    after.FetchedOnce := by
  obtain ⟨failures, stage, recorded⟩ :=
    exists_recorded (orderly_initial known) recorded_initial ran
  exact recorded.fetchedOnce

/-- A library that cannot be listed at first. -/
def flakySource : Source where
  document := Supply.missing
  listing := Supply.afterFailures 1 (.transport "stdlib-index" "connection reset") 5
    [⟨"C4/C4_Context.puml", "https://std/C4/C4_Context.puml"⟩]

/-- Two calls wait for a fetch that fails: the first of them fetches the listing again, and the
other one gets what it has fetched. -/
def retried : List Event :=
  [.ask (.paths ""), .proceed 0, .ask (.resolve "C4/C4_Context"), .proceed 1, .wait 5,
    .ask (.paths "C4/"), .proceed 2, .proceed 0, .proceed 1, .wait 10, .proceed 1, .proceed 2]

theorem fetchedOnce_of_run_retried :
    ∃ after, (initial .standard flakySource 1).run? 0 retried = some after ∧
      after.record.filterMap FetchEvent.begun? = [0, 1] ∧ after.FetchedOnce := by
  have shown : ((initial .standard flakySource 1).run? 0 retried).map
      (fun state => state.record.filterMap FetchEvent.begun?) = some [0, 1] := by
    decide +kernel
  obtain ⟨after, ran, begun⟩ := Option.map_eq_some_iff.mp shown
  exact ⟨after, ran, begun, fetchedOnce_of_run Nat.zero_lt_one ran⟩

end LibraryTraffic

end DiagramAssist
