import DiagramAssist.Proofs.Engine.Replies
import Mathlib.Algebra.GroupWithZero.Nat

/-! # Includes get resolved

While a task resolves includes, each of its turns brings an include closer to its end or passes an
include over that cannot go on. An include that cannot go on waits for a cell that is held, and
then some other include can go on: the one that works for the cell, once its fetch is over, or the
one for which the cell is held. So as long as any task resolves includes, there is a task that gets
on, and a state is reached in which nobody resolves includes any more (`Traffic.exists_flushed`).
-/

namespace DiagramAssist

variable {world : World} {engine : Nat}

/-! ## Steps that are left -/

namespace Lookup

/-- How many steps a lookup still takes at most. -/
def rank : Lookup → Nat
  | .arriving => 3
  | .queued _ => 2
  | .fetching _ => 1
  | .returned _ => 0

theorem rank_proceed_le (world : World) (call : Nat)
    (standing : Cell.Standing (List LibraryEntry)) : (proceed world call standing).2.rank ≤ 2 := by
  cases standing <;> simp [proceed, rank]

theorem Turn.rank_lt {lookup : Lookup} {outcome : World × Lookup}
    (turn : Turn engine world lookup outcome) : outcome.2.rank < lookup.rank := by
  cases turn with
  | arrive entry => exact Nat.lt_succ_of_le (rank_proceed_le _ _ _)
  | receive known => exact Nat.zero_lt_two
  | takeOver empty held => exact Nat.one_lt_two
  | deliver ended good => exact Nat.zero_lt_one
  | fail ended bad => exact Nat.zero_lt_one

end Lookup

namespace Keying

/-- How many steps it still takes at most to find a key. -/
def rank : Keying → Nat
  | .pending _ => 5
  | .looking _ lookup => lookup.rank + 1
  | .settled _ => 0

theorem Turn.rank_lt {base : Option String} {keying : Keying} {outcome : World × Keying}
    (turn : Turn engine base world keying outcome) : outcome.2.rank < keying.rank := by
  cases turn with
  | look kind => exact Nat.lt_succ_self 4
  | url kind => exact Nat.zero_lt_succ _
  | path kind => exact Nat.zero_lt_succ _
  | lookup turn => exact Nat.succ_lt_succ turn.rank_lt
  | listed => exact Nat.zero_lt_succ _
  | unlisted => exact Nat.zero_lt_succ _

end Keying

namespace Inclusion

/-- How many steps it still takes at most to resolve an include: after its key, a load. -/
def rank : Inclusion → Nat
  | .keying state => state.rank + 5
  | .loading load => load.rank + 1
  | .settled _ => 0

theorem Turn.rank_lt {base : Option String} {inclusion : Inclusion} {outcome : World × Inclusion}
    (turn : Turn engine base world inclusion outcome) : outcome.2.rank < inclusion.rank := by
  cases turn with
  | unresolved => exact Nat.zero_lt_succ _
  | resolved => exact Nat.lt_succ_self 4
  | keying turn => exact Nat.add_lt_add_right turn.rank_lt 5
  | load turn => exact Nat.succ_lt_succ turn.rank_lt
  | loaded => exact Nat.zero_lt_succ _
  | failed => exact Nat.zero_lt_succ _

end Inclusion

/-! ## Who can go on -/

/-- The same state at a later moment. -/
def World.waited (world : World) (moment : Nat) : World :=
  { world with clock := max world.clock moment }

/-- A call that need not wait for others: it works at the cell, or the cell is held for it. -/
def Cell.IsFor {α : Type} (cell : Cell α) : Cell.Client → Prop
  | .working => True
  | .waiting call => cell.holder = some call

/-- At a cell that is held there is a call that need not wait for others. -/
theorem Cell.Served.exists_isFor {α : Type} {cell : Cell α} {nextCall : Nat}
    {clients : Multiset Cell.Client} (served : cell.Served nextCall clients)
    (empty : cell.value = none) (held : cell.holder ≠ none) :
    ∃ client ∈ clients, cell.IsFor client := by
  rcases served.busy empty held with working | ⟨holder, holds, waiting⟩
  · exact ⟨.working, working, trivial⟩
  · exact ⟨.waiting holder, waiting, holds⟩

/-- The calls of a resolution wait: for a cell at which another call works or is to work. -/
def World.Waits (world : World) (clients : Attendance) : Prop :=
  ∃ post call, clients = {(post, .waiting call)} ∧ (∀ target, post ≠ .includes target) ∧
    (world.cellAt post).value = none ∧ ¬(world.cellAt post).IsFor (.waiting call)

theorem World.isOver_waited (world : World) (timer : Timer) :
    (world.waited timer.due).isOver timer = true := by
  simp [isOver, waited]

namespace Lookup

/-- A lookup that does not go on at any moment has returned, or it waits. -/
theorem waits_of_stuck {lookup : Lookup}
    (stuck : ∀ moment, lookup.step engine (world.waited moment) = none) :
    (∃ result, lookup = .returned result) ∨ world.Waits (lookup.clients engine) := by
  cases lookup with
  | arriving => cases stuck 0
  | queued call =>
    have stuck : step engine (world.waited 0) (.queued call) = none := stuck 0
    have here : (world.waited 0).library engine = world.library engine := rfl
    simp only [step, here] at stuck
    rcases (world.library engine).standing_cases call with
      ⟨entries, known, standing⟩ | ⟨empty, held, standing⟩ | ⟨empty, other, standing⟩
    · rw [standing] at stuck
      cases stuck
    · rw [standing] at stuck
      cases stuck
    · exact .inr ⟨_, call, rfl, by simp, Cell.value_shape_eq_none.mpr empty, other⟩
  | fetching pending =>
    have stuck := stuck pending.timer.due
    simp only [step, world.isOver_waited] at stuck
    cases outcome : pending.outcome <;> simp [outcome] at stuck
  | returned result => exact .inl ⟨result, rfl⟩

end Lookup

namespace Load

/-- A load that does not go on at any moment has returned, or it waits. -/
theorem waits_of_stuck {load : Load} (stuck : ∀ moment, load.step (world.waited moment) = none) :
    (∃ result, load = .returned result) ∨ world.Waits load.clients := by
  cases load with
  | arriving key => cases stuck 0
  | queued key call slot =>
    have stuck : step (world.waited 0) (.queued key call slot) = none := stuck 0
    have here : (world.waited 0).registry = world.registry := rfl
    simp only [step, here] at stuck
    rcases world.registry.standing_cases slot call with
      ⟨context, known, standing⟩ | ⟨empty, held, standing⟩ | ⟨empty, other, standing⟩
    · rw [standing] at stuck
      cases stuck
    · rw [standing] at stuck
      cases stuck
    · exact .inr ⟨_, call, rfl, by simp, Cell.value_shape_eq_none.mpr empty, other⟩
  | fetching key slot pending =>
    have stuck := stuck pending.timer.due
    simp only [step, world.isOver_waited] at stuck
    cases outcome : loaded key pending.outcome <;> simp [outcome] at stuck
  | returned result => exact .inl ⟨result, rfl⟩

end Load

namespace Inclusion

variable {base : Option String}

/-- The resolution of an include that does not go on at any moment is over, or it waits. -/
theorem waits_of_stuck {inclusion : Inclusion}
    (stuck : ∀ moment, inclusion.step engine base (world.waited moment) = none) :
    (∃ found, inclusion = .settled found) ∨ world.Waits (inclusion.clients engine) := by
  cases inclusion with
  | keying keying =>
    cases keying with
    | pending content =>
      have stuck := stuck 0
      simp only [step, Keying.step] at stuck
      cases kind : content.kind <;> simp [kind] at stuck
    | looking path lookup =>
      have waiting (stuck : ∀ moment, (lookup.step engine (world.waited moment)).map
          (fun next => (next.1, Keying.looking path next.2)) = none) :
          (∃ result, lookup = .returned result) ∨ world.Waits (lookup.clients engine) :=
        Lookup.waits_of_stuck fun moment => Option.map_eq_none_iff.mp (stuck moment)
      cases lookup with
      | returned result => cases result <;> cases stuck 0
      | arriving => cases stuck 0
      | queued call =>
        exact (waiting fun moment => Option.map_eq_none_iff.mp (stuck moment)).imp (by simp) id
      | fetching pending =>
        exact (waiting fun moment => Option.map_eq_none_iff.mp (stuck moment)).imp (by simp) id
    | settled key => cases key <;> cases stuck 0
  | loading load =>
    cases load with
    | returned result => cases result <;> cases stuck 0
    | arriving key => cases stuck 0
    | queued key call slot =>
      exact (Load.waits_of_stuck fun moment => Option.map_eq_none_iff.mp (stuck moment)).imp
        (by simp) id
    | fetching key slot pending =>
      exact (Load.waits_of_stuck fun moment => Option.map_eq_none_iff.mp (stuck moment)).imp
        (by simp) id
  | settled found => exact .inl ⟨found, rfl⟩

end Inclusion

/-! ## Tasks that resolve includes -/

namespace Inclusion

theorem mem_allClients {client : Post × Cell.Client} {inclusions : List Inclusion} :
    client ∈ allClients engine inclusions ↔
      ∃ inclusion ∈ inclusions, client ∈ inclusion.clients engine := by
  induction inclusions with
  | nil => simp [allClients]
  | cons inclusion rest ih => simp [ih]

theorem all_settled_or_exists_unsettled (inclusions : List Inclusion) :
    (∃ found, inclusions = List.map .settled found) ∨
      ∃ inclusion ∈ inclusions, ∀ found, inclusion ≠ .settled found := by
  induction inclusions with
  | nil => exact .inl ⟨[], rfl⟩
  | cons inclusion rest ih =>
    rcases ih with ⟨found, rfl⟩ | ⟨other, listed, unsettled⟩
    · cases inclusion with
      | settled context => exact .inl ⟨context :: found, rfl⟩
      | keying keying => exact .inr ⟨_, List.mem_cons_self, nofun⟩
      | loading load => exact .inr ⟨_, List.mem_cons_self, nofun⟩
    · exact .inr ⟨other, List.mem_cons_of_mem _ listed, unsettled⟩

end Inclusion

namespace Task

/-- How many turns a task that resolves includes still takes at most in which an include goes on, or
in which it ends. -/
def rank : Task → Nat
  | .resolving _ passed rest _ _ => ((passed ++ rest).map Inclusion.rank).sum + 1
  | _ => 0

/-- What a task becomes as soon as the includes that it resolves are known. -/
def flushed : Task → Task
  | .resolving _ _ _ context goal => .walking context goal
  | task => task

theorem resolving_of_flushed_ne {task : Task} (resolves : task.flushed ≠ task) :
    ∃ target passed rest context goal, task = .resolving target passed rest context goal := by
  cases task with
  | resolving target passed rest context goal => exact ⟨target, passed, rest, context, goal, rfl⟩
  | _ => exact (resolves rfl).elim

/-- Of the tasks that carry out queries about known documents only those are anywhere that resolve
includes. -/
theorem Honest.resolving_of_clients {provision : Provision} {own : Option String}
    {wanted : Inquiry} {task : Task} {client : Post × Cell.Client}
    (honest : task.Honest provision own wanted world)
    (there : client ∈ task.clients engine) :
    ∃ target passed rest context goal, task = .resolving target passed rest context goal := by
  cases task with
  | resolving target passed rest context goal => exact ⟨target, passed, rest, context, goal, rfl⟩
  | walking context goal => exact (Multiset.notMem_zero _ there).elim
  | awaiting call target context goal => exact (Multiset.notMem_zero _ there).elim
  | finished reply => exact (Multiset.notMem_zero _ there).elim
  | updating update goal => exact honest.elim
  | looking lookup goal => exact honest.elim
  | loading load => exact honest.elim
  | keying base settled current rest => exact honest.elim

end Task

namespace Traffic

/-- What happens while nothing is asked and the source stays as it is. -/
inductive Event.Internal : Event → Prop where
  | proceed (index : Nat) : Internal (.proceed index)
  | resume (index : Nat) : Internal (.resume index)
  | wait (moment : Nat) : Internal (.wait moment)
  | number : Internal .number

theorem Event.Internal.allowed {config : Config} {provision : Provision} {event : Event}
    (internal : event.Internal) : event.Allowed config provision := by
  cases internal with
  | proceed index => exact .proceed index
  | resume index => exact .resume index
  | wait moment => exact .wait moment
  | number => exact .number

/-- What a state can come to while nothing is asked and the source stays as it is. -/
def ComesTo (state after : Traffic) : Prop :=
  ∃ events, (∀ event ∈ events, event.Internal) ∧ state.run? events = some after

variable {config : Config} {provision : Provision} {own : Option String} {commands : List Command}
  {state next after : Traffic} {event : Event} {events : List Event} {index : Nat}

theorem mem_clients {client : Post × Cell.Client} {tasks : List (Nat × Task)} :
    client ∈ clients tasks ↔ ∃ entry ∈ tasks, client ∈ entry.2.clients entry.1 := by
  induction tasks with
  | nil => simp [clients]
  | cons entry rest ih =>
    have split : clients (entry :: rest) = entry.2.clients entry.1 + clients rest := by
      simp [clients]
    rw [split, Multiset.mem_add, ih]
    simp only [List.mem_cons, exists_eq_or_imp]

theorem asked_internal (internal : ∀ event ∈ events, event.Internal) : asked events = [] := by
  refine List.filterMap_eq_nil_iff.mpr fun event listed => ?_
  cases internal event listed <;> rfl

namespace ComesTo

theorem refl (state : Traffic) : state.ComesTo state :=
  ⟨[], nofun, rfl⟩

theorem trans (first : state.ComesTo next) (second : next.ComesTo after) : state.ComesTo after := by
  obtain ⟨events, internal, ran⟩ := first
  obtain ⟨later, internal', ran'⟩ := second
  exact ⟨events ++ later, List.forall_mem_append.mpr ⟨internal, internal'⟩,
    run?_append_eq_some_iff.mpr ⟨next, ran, ran'⟩⟩

theorem step (internal : event.Internal) (went : state.step? event = some after) :
    state.ComesTo after :=
  ⟨[event], by simpa using internal, run?_cons_eq_some_iff.mpr ⟨after, went, rfl⟩⟩

theorem orderly (comes : state.ComesTo after) (orderly : state.Orderly) :
    after.Orderly ∧ state.world.Onward after.world := by
  obtain ⟨events, -, ran⟩ := comes
  exact orderly.run ran

theorem faithful (comes : state.ComesTo after)
    (faithful : state.Faithful config provision own commands) (orderly : state.Orderly) :
    after.Faithful config provision own commands ∧
      state.world.store.KeepsPages after.world.store := by
  obtain ⟨events, internal, ran⟩ := comes
  have kept := faithful.run orderly (fun event listed => (internal event listed).allowed) ran
  rwa [asked_internal internal, List.append_nil] at kept

end ComesTo

/-- How many turns of tasks are left in which includes go on, at most. -/
def rank (state : Traffic) : Nat :=
  (state.tasks.map fun entry => entry.2.rank).sum

/-- The tasks once all includes that are being resolved are known. -/
def flushed (state : Traffic) : List (Nat × Task) :=
  state.tasks.map fun entry => (entry.1, entry.2.flushed)

/-- A state can be come to in which fewer turns are left, and nothing else has become of the
tasks. -/
def GetsOn (state : Traffic) : Prop :=
  ∃ after, state.ComesTo after ∧ after.rank < state.rank ∧ after.flushed = state.flushed

/-- A state that can be come to without any task getting on. -/
structure Passes (state next : Traffic) : Prop where
  comes : state.ComesTo next
  rank : next.rank = state.rank
  flushed : next.flushed = state.flushed

theorem Passes.trans (first : state.Passes next) (second : next.Passes after) :
    state.Passes after :=
  ⟨first.comes.trans second.comes, second.rank.trans first.rank,
    second.flushed.trans first.flushed⟩

theorem Passes.getsOn (passes : state.Passes next) (getsOn : next.GetsOn) : state.GetsOn := by
  obtain ⟨after, comes, fewer, same⟩ := getsOn
  exact ⟨after, passes.comes.trans comes, passes.rank ▸ fewer, same.trans passes.flushed⟩

/-- The same task again. -/
theorem set_of_getElem? {α : Type} {items : List α} {item : α}
    (present : items[index]? = some item) : items.set index item = items := by
  obtain ⟨inside, rfl⟩ := List.getElem?_eq_some_iff.mp present
  exact List.set_getElem_self inside

section Replacement

variable {task task' : Task} (present : state.tasks[index]? = some (engine, task))

include present

/-- A task is replaced by one that becomes the same. -/
theorem flushed_set (world : World) (same : task'.flushed = task.flushed) :
    flushed ⟨world, state.tasks.set index (engine, task')⟩ = state.flushed := by
  simp only [flushed, List.map_set, same]
  refine set_of_getElem? ?_
  rw [List.getElem?_map, present, Option.map_some]

/-- What a replaced task leaves of the turns. -/
theorem rank_set (world : World) (task' : Task) :
    rank ⟨world, state.tasks.set index (engine, task')⟩ + task.rank = state.rank + task'.rank := by
  obtain ⟨others, whole, replaced⟩ :=
    exists_sum_others (fun entry : Nat × Task => entry.2.rank) present
  simp only [rank, whole, replaced]
  omega

/-- A replaced task has not got on. -/
theorem passes_set {world : World}
    (comes : state.ComesTo ⟨world, state.tasks.set index (engine, task')⟩)
    (rank : task'.rank = task.rank) (same : task'.flushed = task.flushed) :
    state.Passes ⟨world, state.tasks.set index (engine, task')⟩ := by
  refine ⟨comes, ?_, flushed_set present world same⟩
  have ranks := rank_set present world task'
  omega

theorem comes_to_proceeded {outcome : World × Task}
    (moved : task.step engine state.world = some outcome) :
    state.ComesTo ⟨outcome.1, state.tasks.set index (engine, outcome.2)⟩ :=
  .step (.proceed index)
    (step?_proceed_eq_some_iff.mpr ⟨engine, task, present, outcome, moved, rfl⟩)

/-- A task that goes on with fewer turns left gets on. -/
theorem getsOn_of_step {outcome : World × Task}
    (moved : task.step engine state.world = some outcome) (fewer : outcome.2.rank < task.rank)
    (same : outcome.2.flushed = task.flushed) : state.GetsOn := by
  refine ⟨_, comes_to_proceeded present moved, ?_, flushed_set present _ same⟩
  have ranks := rank_set present outcome.1 outcome.2
  omega

end Replacement

section Resolving

variable {target context : ContextId} {passed rest : List Inclusion} {goal : Goal}

/-- A task that resolves includes gets on with one of its includes in the order of the includes, or
passes all of them over. -/
theorem getsOn_or_passes
    (present : state.tasks[index]? = some (engine, .resolving target passed rest context goal)) :
    state.GetsOn ∨
      state.Passes ⟨state.world, state.tasks.set index
          (engine, .resolving target (passed ++ rest) [] context goal)⟩ ∧
        ∀ inclusion ∈ rest, inclusion.step engine (state.world.store.context target).key
          state.world = none := by
  induction rest generalizing passed state with
  | nil =>
    refine .inr ⟨?_, nofun⟩
    rw [List.append_nil, set_of_getElem? present]
    exact ⟨.refl _, rfl, rfl⟩
  | cons inclusion rest ih =>
    cases moved : inclusion.step engine (state.world.store.context target).key state.world with
    | some outcome =>
      have went : Task.step engine state.world
          (.resolving target passed (inclusion :: rest) context goal) =
            some (outcome.1, .resolving target passed (outcome.2 :: rest) context goal) := by
        simp only [Task.step, moved]
      refine .inl (getsOn_of_step present went ?_ rfl)
      have fewer := (Inclusion.step_turn moved).rank_lt
      simp only [Task.rank, List.map_append, List.map_cons, List.sum_append, List.sum_cons]
      omega
    | none =>
      let passing : Task := .resolving target (passed ++ [inclusion]) rest context goal
      let next : Traffic := ⟨state.world, state.tasks.set index (engine, passing)⟩
      have went : Task.step engine state.world
          (.resolving target passed (inclusion :: rest) context goal) =
            some (state.world, passing) := by
        simp only [Task.step, moved, passing]
      have passes : state.Passes next := by
        refine passes_set present (comes_to_proceeded present went) ?_ rfl
        simp only [passing, Task.rank, ← List.append_cons]
      have there : next.tasks[index]? = some (engine, passing) :=
        List.getElem?_set_self (List.getElem?_eq_some_iff.mp present).1
      rcases ih there with getsOn | ⟨passes', stuck⟩
      · exact .inl (passes.getsOn getsOn)
      · refine .inr ⟨passes.trans ?_, List.forall_mem_cons.mpr ⟨moved, stuck⟩⟩
        rwa [List.set_set, ← List.append_cons] at passes'

/-- A task that resolves includes gets another turn at a later moment. -/
theorem passes_resumed
    (present : state.tasks[index]? = some (engine, .resolving target passed rest context goal))
    (moment : Nat) :
    state.Passes ⟨state.world.waited moment, state.tasks.set index
      (engine, .resolving target [] (passed ++ rest) context goal)⟩ := by
  have waits : state.ComesTo ⟨state.world.waited moment, state.tasks⟩ :=
    .step (.wait moment) rfl
  refine passes_set present (waits.trans (.step (.resume index) ?_)) rfl rfl
  exact step?_resume_eq_some_iff.mpr ⟨engine, _, present, rfl⟩

/-- Where all includes of a task are settled or one of them goes on at some moment, the task gets
on. -/
theorem getsOn_of_free
    (present : state.tasks[index]? = some (engine, .resolving target passed rest context goal))
    (free : (∃ found, passed ++ rest = List.map .settled found) ∨
      ∃ inclusion ∈ passed ++ rest, ∃ moment,
        inclusion.step engine (state.world.store.context target).key (state.world.waited moment) ≠
          none) :
    state.GetsOn := by
  have inside := (List.getElem?_eq_some_iff.mp present).1
  -- After a wait the task begins with its first include again.
  let resumed (moment : Nat) : Traffic := ⟨state.world.waited moment,
    state.tasks.set index (engine, .resolving target [] (passed ++ rest) context goal)⟩
  have there (moment : Nat) : (resumed moment).tasks[index]? =
      some (engine, .resolving target [] (passed ++ rest) context goal) :=
    List.getElem?_set_self inside
  rcases free with ⟨found, settled⟩ | ⟨inclusion, listed, moment, moves⟩
  · refine (passes_resumed present 0).getsOn ?_
    rcases getsOn_or_passes (there 0) with getsOn | ⟨passes, -⟩
    · exact getsOn
    · refine passes.getsOn ?_
      rw [List.set_set, List.nil_append, settled]
      have known := Inclusion.contexts?_eq_some_iff.mpr ⟨found, rfl, rfl⟩
      refine getsOn_of_step (List.getElem?_set_self inside)
        (Option.map_eq_some_iff.mpr ⟨_, known, rfl⟩) ?_ rfl
      exact Nat.zero_lt_succ _
  · refine (passes_resumed present moment).getsOn ?_
    rcases getsOn_or_passes (there moment) with getsOn | ⟨-, stuck⟩
    · exact getsOn
    · exact (moves (stuck inclusion listed)).elim

/-- As long as a task resolves includes, some task gets on. -/
theorem getsOn_of_resolving (faithful : state.Faithful config provision own commands)
    (orderly : state.Orderly)
    (present : state.tasks[index]? = some (engine, .resolving target passed rest context goal)) :
    state.GetsOn := by
  obtain ⟨owners, ordered⟩ := orderly
  rcases Inclusion.all_settled_or_exists_unsettled (passed ++ rest) with
    settled | ⟨inclusion, listed, unsettled⟩
  · exact getsOn_of_free present (.inl settled)
  by_cases moves : ∃ moment, inclusion.step engine (state.world.store.context target).key
      (state.world.waited moment) ≠ none
  · exact getsOn_of_free present (.inr ⟨inclusion, listed, moves⟩)
  -- The include waits for a cell, and the cell is held for a call that need not wait for others.
  simp only [not_exists, not_not] at moves
  obtain ⟨found, settled⟩ | ⟨post, call, clients, elsewhere, empty, -⟩ :=
    Inclusion.waits_of_stuck moves
  · exact (unsettled found settled).elim
  have waiting : (post, .waiting call) ∈ Traffic.clients state.tasks := by
    refine mem_clients.mpr ⟨_, List.mem_of_getElem? present, Multiset.mem_cons_of_mem ?_⟩
    exact Inclusion.mem_allClients.mpr ⟨inclusion, listed, by simp [clients]⟩
  have held := (ordered.world.staffed.taken waiting).resolve_left fun known => known empty
  obtain ⟨client, there, isFor⟩ := (ordered.world.staffed post).exists_isFor empty held
  obtain ⟨⟨engine', task⟩, member, there⟩ := mem_clients.mp (mem_clientsAt.mp there)
  obtain ⟨index', present'⟩ := List.getElem?_of_mem member
  obtain ⟨command, -, wanted, -, honest⟩ := faithful.tasks.held present'
  obtain ⟨target', passed', rest', context', goal', rfl⟩ := honest.resolving_of_clients there
  have inclusions : (post, client) ∈ Inclusion.allClients engine' (passed' ++ rest') := by
    refine (Multiset.mem_cons.mp there).resolve_left fun same => ?_
    exact elsewhere target' (congrArg Prod.fst same)
  obtain ⟨other, listed', here⟩ := Inclusion.mem_allClients.mp inclusions
  refine getsOn_of_free present' (.inr ⟨other, listed', ?_⟩)
  by_contra stuck
  simp only [not_exists, not_not] at stuck
  obtain ⟨found, rfl⟩ | ⟨post', call', clients', -, -, waits⟩ := Inclusion.waits_of_stuck stuck
  · exact Multiset.notMem_zero _ here
  · rw [clients', Multiset.mem_singleton] at here
    cases here
    exact waits isFor

end Resolving

/-- A state can be come to in which all includes that are being resolved are known. -/
theorem exists_flushed (faithful : state.Faithful config provision own commands)
    (orderly : state.Orderly) : ∃ after, state.ComesTo after ∧ after.tasks = state.flushed := by
  induction left : state.rank using Nat.strong_induction_on generalizing state with
  | _ left ih =>
    by_cases quiet : ∀ entry ∈ state.tasks, entry.2.flushed = entry.2
    · refine ⟨state, .refl _, ?_⟩
      rw [flushed, List.map_congr_left fun entry listed => by rw [quiet entry listed], List.map_id']
    · simp only [not_forall] at quiet
      obtain ⟨⟨engine, task⟩, listed, resolves⟩ := quiet
      obtain ⟨index, present⟩ := List.getElem?_of_mem listed
      obtain ⟨target, passed, rest, context, goal, rfl⟩ := Task.resolving_of_flushed_ne resolves
      obtain ⟨next, comes, fewer, same⟩ := getsOn_of_resolving faithful orderly present
      obtain ⟨after, comes', tasks⟩ := ih next.rank (left ▸ fewer)
        (comes.faithful faithful orderly).1 (comes.orderly orderly).1 rfl
      exact ⟨after, comes.trans comes', tasks.trans same⟩

end Traffic

end DiagramAssist
