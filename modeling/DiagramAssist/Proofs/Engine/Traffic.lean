import DiagramAssist.Proofs.Engine.Tasks
import Mathlib.Data.List.Forall2

/-! # Interleaved tasks of engines

Any number of tasks share a state. They go on in any order, one step at a time, where a step is what
a task does between two waits. A task that has passed includes over because they wait may be given
another turn; time passes as it likes between the steps, and the source may change at any moment.
Tasks that are carried out one after the other are the special case in which a task is asked for
only when all earlier ones have finished.

Every run keeps the order of the state and forgets nothing (`Traffic.Orderly.run`).
-/

namespace DiagramAssist

/-- Tasks under way, each with its engine, in a state that they share. -/
structure Traffic where
  world : World
  tasks : List (Nat × Task)

namespace Traffic

inductive Event where
  /-- An engine is asked to do something. -/
  | ask (engine : Nat) (command : Command)
  /-- The task with this number goes on. -/
  | proceed (index : Nat)
  /-- The task with this number gets another turn. -/
  | resume (index : Nat)
  /-- The clock shows a later moment. -/
  | wait (moment : Nat)
  /-- A number is given to something that waits outside of the engines. -/
  | number
  /-- From now on fetches are answered by another source. -/
  | change (source : Source)

def initial (config : Config) (source : Source) (engines : Nat) : Traffic :=
  ⟨.initial config source engines, []⟩

/-- What an event leads to. Only engines that there are can be asked, and a task that waits or has
finished cannot go on. -/
def step? (state : Traffic) : Event → Option Traffic
  | .ask engine command =>
    if engine < state.world.libraries.length then
      let (world, task) := Task.begin state.world command
      some ⟨world, state.tasks ++ [(engine, task)]⟩
    else none
  | .proceed index => do
    let (engine, task) ← state.tasks[index]?
    let (world, task) ← task.step engine state.world
    return ⟨world, state.tasks.set index (engine, task)⟩
  | .resume index => do
    let (engine, task) ← state.tasks[index]?
    return { state with tasks := state.tasks.set index (engine, task.resume) }
  | .wait moment => some { state with world.clock := max state.world.clock moment }
  | .number => some { state with world := state.world.newCall.1 }
  | .change source => some { state with world.source := source }

def run? (state : Traffic) (events : List Event) : Option Traffic :=
  events.foldlM step? state

/-- What the engines are asked, by the numbers of the tasks. -/
def asked (events : List Event) : List Command :=
  events.filterMap fun
    | .ask _ command => some command
    | _ => none

def reply? (state : Traffic) (index : Nat) : Option Reply := do
  (← state.tasks[index]?).2.reply?

variable {state after : Traffic} {event : Event} {events later : List Event} {index engine : Nat}

theorem step?_ask_eq_some_iff {command : Command} :
    state.step? (.ask engine command) = some after ↔
      engine < state.world.libraries.length ∧
        (⟨(Task.begin state.world command).1,
          state.tasks ++ [(engine, (Task.begin state.world command).2)]⟩ : Traffic) = after := by
  simp only [step?]
  split
  · next known => simp [known]
  · next unknown => simp [unknown]

theorem step?_proceed_eq_some_iff :
    state.step? (.proceed index) = some after ↔
      ∃ engine task, state.tasks[index]? = some (engine, task) ∧ ∃ outcome,
        task.step engine state.world = some outcome ∧
          (⟨outcome.1, state.tasks.set index (engine, outcome.2)⟩ : Traffic) = after := by
  simp only [step?, bind, Option.bind_eq_some_iff, Prod.exists, pure, Option.some.injEq]

theorem step?_resume_eq_some_iff :
    state.step? (.resume index) = some after ↔
      ∃ engine task, state.tasks[index]? = some (engine, task) ∧
        ({ state with tasks := state.tasks.set index (engine, task.resume) } : Traffic) =
          after := by
  simp only [step?, bind, Option.bind_eq_some_iff, Prod.exists, pure, Option.some.injEq]

theorem reply?_eq_some_iff {reply : Reply} :
    state.reply? index = some reply ↔
      ∃ engine, state.tasks[index]? = some (engine, .finished reply) := by
  simp only [reply?, bind, Option.bind_eq_some_iff, Prod.exists]
  constructor
  · rintro ⟨engine, task, present, answered⟩
    cases task <;> cases answered
    exact ⟨engine, present⟩
  · rintro ⟨engine, present⟩
    exact ⟨engine, _, present, rfl⟩

section Runs

theorem run?_cons_eq_some_iff : state.run? (event :: events) = some after ↔
    ∃ next, state.step? event = some next ∧ next.run? events = some after := by
  simp only [run?, List.foldlM_cons, bind, Option.bind_eq_some_iff]

theorem run?_append_eq_some_iff : state.run? (events ++ later) = some after ↔
    ∃ middle, state.run? events = some middle ∧ middle.run? later = some after := by
  simp only [run?, List.foldlM_append, bind, Option.bind_eq_some_iff]

/-- What every step keeps is kept by every run. -/
theorem run?_invariant {Invariant : Traffic → Prop}
    (kept : ∀ {state after : Traffic} {event : Event}, Invariant state →
      state.step? event = some after → Invariant after)
    (first : Invariant state) (ran : state.run? events = some after) : Invariant after := by
  induction events generalizing state with
  | nil =>
    cases ran
    exact first
  | cons event rest ih =>
    obtain ⟨next, went, ran⟩ := run?_cons_eq_some_iff.mp ran
    exact ih (kept first went) ran

end Runs

section Single

variable {task : Task}

/-- What a step does to one of the tasks: nothing, or the task goes on, or it gets another turn. -/
theorem step?_task (went : state.step? event = some after)
    (present : state.tasks[index]? = some (engine, task)) :
    after.tasks[index]? = some (engine, task) ∨
      (∃ outcome, Task.Turn engine state.world task outcome ∧ after.world = outcome.1 ∧
        after.tasks[index]? = some (engine, outcome.2)) ∨
      after.tasks[index]? = some (engine, task.resume) := by
  have inside := (List.getElem?_eq_some_iff.mp present).1
  cases event with
  | ask engine' command =>
    obtain ⟨-, rfl⟩ := step?_ask_eq_some_iff.mp went
    exact .inl ((List.getElem?_append_left inside).trans present)
  | proceed number =>
    obtain ⟨engine', task', present', outcome, moved, rfl⟩ := step?_proceed_eq_some_iff.mp went
    by_cases here : number = index
    · subst here
      cases present.symm.trans present'
      exact .inr (.inl ⟨outcome, Task.step_turn moved, rfl, List.getElem?_set_self inside⟩)
    · exact .inl ((List.getElem?_set_ne here).trans present)
  | resume number =>
    obtain ⟨engine', task', present', rfl⟩ := step?_resume_eq_some_iff.mp went
    by_cases here : number = index
    · subst here
      cases present.symm.trans present'
      exact .inr (.inr (List.getElem?_set_self inside))
    · exact .inl ((List.getElem?_set_ne here).trans present)
  | wait moment =>
    cases went
    exact .inl present
  | number =>
    cases went
    exact .inl present
  | change source =>
    cases went
    exact .inl present

/-- What the turns of a task keep, whatever the state they work on, is kept by every run. -/
theorem run?_task {Holds : Task → Prop}
    (turns : ∀ {world : World} {engine : Nat} {task : Task} {outcome : World × Task},
      Task.Turn engine world task outcome → Holds task → Holds outcome.2)
    (resumes : ∀ {task : Task}, Holds task → Holds task.resume)
    (present : state.tasks[index]? = some (engine, task)) (holds : Holds task)
    (ran : state.run? events = some after) :
    ∃ task', after.tasks[index]? = some (engine, task') ∧ Holds task' := by
  let Invariant (now : Traffic) : Prop :=
    ∃ task', now.tasks[index]? = some (engine, task') ∧ Holds task'
  have kept {now next : Traffic} {event : Event} (invariant : Invariant now)
      (went : now.step? event = some next) : Invariant next := by
    obtain ⟨task', present, holds⟩ := invariant
    rcases step?_task went present with same | ⟨outcome, turn, -, later⟩ | resumed
    · exact ⟨task', same, holds⟩
    · exact ⟨outcome.2, later, turns turn holds⟩
    · exact ⟨task'.resume, resumed, resumes holds⟩
  exact run?_invariant kept ⟨task, present, holds⟩ ran

/-- A task that has been answered keeps its answer. -/
theorem reply?_of_run? {reply : Reply} (answered : state.reply? index = some reply)
    (ran : state.run? events = some after) : after.reply? index = some reply := by
  obtain ⟨engine, present⟩ := reply?_eq_some_iff.mp answered
  have turns {world : World} {engine : Nat} {task : Task} {outcome : World × Task}
      (turn : Task.Turn engine world task outcome) (finished : task = .finished reply) :
      outcome.2 = .finished reply := by
    subst finished
    cases turn
  have resumes {task : Task} (finished : task = .finished reply) :
      task.resume = .finished reply := by
    subst finished
    rfl
  obtain ⟨task, present, rfl⟩ := run?_task turns resumes present rfl ran
  exact reply?_eq_some_iff.mpr ⟨engine, present⟩

end Single

def clients (tasks : List (Nat × Task)) : Attendance :=
  (tasks.map fun (engine, task) => task.clients engine).sum

theorem clients_concat (tasks : List (Nat × Task)) (task : Task) :
    clients (tasks ++ [(engine, task)]) = task.clients engine + clients tasks := by
  simp [clients, Multiset.add_comm]

/-- What one item adds to a sum, and what the others do. -/
theorem exists_sum_others {α M : Type} [AddCommMonoid M] (measure : α → M) {items : List α}
    {item : α} (present : items[index]? = some item) :
    ∃ others, (items.map measure).sum = measure item + others ∧
      ∀ item', ((items.set index item').map measure).sum = measure item' + others := by
  induction items generalizing index with
  | nil => cases present
  | cons first rest ih =>
    cases index with
    | zero =>
      cases present
      exact ⟨(rest.map measure).sum, by simp, by simp⟩
    | succ index =>
      obtain ⟨others, whole, replaced⟩ := ih present
      refine ⟨measure first + others, ?_, fun item' => ?_⟩
      · rw [List.map_cons, List.sum_cons, whole]
        ac_rfl
      · rw [List.set_cons_succ, List.map_cons, List.sum_cons, replaced]
        ac_rfl

/-- One of several items that are related to others goes on, and its counterpart is known. -/
theorem exists_forall₂_replace {α β : Type} {Before : α → β → Prop} {contents : List α}
    {passed rest : List β} {item : β}
    (all : List.Forall₂ Before contents (passed ++ item :: rest)) :
    ∃ content, Before content item ∧
      ∀ {After : α → β → Prop} {item' : β}, (∀ content item, Before content item →
        After content item) → After content item' →
        List.Forall₂ After contents (passed ++ item' :: rest) := by
  induction passed generalizing contents with
  | nil =>
    obtain ⟨content, behind, here, others, rfl⟩ := List.forall₂_cons_right_iff.mp all
    exact ⟨content, here, fun kept here => .cons here (others.imp kept)⟩
  | cons first passed ih =>
    obtain ⟨content, behind, here, others, rfl⟩ := List.forall₂_cons_right_iff.mp all
    obtain ⟨found, there, replaced⟩ := ih others
    exact ⟨found, there, fun kept changed => .cons (kept _ _ here) (replaced kept changed)⟩

/-- Where one task is, and where the others are. -/
theorem exists_others {tasks : List (Nat × Task)} {task : Task}
    (present : tasks[index]? = some (engine, task)) :
    ∃ others, clients tasks = task.clients engine + others ∧
      ∀ task' : Task, clients (tasks.set index (engine, task')) =
        task'.clients engine + others := by
  obtain ⟨others, whole, replaced⟩ :=
    exists_sum_others (fun entry : Nat × Task => entry.2.clients entry.1) present
  exact ⟨others, whole, fun task' => replaced (engine, task')⟩

/-- Order in the state, and what is known of the tasks. -/
structure Ordered (owners : List String) (state : Traffic) : Prop where
  world : state.world.Orderly owners (clients state.tasks)
  engines : ∀ entry ∈ state.tasks, entry.1 < state.world.libraries.length
  sound : ∀ entry ∈ state.tasks, entry.2.Sound owners state.world

/-- Slots have owners such that there is order. -/
def Orderly (state : Traffic) : Prop :=
  ∃ owners, state.Ordered owners

theorem orderly_initial (config : Config) (source : Source) (engines : Nat) :
    (initial config source engines).Orderly := by
  have nowhere : clients (initial config source engines).tasks = 0 := by simp [clients, initial]
  refine ⟨[], ?_, by simp [initial], by simp [initial]⟩
  rw [nowhere]
  exact World.orderly_initial config source engines

/-- Order after a step that leads on and after which the tasks are sound. -/
theorem Ordered.leads {owners owners' : List String} (ordered : state.Ordered owners)
    (leads : World.Leads owners state.world owners' after.world (clients after.tasks))
    (tasks : ∀ entry ∈ after.tasks, entry ∈ state.tasks ∨
      entry.1 < state.world.libraries.length ∧ entry.2.Sound owners' after.world) :
    after.Ordered owners' where
  world := leads.orderly
  engines entry listed := by
    rw [leads.onward.libraries]
    rcases tasks entry listed with before | ⟨known, -⟩
    · exact ordered.engines entry before
    · exact known
  sound entry listed := by
    rcases tasks entry listed with before | ⟨-, sound⟩
    · exact (ordered.sound entry before).mono leads.owners leads.onward.store
    · exact sound

/-- Whatever happens next, the order is kept, and nothing is forgotten. -/
theorem Orderly.step (orderly : state.Orderly) (went : state.step? event = some after) :
    after.Orderly ∧ state.world.Onward after.world := by
  obtain ⟨owners, ordered⟩ := orderly
  -- The world changes without any task going on.
  have passes {world : World} (registry : world.registry = state.world.registry)
      (store : world.store = state.world.store)
      (libraries : world.libraries = state.world.libraries)
      (config : world.config = state.world.config)
      (calls : state.world.nextCall ≤ world.nextCall) :
      Orderly ⟨world, state.tasks⟩ ∧ state.world.Onward world := by
    have leads := ordered.world.later registry store libraries config calls
    have kept : Ordered owners ⟨world, state.tasks⟩ := ordered.leads leads fun _ => .inl
    exact ⟨⟨owners, kept⟩, leads.onward⟩
  cases event with
  | ask engine command =>
    obtain ⟨known, rfl⟩ := step?_ask_eq_some_iff.mp went
    obtain ⟨leads, sound⟩ := Task.begin_leads engine ordered.world command
    refine ⟨⟨owners, ordered.leads ?_ fun entry listed => ?_⟩, leads.onward⟩
    · rw [clients_concat]
      exact leads
    · rcases List.mem_append.mp listed with before | here
      · exact .inl before
      · rw [List.mem_singleton.mp here]
        exact .inr ⟨known, sound⟩
  | proceed index =>
    obtain ⟨engine, task, present, outcome, moved, rfl⟩ := step?_proceed_eq_some_iff.mp went
    have listed := List.mem_of_getElem? present
    obtain ⟨others, whole, replaced⟩ := exists_others present
    have orderly := ordered.world
    rw [whole] at orderly
    obtain ⟨owners', leads, sound⟩ := (Task.step_turn moved).leads orderly
      (ordered.engines _ listed) (ordered.sound _ listed)
    rw [← replaced] at leads
    refine ⟨⟨owners', ordered.leads leads fun entry member => ?_⟩, leads.onward⟩
    rcases List.mem_or_eq_of_mem_set member with before | rfl
    · exact .inl before
    · exact .inr ⟨ordered.engines (engine, task) listed, sound⟩
  | resume index =>
    obtain ⟨engine, task, present, rfl⟩ := step?_resume_eq_some_iff.mp went
    have listed := List.mem_of_getElem? present
    obtain ⟨others, whole, replaced⟩ := exists_others present
    have same : clients (state.tasks.set index (engine, task.resume)) = clients state.tasks := by
      rw [replaced, whole, Task.clients_resume]
    refine ⟨⟨owners, ordered.leads ?_ fun entry member => ?_⟩, .refl _⟩
    · rw [same]
      exact .refl ordered.world
    · rcases List.mem_or_eq_of_mem_set member with before | rfl
      · exact .inl before
      · exact .inr ⟨ordered.engines (engine, task) listed,
        Task.sound_resume.mpr (ordered.sound (engine, task) listed)⟩
  | wait moment =>
    cases went
    exact passes rfl rfl rfl rfl (Nat.le_refl _)
  | number =>
    cases went
    exact passes rfl rfl rfl rfl (Nat.le_succ _)
  | change source =>
    cases went
    exact passes rfl rfl rfl rfl (Nat.le_refl _)

theorem Orderly.run (orderly : state.Orderly) (ran : state.run? events = some after) :
    after.Orderly ∧ state.world.Onward after.world := by
  let Invariant (now : Traffic) : Prop := now.Orderly ∧ state.world.Onward now.world
  have kept {now next : Traffic} {event : Event} (invariant : Invariant now)
      (went : now.step? event = some next) : Invariant next := by
    obtain ⟨orderly, onward⟩ := invariant.1.step went
    exact ⟨orderly, invariant.2.trans onward⟩
  exact run?_invariant kept ⟨orderly, .refl _⟩ ran

/-- A property of commands and their tasks that stays true whatever happens after a state: it is
true when a task begins, and it remains true when any task goes on. -/
structure Lasting (base : World) (Holds : World → Command → Task → Prop) : Prop where
  begins : ∀ {world : World} (command : Command), base.Onward world →
    Holds (Task.begin world command).1 command (Task.begin world command).2
  onward : ∀ {world after : World} {command : Command} {task : Task} {owners : List String}
    {clients : Attendance}, world.Orderly owners clients → world.Onward after →
    Holds world command task → Holds after command task
  turns : ∀ {world : World} {engine : Nat} {command : Command} {task : Task}
    {outcome : World × Task} {owners : List String} {clients : Attendance},
    base.Onward world → world.Orderly owners clients → task.Sound owners world →
    Task.Turn engine world task outcome → world.Onward outcome.1 →
    Holds world command task → Holds outcome.1 command outcome.2
  resumes : ∀ {world : World} {command : Command} {task : Task}, Holds world command task →
    Holds world command task.resume

/-- The tasks from a number on belong to some commands, and a property is true of each of them. -/
structure Follows (Holds : World → Command → Task → Prop) (start : Nat) (commands : List Command)
    (state : Traffic) : Prop where
  length : state.tasks.length = start + commands.length
  holds : ∀ {index engine : Nat} {command : Command} {task : Task},
    commands[index]? = some command → state.tasks[start + index]? = some (engine, task) →
    Holds state.world command task

/-- Where all tasks belong to commands, the property is true of each task for its command. -/
theorem Follows.held {Holds : World → Command → Task → Prop} {commands : List Command}
    {task : Task} (follows : state.Follows Holds 0 commands)
    (present : state.tasks[index]? = some (engine, task)) :
    ∃ command, commands[index]? = some command ∧ Holds state.world command task := by
  have inside := (List.getElem?_eq_some_iff.mp present).1
  rw [follows.length, Nat.zero_add] at inside
  have wanted := List.getElem?_eq_getElem inside
  exact ⟨_, wanted, follows.holds wanted ((Nat.zero_add index).symm ▸ present)⟩

section Following

variable {Holds : World → Command → Task → Prop} {start : Nat} {commands : List Command}
  {base : World}

theorem asked_append (events later : List Event) :
    asked (events ++ later) = asked events ++ asked later :=
  List.filterMap_append

section Changes

variable {world : World} (follows : state.Follows Holds start commands)
  (kept : ∀ entry ∈ state.tasks, ∀ command, Holds state.world command entry.2 →
    Holds world command entry.2)

include follows kept

/-- The state that the tasks share changes. -/
theorem Follows.keep : Follows Holds start commands ⟨world, state.tasks⟩ where
  length := follows.length
  holds wanted there := kept _ (List.mem_of_getElem? there) _ (follows.holds wanted there)

/-- One task is replaced by what it has become. -/
theorem Follows.replace {task task' : Task} (present : state.tasks[index]? = some (engine, task))
    (next : ∀ command, Holds state.world command task → Holds world command task') :
    Follows Holds start commands ⟨world, state.tasks.set index (engine, task')⟩ where
  length := by
    rw [List.length_set]
    exact follows.length
  holds {number engine' command found} wanted there := by
    rcases (getElem?_set_eq_some present _ _ _).mp there with ⟨here, same⟩ | ⟨-, there⟩
    · cases same
      exact next command (follows.holds wanted (here ▸ present))
    · exact (follows.keep kept).holds wanted there

/-- A task is begun. -/
theorem Follows.concat {command : Command} {task : Task} (begun : Holds world command task) :
    Follows Holds start (commands ++ [command]) ⟨world, state.tasks ++ [(engine, task)]⟩ where
  length := by
    simp only [List.length_append, follows.length, List.length_singleton]
    omega
  holds {number engine' command' found} wanted there := by
    rcases (getElem?_concat_eq_some _ _ _ _).mp there with there | ⟨here, same⟩
    · rcases (getElem?_concat_eq_some _ _ _ _).mp wanted with wanted | ⟨beyond, -⟩
      · exact (follows.keep kept).holds wanted there
      · have inside := (List.getElem?_eq_some_iff.mp there).1
        rw [follows.length] at inside
        omega
    · rcases (getElem?_concat_eq_some _ _ _ _).mp wanted with wanted | ⟨-, rfl⟩
      · have inside := (List.getElem?_eq_some_iff.mp wanted).1
        rw [follows.length] at here
        omega
      · cases same
        exact begun

end Changes

theorem Follows.step (follows : state.Follows Holds start commands) (lasting : Lasting base Holds)
    (behind : base.Onward state.world) (orderly : state.Orderly)
    (went : state.step? event = some after) :
    after.Follows Holds start (commands ++ asked [event]) := by
  obtain ⟨-, onward⟩ := orderly.step went
  obtain ⟨owners, ordered⟩ := orderly
  have kept : ∀ entry ∈ state.tasks, ∀ command, Holds state.world command entry.2 →
      Holds after.world command entry.2 :=
    fun _ _ _ held => lasting.onward ordered.world onward held
  cases event with
  | ask engine command =>
    obtain ⟨-, rfl⟩ := step?_ask_eq_some_iff.mp went
    exact follows.concat kept (lasting.begins command behind)
  | proceed index =>
    obtain ⟨engine, task, present, outcome, moved, rfl⟩ := step?_proceed_eq_some_iff.mp went
    have listed := List.mem_of_getElem? present
    rw [asked, List.filterMap_cons, List.filterMap_nil, List.append_nil]
    exact follows.replace kept present fun command held =>
      lasting.turns behind ordered.world (ordered.sound _ listed) (Task.step_turn moved) onward held
  | resume index =>
    obtain ⟨engine, task, present, rfl⟩ := step?_resume_eq_some_iff.mp went
    rw [asked, List.filterMap_cons, List.filterMap_nil, List.append_nil]
    exact follows.replace kept present fun command => lasting.resumes
  | wait moment =>
    cases went
    rw [asked, List.filterMap_cons, List.filterMap_nil, List.append_nil]
    exact follows.keep kept
  | number =>
    cases went
    rw [asked, List.filterMap_cons, List.filterMap_nil, List.append_nil]
    exact follows.keep kept
  | change source =>
    cases went
    rw [asked, List.filterMap_cons, List.filterMap_nil, List.append_nil]
    exact follows.keep kept

/-- What lasts is true of all tasks of a run. -/
theorem Follows.run (follows : state.Follows Holds start commands) (lasting : Lasting base Holds)
    (behind : base.Onward state.world) (orderly : state.Orderly)
    (ran : state.run? events = some after) :
    after.Follows Holds start (commands ++ asked events) := by
  induction events generalizing state commands with
  | nil =>
    cases ran
    rwa [asked, List.filterMap_nil, List.append_nil]
  | cons event rest ih =>
    obtain ⟨next, went, ran⟩ := run?_cons_eq_some_iff.mp ran
    obtain ⟨orderly', onward⟩ := orderly.step went
    rw [← List.singleton_append, asked_append, ← List.append_assoc]
    exact ih (follows.step lasting behind orderly went) (behind.trans onward) orderly' ran

/-- When a property begins to be followed, no task has to have it. -/
theorem follows_nil (Holds : World → Command → Task → Prop) (state : Traffic) :
    state.Follows Holds state.tasks.length [] :=
  ⟨rfl, nofun⟩

end Following

end Traffic

end DiagramAssist
