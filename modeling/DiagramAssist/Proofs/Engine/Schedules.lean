import DiagramAssist.Engine.Schedule
import DiagramAssist.Proofs.Engine.Independence
import Mathlib.Data.List.Perm.Basic

/-! # Schedules are interleavings

A schedule carries out a plan: jobs have turns, wait, are woken, and launch others. Whatever it does
is an interleaving of the commands of the plan (`Schedule.perform_isRun`), so that what is true of
all interleavings is true of it. In particular a plan that only asks queries about buffers is
answered at each of its places as a fresh engine answers that carries out nothing but the query at
this place (`Schedule.answered_alone_of_perform`).
-/

namespace DiagramAssist

namespace Plan

def at? : Place → Plan → Option Plan
  | [], plan => some plan
  | index :: rest, .launch _ plans => plans[index]?.bind (at? rest)
  | _ :: _, .command .. => none

def commandAt? (plan : Plan) (place : Place) : Option (Nat × Command) :=
  match plan.at? place with
  | some (.command engine _ wanted) => some (engine, wanted)
  | _ => none

theorem at?_append (place later : Place) (plan : Plan) :
    plan.at? (place ++ later) = (plan.at? place).bind (at? later) := by
  induction place generalizing plan with
  | nil => rfl
  | cons index rest ih =>
    cases plan with
    | command engine delay command => rfl
    | launch delay plans =>
      have later (plan : Plan) : at? (rest ++ later) plan = (at? rest plan).bind (at? later) :=
        ih plan
      simp only [List.cons_append, at?, Option.bind_assoc, funext later]

end Plan

namespace Progress

/-- The plan that has not begun to be carried out. -/
def plan? : Progress → Option Plan
  | .planned plan => some plan
  | .delayed _ plan => some plan
  | .running _ _ => none

/-- What the next move of a job can be. -/
inductive Turn (world : World) : Progress → Move → Prop where
  | ask {progress : Progress} {engine delay : Nat} {command : Command}
      (planned : progress.plan? = some (.command engine delay command)) :
      Turn world progress (.goesOn (Task.begin world command).1
        (.running engine (Task.begin world command).2))
  | launch {progress : Progress} {delay : Nat} {plans : List Plan}
      (planned : progress.plan? = some (.launch delay plans)) :
      Turn world progress (.launches plans)
  | delay {plan : Plan} :
      Turn world (.planned plan)
        (.goesOn world.newCall.1 (.delayed (world.startTimer plan.delay).2 plan))
  | step {engine : Nat} {task : Task} {outcome : World × Task}
      (went : task.step engine world = some outcome) :
      Turn world (.running engine task) (.goesOn outcome.1 (.running engine outcome.2))
  | answer {engine : Nat} {reply : Reply} :
      Turn world (.running engine (.finished reply)) (.answers reply)
  | wait {progress : Progress} : Turn world progress .waits

theorem move_turn (world : World) (progress : Progress) :
    Turn world progress (progress.move world) := by
  have begins {progress : Progress} {plan : Plan} (planned : progress.plan? = some plan) :
      Turn world progress (begin world plan) := by
    cases plan with
    | command engine delay command => exact .ask planned
    | launch delay plans => exact .launch planned
  cases progress with
  | planned plan =>
    rw [move]
    split
    · exact begins rfl
    · exact .delay
  | delayed timer plan =>
    rw [move]
    split
    · exact begins rfl
    · exact .wait
  | running engine task =>
    rw [move]
    split
    · next reply answered =>
      cases task <;> cases answered
      exact .answer
    · split
      · next went => exact .step went
      · exact .wait

end Progress

namespace Job

/-- The task of a job that is running, with its place and its engine. -/
def mark? (job : Job) : Option (Place × Nat × Task) :=
  match job.progress with
  | .running engine task => some (job.place, engine, task)
  | _ => none

theorem mark?_eq_none {job : Job} {plan : Plan} (planned : job.progress.plan? = some plan) :
    job.mark? = none := by
  rcases job with ⟨place, _ | _ | _⟩
  · rfl
  · rfl
  · cases planned

/-- A launched job stands at the place of its plan. -/
theorem exists_of_launched {place : Place} {plans : List Plan} {job : Job}
    (listed : job ∈ launched place plans) :
    ∃ index plan, plans[index]? = some plan ∧ job = ⟨place ++ [index], .planned plan⟩ := by
  obtain ⟨⟨plan, index⟩, numbered, rfl⟩ := List.mem_map.mp listed
  exact ⟨index, plan, List.mem_zipIdx_iff_getElem?.mp numbered, rfl⟩

end Job

namespace Schedule

open Traffic

/-- One item of a permuted list is replaced. -/
theorem set_perm {α : Type} {items rest : List α} {item item' : α} {index : Nat}
    (present : items[index]? = some item) (perm : items.Perm (item :: rest)) :
    (items.set index item').Perm (item' :: rest) := by
  obtain ⟨inside, rfl⟩ := List.getElem?_eq_some_iff.mp present
  have split : items = items.take index ++ items[index] :: items.drop (index + 1) := by
    rw [List.getElem_cons_drop, List.take_append_drop]
  have rest_perm : rest.Perm (items.take index ++ items.drop (index + 1)) := by
    refine (List.perm_cons items[index]).mp (perm.symm.trans ?_)
    exact (List.Perm.of_eq split).trans List.perm_middle
  rw [List.set_eq_take_cons_drop item' inside]
  exact List.perm_middle.trans (rest_perm.symm.cons item')

/-- A state of a schedule is a state of an interleaving of the commands of a plan. Each task is
marked with the place of its command; it is the task of a running job, or it is done and has been
answered. The jobs that have not begun stand at the places of their plans. -/
structure IsState (plan : Plan) (world : World) (jobs : List Job) (replies : Replies)
    (events : List Event) (state : Traffic) (marked : List (Place × Nat × Task)) : Prop where
  world : state.world = world
  tasks : marked.map Prod.snd = state.tasks
  asked : marked.map (fun mark => (plan.commandAt? mark.1).map Prod.snd) =
    (Traffic.asked events).map some
  split : ∃ done, marked.Perm (jobs.filterMap Job.mark? ++ done) ∧
    ∀ {place : Place} {reply : Reply}, (place, reply) ∈ replies →
      ∃ engine, (place, engine, .finished reply) ∈ done
  plans : ∀ job ∈ jobs, ∀ {planned : Plan}, job.progress.plan? = some planned →
    plan.at? job.place = some planned

/-- What may happen while a plan is carried out. -/
inductive Follows (plan : Plan) : Event → Prop where
  | ask {place : Place} {engine : Nat} {command : Command}
      (planned : plan.commandAt? place = some (engine, command)) :
      Follows plan (.ask engine command)
  | internal {event : Event} (internal : event.Internal) : Follows plan event

/-- There is an interleaving of the commands of a plan that leads to a state. -/
def IsRun (plan : Plan) (start world : World) (jobs : List Job) (replies : Replies) : Prop :=
  ∃ events state marked, (∀ event ∈ events, Follows plan event) ∧
    (⟨start, []⟩ : Traffic).run? events = some state ∧
    IsState plan world jobs replies events state marked

namespace IsRun

variable {plan : Plan} {start world : World} {job : Job} {jobs jobs' : List Job}
  {replies : Replies}

/-- The jobs are in another order. -/
theorem perm (isRun : IsRun plan start world jobs replies) (perm : jobs.Perm jobs') :
    IsRun plan start world jobs' replies := by
  obtain ⟨events, state, marked, follows, ran, shows⟩ := isRun
  obtain ⟨done, split, answered⟩ := shows.split
  refine ⟨events, state, marked, follows, ran,
    { shows with split := ⟨done, ?_, answered⟩, plans := ?_ }⟩
  · exact split.trans ((perm.filterMap Job.mark?).append_right done)
  · exact fun job listed => shows.plans job (perm.mem_iff.mpr listed)

/-- The plan of a job that has not begun stands at the place of the job. -/
theorem planned (isRun : IsRun plan start world (job :: jobs) replies) {planned : Plan}
    (same : job.progress.plan? = some planned) : plan.at? job.place = some planned := by
  obtain ⟨events, state, marked, follows, ran, shows⟩ := isRun
  exact (List.forall_mem_cons.mp shows.plans).1 same

/-- Something more happens. -/
theorem extend {events : List Event} {state next : Traffic} {event : Event}
    (marked : List (Place × Nat × Task)) (follows : ∀ event ∈ events, Follows plan event)
    (ran : (⟨start, []⟩ : Traffic).run? events = some state) (followed : Follows plan event)
    (went : state.step? event = some next)
    (shows : IsState plan world jobs replies (events ++ [event]) next marked) :
    IsRun plan start world jobs replies :=
  ⟨events ++ [event], next, marked,
    List.forall_mem_append.mpr ⟨follows, List.forall_mem_singleton.mpr followed⟩,
    run?_append_eq_some_iff.mpr ⟨state, ran, run?_cons_eq_some_iff.mpr ⟨next, went, rfl⟩⟩, shows⟩

theorem asked_concat {event : Event} (internal : event.Internal) (events : List Event) :
    asked (events ++ [event]) = asked events := by
  have nothing : asked [event] = [] := asked_internal (List.forall_mem_singleton.mpr internal)
  rw [asked_append, nothing, List.append_nil]

/-- Time passes or a number is given out. -/
theorem passes {event : Event} {after : World} (isRun : IsRun plan start world jobs replies)
    (internal : event.Internal)
    (went : ∀ tasks, Traffic.step? ⟨world, tasks⟩ event = some ⟨after, tasks⟩) :
    IsRun plan start after jobs replies := by
  obtain ⟨events, state, marked, follows, ran, shows⟩ := isRun
  obtain ⟨now, tasks⟩ := state
  obtain rfl : now = world := shows.world
  refine extend marked follows ran (.internal internal) (went tasks) ?_
  exact { shows with world := rfl, asked := asked_concat internal events ▸ shows.asked }

/-- A job that does not run is replaced by others that do not run either. -/
theorem replace (isRun : IsRun plan start world (job :: jobs) replies) (idle : job.mark? = none)
    (jobs' : List Job) (others : ∀ other ∈ jobs', other.mark? = none ∧ ∀ {planned : Plan},
      other.progress.plan? = some planned → plan.at? other.place = some planned) :
    IsRun plan start world (jobs' ++ jobs) replies := by
  obtain ⟨events, state, marked, follows, ran, shows⟩ := isRun
  obtain ⟨done, split, answered⟩ := shows.split
  refine ⟨events, state, marked, follows, ran,
    { shows with split := ⟨done, ?_, answered⟩, plans := ?_ }⟩
  · have nothing : jobs'.filterMap Job.mark? = [] :=
      List.filterMap_eq_nil_iff.mpr fun other listed => (others other listed).1
    rw [List.filterMap_append, nothing, List.nil_append]
    rwa [List.filterMap_cons_none idle] at split
  · exact List.forall_mem_append.mpr ⟨fun other listed => (others other listed).2,
      (List.forall_mem_cons.mp shows.plans).2⟩

section Running

variable {place : Place} {engine : Nat} {task : Task}

/-- A running job goes on. -/
theorem goOn {task' : Task} {after : World}
    (isRun : IsRun plan start world (⟨place, .running engine task⟩ :: jobs) replies)
    (event : Nat → Event) (internal : ∀ index, (event index).Internal)
    (went : ∀ tasks index, tasks[index]? = some (engine, task) →
      Traffic.step? ⟨world, tasks⟩ (event index) =
        some ⟨after, tasks.set index (engine, task')⟩) :
    IsRun plan start after (⟨place, .running engine task'⟩ :: jobs) replies := by
  obtain ⟨events, ⟨now, tasks⟩, marked, follows, ran, shows⟩ := isRun
  obtain rfl : now = world := shows.world
  obtain rfl : marked.map Prod.snd = tasks := shows.tasks
  obtain ⟨done, split, answered⟩ := shows.split
  have listed : (place, engine, task) ∈ marked := split.mem_iff.mpr List.mem_cons_self
  obtain ⟨index, present⟩ := List.getElem?_of_mem listed
  have there : (marked.map Prod.snd)[index]? = some (engine, task) := by
    rw [List.getElem?_map, present, Option.map_some]
  refine extend (marked.set index (place, engine, task')) follows ran
    (.internal (internal index)) (went _ index there) ⟨rfl, List.map_set, ?_, ?_, ?_⟩
  · rw [asked_concat (internal index), ← shows.asked, List.map_set]
    exact set_of_getElem? (by rw [List.getElem?_map, present, Option.map_some])
  · exact ⟨done, set_perm present split, answered⟩
  · exact List.forall_mem_cons.mpr ⟨nofun, (List.forall_mem_cons.mp shows.plans).2⟩

/-- A running job is answered. -/
theorem answer {reply : Reply}
    (isRun : IsRun plan start world (⟨place, .running engine (.finished reply)⟩ :: jobs) replies) :
    IsRun plan start world jobs ((place, reply) :: replies) := by
  obtain ⟨events, state, marked, follows, ran, shows⟩ := isRun
  obtain ⟨done, split, answered⟩ := shows.split
  refine ⟨events, state, marked, follows, ran, { shows with
    split := ⟨(place, engine, .finished reply) :: done, ?_, fun listed => ?_⟩
    plans := (List.forall_mem_cons.mp shows.plans).2 }⟩
  · exact split.trans List.perm_middle.symm
  · rcases List.mem_cons.mp listed with same | listed
    · cases same
      exact ⟨engine, List.mem_cons_self⟩
    · obtain ⟨engine, listed⟩ := answered listed
      exact ⟨engine, List.mem_cons_of_mem _ listed⟩

/-- A job begins to run. -/
theorem ask {delay : Nat} {command : Command}
    (isRun : IsRun plan start world (job :: jobs) replies)
    (planned : job.progress.plan? = some (.command engine delay command))
    (engines : ∀ {place : Place} {engine : Nat} {command : Command},
      plan.commandAt? place = some (engine, command) → engine < world.libraries.length) :
    IsRun plan start (Task.begin world command).1
      (⟨job.place, .running engine (Task.begin world command).2⟩ :: jobs) replies := by
  have here : plan.commandAt? job.place = some (engine, command) := by
    rw [Plan.commandAt?, isRun.planned planned]
  obtain ⟨events, ⟨now, tasks⟩, marked, follows, ran, shows⟩ := isRun
  obtain rfl : now = world := shows.world
  obtain rfl : marked.map Prod.snd = tasks := shows.tasks
  obtain ⟨done, split, answered⟩ := shows.split
  refine extend (marked ++ [(job.place, engine, (Task.begin now command).2)]) follows ran
    (.ask here) (step?_ask_eq_some_iff.mpr ⟨engines here, rfl⟩) ⟨rfl, List.map_append, ?_, ?_, ?_⟩
  · rw [asked_append, List.map_append, List.map_append, shows.asked, List.map_singleton, here]
    rfl
  · rw [List.filterMap_cons_none (Job.mark?_eq_none planned)] at split
    exact ⟨done, (List.perm_append_singleton _ _).trans (split.cons _), answered⟩
  · exact List.forall_mem_cons.mpr ⟨nofun, (List.forall_mem_cons.mp shows.plans).2⟩

end Running

/-- A job begins to wait for its moment. -/
theorem delay {place : Place} {planned : Plan}
    (isRun : IsRun plan start world (⟨place, .planned planned⟩ :: jobs) replies) (timer : Timer) :
    IsRun plan start world.newCall.1 (⟨place, .delayed timer planned⟩ :: jobs) replies := by
  refine (isRun.passes .number fun _ => rfl).replace rfl [_] ?_
  exact List.forall_mem_singleton.mpr ⟨rfl, isRun.planned⟩

/-- A job launches other jobs. -/
theorem launch {delay : Nat} {plans : List Plan}
    (isRun : IsRun plan start world (job :: jobs) replies)
    (planned : job.progress.plan? = some (.launch delay plans)) :
    IsRun plan start world (Job.launched job.place plans ++ jobs) replies := by
  refine isRun.replace (Job.mark?_eq_none planned) _ fun other listed => ?_
  obtain ⟨index, launched, numbered, rfl⟩ := Job.exists_of_launched listed
  refine ⟨rfl, fun same => ?_⟩
  cases same
  rw [Plan.at?_append, isRun.planned planned, Option.bind_some, Plan.at?, numbered,
    Option.bind_some, Plan.at?]

/-- A job gets another turn. -/
theorem resume (isRun : IsRun plan start world (job :: jobs) replies) :
    IsRun plan start world ({ job with progress := job.progress.resume } :: jobs) replies := by
  obtain ⟨place, progress⟩ := job
  cases progress with
  | planned planned => exact isRun
  | delayed timer planned => exact isRun
  | running engine task =>
    refine isRun.goOn .resume .resume fun tasks index present => ?_
    exact step?_resume_eq_some_iff.mpr ⟨engine, task, present, rfl⟩

end IsRun

def jobs (schedule : Schedule) : List Job :=
  schedule.queue ++ schedule.waiting

theorem jobs_enqueue (schedule : Schedule) (added : List Job) :
    (schedule.enqueue added).jobs.Perm (added ++ schedule.jobs) := by
  simp only [jobs, enqueue]
  exact (List.perm_append_comm.append_right _).trans (List.Perm.of_eq (List.append_assoc _ _ _))

theorem jobs_putBack (schedule : Schedule) (job : Job) :
    (schedule.putBack job).jobs.Perm (job :: schedule.jobs) := by
  rw [putBack]
  split
  · exact schedule.jobs_enqueue [job]
  · exact List.perm_middle

theorem world_putBack (schedule : Schedule) (job : Job) :
    (schedule.putBack job).world = schedule.world := by
  rw [putBack]
  split <;> rfl

theorem replies_putBack (schedule : Schedule) (job : Job) :
    (schedule.putBack job).replies = schedule.replies := by
  rw [putBack]
  split <;> rfl

theorem jobs_wake (schedule : Schedule) : schedule.wake.jobs.Perm schedule.jobs := by
  have woken (waiting : List Job) :
      (waiting.filterMap (wokenJob? schedule.world)).map Prod.snd =
        waiting.filter fun job => !(job.progress.woken? schedule.world).isNone := by
    induction waiting with
    | nil => rfl
    | cons job rest ih =>
      cases due : job.progress.woken? schedule.world with
      | none => simp [wokenJob?, due, ih]
      | some number => simp [wokenJob?, due, ih]
  have sorted := List.mergeSort_perm (schedule.waiting.filterMap (wokenJob? schedule.world))
    fun a b => decide (a.1 ≤ b.1)
  have moved := (sorted.map Prod.snd).trans (List.Perm.of_eq (woken schedule.waiting))
  have both := List.perm_append_comm.trans (List.filter_append_perm
    (fun job => (job.progress.woken? schedule.world).isNone) schedule.waiting)
  calc
    List.Perm schedule.wake.jobs _ := jobs_enqueue _ _
    List.Perm _ _ := moved.append_right _
    List.Perm _ _ := List.perm_append_comm_assoc _ _ _
    List.Perm _ schedule.jobs := both.append_left _

/-- A schedule is at a state of an interleaving of the commands of a plan. -/
def Runs (plan : Plan) (start : World) (schedule : Schedule) : Prop :=
  IsRun plan start schedule.world schedule.jobs schedule.replies

section Runs

variable {plan : Plan} {start : World} (orderly : Traffic.Orderly ⟨start, []⟩)
  (engines : ∀ {place : Place} {engine : Nat} {command : Command},
    plan.commandAt? place = some (engine, command) → engine < start.libraries.length)

include orderly in
/-- There are as many engines as at the start. -/
theorem IsRun.libraries {world : World} {jobs : List Job} {replies : Replies}
    (isRun : IsRun plan start world jobs replies) :
    world.libraries.length = start.libraries.length := by
  obtain ⟨events, state, marked, -, ran, shows⟩ := isRun
  rw [← shows.world]
  exact (orderly.run ran).2.libraries

include orderly engines

/-- A turn of a job is a part of an interleaving. -/
theorem turn_runs (bound : Nat) {schedule : Schedule} {job : Job}
    (isRun : IsRun plan start schedule.world (job :: schedule.jobs) schedule.replies) :
    (turn bound schedule job).Runs plan start := by
  have putBack {schedule : Schedule} {job : Job}
      (isRun : IsRun plan start schedule.world (job :: schedule.jobs) schedule.replies) :
      (schedule.putBack job).Runs plan start := by
    rw [Runs, world_putBack, replies_putBack]
    exact isRun.perm (jobs_putBack schedule job).symm
  induction bound generalizing schedule job with
  | zero => exact putBack isRun
  | succ bound ih =>
    obtain ⟨place, progress⟩ := job
    have turned := progress.move_turn schedule.world
    rw [turn]
    generalize progress.move schedule.world = move at turned
    -- Whenever a job goes on, others are woken.
    have goesOn {world : World} {progress : Progress}
        (isRun : IsRun plan start world (⟨place, progress⟩ :: schedule.jobs) schedule.replies) :
        (turn bound { schedule with world }.wake ⟨place, progress⟩).Runs plan start :=
      ih (isRun.perm ((jobs_wake { schedule with world }).symm.cons _))
    cases turned with
    | ask planned =>
      have known := isRun.libraries orderly
      exact goesOn (isRun.ask planned fun here => known ▸ engines here)
    | launch planned => exact (isRun.launch planned).perm (schedule.jobs_enqueue _).symm
    | delay => exact goesOn (isRun.delay _)
    | step went =>
      refine goesOn (isRun.goOn .proceed .proceed fun tasks index present => ?_)
      exact step?_proceed_eq_some_iff.mpr ⟨_, _, present, _, went, rfl⟩
    | answer => exact isRun.answer
    | wait => exact putBack isRun

/-- Turns of jobs make up an interleaving. -/
theorem run_runs (bound : Nat) {schedule : Schedule} (runs : schedule.Runs plan start) :
    (run bound schedule).Runs plan start := by
  induction bound generalizing schedule with
  | zero => exact runs
  | succ bound ih =>
    rw [run]
    split
    · next job queue waits =>
      refine ih (turn_runs orderly engines limit ?_)
      rw [Runs, jobs, waits, List.cons_append] at runs
      exact runs.resume
    · split
      · next moment due =>
        refine ih ?_
        exact (runs.passes (.wait moment) fun _ => rfl).perm
          (jobs_wake { schedule with world.clock := max schedule.world.clock moment }).symm
      · exact runs

/-- What carrying out a plan comes to is come to by an interleaving of the commands of the plan, and
each answer is the answer to the command at its place. -/
theorem perform_isRun : ∃ events state, (∀ event ∈ events, Follows plan event) ∧
    (⟨start, []⟩ : Traffic).run? events = some state ∧ state.world = (perform start plan).1 ∧
    ∀ {place : Place} {reply : Reply}, (place, reply) ∈ (perform start plan).2 →
      ∃ index engine command, plan.commandAt? place = some (engine, command) ∧
        (asked events)[index]? = some command ∧ state.reply? index = some reply := by
  have first : Runs plan start ⟨start, [⟨[], .planned plan⟩], [], []⟩ := by
    refine ⟨[], ⟨start, []⟩, [], nofun, rfl, rfl, rfl, rfl, ⟨[], .nil, nofun⟩, ?_⟩
    refine List.forall_mem_singleton.mpr fun same => ?_
    cases same
    rfl
  obtain ⟨events, state, marked, follows, ran, shows⟩ :=
    run_runs orderly engines limit first
  refine ⟨events, state, follows, ran, shows.world, fun {place reply} listed => ?_⟩
  obtain ⟨done, split, answered⟩ := shows.split
  obtain ⟨engine, finished⟩ := answered listed
  obtain ⟨index, present⟩ :=
    List.getElem?_of_mem (split.mem_iff.mpr (List.mem_append_right _ finished))
  have task : state.tasks[index]? = some (engine, .finished reply) := by
    rw [← shows.tasks, List.getElem?_map, present, Option.map_some]
  have wanted := congrArg (·[index]?) shows.asked
  simp only [List.getElem?_map, present, Option.map_some] at wanted
  obtain ⟨command, asked, here⟩ := Option.map_eq_some_iff.mp wanted.symm
  obtain ⟨⟨engine', command'⟩, planned, same⟩ := Option.map_eq_some_iff.mp here.symm
  cases same
  exact ⟨index, engine', _, planned, asked, reply?_eq_some_iff.mpr ⟨engine, task⟩⟩

end Runs

/-- Where a plan asks nothing but queries about buffers, each answer is what a fresh engine answers
that carries out nothing but the query at the same place. -/
theorem answered_alone_of_perform {config : Config} {source : Source} {provision : Provision}
    {engines : Nat} {plan : Plan} (provides : source.Provides config provision)
    (buffers : ∀ {place : Place} {engine : Nat} {command : Command},
      plan.commandAt? place = some (engine, command) →
        engine < engines ∧ ∃ wanted : BufferQuery, command = wanted.command)
    {place : Place} {reply : Reply}
    (answered : (place, reply) ∈ (perform (.initial config source engines) plan).2) :
    ∃ engine, ∃ wanted : BufferQuery, plan.commandAt? place = some (engine, wanted.command) ∧
      AnsweredAlone config source wanted reply := by
  have orderly := orderly_initial config source engines
  have known {place : Place} {engine : Nat} {command : Command}
      (planned : plan.commandAt? place = some (engine, command)) :
      engine < (World.initial config source engines).libraries.length := by
    rw [World.initial, List.length_replicate]
    exact (buffers planned).1
  obtain ⟨events, state, follows, ran, -, replies⟩ := perform_isRun orderly known
  obtain ⟨index, engine, command, planned, asked, replied⟩ := replies answered
  obtain ⟨-, wanted, rfl⟩ := buffers planned
  refine ⟨engine, wanted, planned, (answeredAlone_iff provides).mpr ?_⟩
  obtain ⟨faithful, -⟩ := (faithful_initial provides engines).run orderly (fun event listed => by
    cases follows event listed with
    | @ask place engine command planned =>
      obtain ⟨-, wanted, rfl⟩ := buffers planned
      exact .ask engine wanted
    | internal internal => exact internal.allowed) ran
  exact faithful.expects asked replied

end Schedule

end DiagramAssist
