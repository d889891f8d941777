import DiagramAssist.Engine.Task

/-! # Plans and jobs

A plan says what is to be done, and what it starts. A job is a plan that is being carried out. It
has a place: the way to its plan from the plan it all started with.
-/

namespace DiagramAssist

/-- Something to be done after a delay. -/
inductive Plan where
  | command (engine delay : Nat) (command : Command)
  /-- Other plans are started, in order. -/
  | launch (delay : Nat) (plans : List Plan)

namespace Plan

def nothing : Plan :=
  .launch 0 []

instance : Inhabited Plan := ⟨nothing⟩

/-- How long a plan waits before it begins. -/
def delay : Plan → Nat
  | .command _ delay _ => delay
  | .launch delay _ => delay

end Plan

/-- The numbers of the plans on the way to a plan, among those that are launched together. -/
abbrev Place : Type :=
  List Nat

/-- How far a plan has got. -/
inductive Progress where
  | planned (plan : Plan)
  | delayed (timer : Timer) (plan : Plan)
  | running (engine : Nat) (task : Task)

/-- A plan that is being carried out. -/
structure Job where
  place : Place
  progress : Progress

instance : Inhabited Job := ⟨⟨[], .planned .nothing⟩⟩

inductive Move where
  | goesOn (world : World) (progress : Progress)
  | launches (plans : List Plan)
  | answers (reply : Reply)
  | waits

namespace Progress

/-- Begins a plan after its delay. -/
def begin (world : World) : Plan → Move
  | .command engine _ command =>
    let (world, task) := Task.begin world command
    .goesOn world (.running engine task)
  | .launch _ plans => .launches plans

def move (world : World) : Progress → Move
  | .planned plan =>
    if plan.delay = 0 then begin world plan
    else
      let (world, timer) := world.startTimer plan.delay
      .goesOn world (.delayed timer plan)
  | .delayed timer plan => if world.isOver timer then begin world plan else .waits
  | .running engine task =>
    match task.reply? with
    | some reply => .answers reply
    | none =>
      match task.step engine world with
      | some (world, task) => .goesOn world (.running engine task)
      | none => .waits

/-- A job that waits gets a turn. -/
def resume : Progress → Progress
  | .running engine task => .running engine task.resume
  | progress => progress

/-- The number of the wait that is over, if the job waited and can go on. -/
def woken? (world : World) : Progress → Option Nat
  | .planned _ => none
  | .delayed timer _ => world.ended? timer
  | .running engine task => task.woken? engine world

/-- When a waiting job goes on by itself. -/
def due? : Progress → Option Nat
  | .planned _ => none
  | .delayed timer _ => some timer.due
  | .running _ task => task.due?

end Progress

/-- The jobs of plans that are launched from a place. -/
def Job.launched (place : Place) (plans : List Plan) : List Job :=
  plans.zipIdx.map fun (plan, index) => ⟨place ++ [index], .planned plan⟩

end DiagramAssist
