import DiagramAssist.Engine.Plan

/-! # Carrying out plans

Jobs that can go on stand in a queue and have turns. In its turn a job goes on until it has to wait.
A job whose wait ends goes to the end of the queue at that moment; if the waits of several jobs end
at once, the job that began to wait first comes first. When no job can go on, the clock jumps to the
next moment at which one can. A bound on the number of turns keeps this total; a run that reaches it
leaves jobs unfinished.
-/

namespace DiagramAssist

abbrev Replies : Type :=
  List (Place × Reply)

/-- The answer to the command at a place, if the command has been carried out. -/
def Replies.at? (replies : Replies) (place : Place) : Option Reply :=
  replies.lookup place

/-- What is going on. -/
structure Schedule where
  world : World
  /-- The jobs that can go on, the next one first. -/
  queue : List Job
  /-- The jobs that wait. -/
  waiting : List Job
  replies : Replies

namespace Schedule

/-- How many steps a turn may take, and how many turns a run. -/
def limit : Nat := 1000000

def enqueue (schedule : Schedule) (jobs : List Job) : Schedule :=
  { schedule with queue := schedule.queue ++ jobs }

/-- The number of the wait of a job that is over. -/
def wokenJob? (world : World) (job : Job) : Option (Nat × Job) :=
  (job.progress.woken? world).map fun number => (number, job)

/-- Puts the jobs whose waits are over into the queue. -/
def wake (schedule : Schedule) : Schedule :=
  let woken := schedule.waiting.filterMap (wokenJob? schedule.world)
  let waiting := schedule.waiting.filter fun job => (job.progress.woken? schedule.world).isNone
  let inOrder := woken.mergeSort fun a b => decide (a.1 ≤ b.1)
  let rest := { schedule with waiting }
  rest.enqueue (inOrder.map fun (_, job) => job)

/-- A job whose turn is over. -/
def putBack (schedule : Schedule) (job : Job) : Schedule :=
  if (job.progress.woken? schedule.world).isSome then schedule.enqueue [job]
  else { schedule with waiting := job :: schedule.waiting }

/-- A job goes on until it has to wait, in at most `bound` steps. -/
def turn : (bound : Nat) → Schedule → Job → Schedule
  | 0, schedule, job => schedule.putBack job
  | bound + 1, schedule, job =>
    match job.progress.move schedule.world with
    | .goesOn world progress => turn bound { schedule with world }.wake { job with progress }
    | .launches plans => schedule.enqueue (Job.launched job.place plans)
    | .answers reply => { schedule with replies := (job.place, reply) :: schedule.replies }
    | .waits => schedule.putBack job

/-- The next moment at which a waiting job goes on. -/
def nextDue? (schedule : Schedule) : Option Nat :=
  (schedule.waiting.filterMap fun job => job.progress.due?).min?

/-- The clock shows a later moment. -/
def advance (schedule : Schedule) (moment : Nat) : Schedule :=
  { schedule with world.clock := max schedule.world.clock moment }.wake

/-- Gives turns to jobs until none can go on any more. -/
def run : (bound : Nat) → Schedule → Schedule
  | 0, schedule => schedule
  | bound + 1, schedule =>
    match schedule.queue with
    | job :: queue =>
      run bound (turn limit { schedule with queue } { job with progress := job.progress.resume })
    | [] =>
      match schedule.nextDue? with
      | some moment => run bound (schedule.advance moment)
      | none => schedule

def perform (world : World) (plan : Plan) : World × Replies :=
  let schedule := run limit ⟨world, [⟨[], .planned plan⟩], [], []⟩
  (schedule.world, schedule.replies)

end Schedule

end DiagramAssist
