import DiagramAssist.Client
import DiagramAssist.Proofs.Engine.Traffic

/-! # Requests that are handled together

The service starts a handler for each request. A handler whose request asks for something asks an
engine, whose tasks are interleaved with those of other handlers and with everything else that
happens to the engines; then it sends the response. Handlers go on in any order.

What a handler sends is the response to its own request: it is made of the reply to the command that
the handler itself has asked (`Handling.Sound.answers`), and no two handlers have asked for the same
task (`Handling.Sound.distinct`).
-/

namespace DiagramAssist

namespace Traffic

/-- There is one task for each command that has been asked. -/
theorem length_tasks_of_run? {state after : Traffic} {events : List Event}
    (ran : state.run? events = some after) :
    after.tasks.length = state.tasks.length + (asked events).length := by
  induction events generalizing state with
  | nil =>
    cases ran
    rfl
  | cons event rest ih =>
    obtain ⟨next, went, ran⟩ := run?_cons_eq_some_iff.mp ran
    rw [ih ran, ← List.singleton_append, asked_append, List.length_append]
    suffices same : next.tasks.length = state.tasks.length + (asked [event]).length by omega
    cases event with
    | ask engine command =>
      obtain ⟨-, rfl⟩ := step?_ask_eq_some_iff.mp went
      exact List.length_append
    | proceed index =>
      obtain ⟨engine, task, -, outcome, -, rfl⟩ := step?_proceed_eq_some_iff.mp went
      exact List.length_set
    | resume index =>
      obtain ⟨engine, task, -, rfl⟩ := step?_resume_eq_some_iff.mp went
      exact List.length_set
    | wait moment =>
      cases went
      rfl
    | number =>
      cases went
      rfl
    | change source =>
      cases went
      rfl

end Traffic

/-- What is read off a list does not change with an item off which the same is read. -/
theorem map_set_of_eq {α β : Type} {items : List α} {item : α} {index : Nat}
    (present : items[index]? = some item) (read : α → β) (item' : α)
    (same : read item' = read item) : (items.set index item').map read = items.map read := by
  obtain ⟨inside, rfl⟩ := List.getElem?_eq_some_iff.mp present
  rw [List.map_set, same, ← List.getElem_map read (h := by simpa)]
  exact List.set_getElem_self _

/-- What one item of a list contributes to a selection, and what the others do. -/
theorem exists_filterMap_others {α β : Type} (select : α → Option β) {items : List α} {item : α}
    {index : Nat} (present : items[index]? = some item) :
    ∃ others : Multiset β, (items.filterMap select : Multiset β) = (select item).toList + others ∧
      ∀ item' : α, ((items.set index item').filterMap select : Multiset β) =
        (select item').toList + others := by
  obtain ⟨inside, rfl⟩ := List.getElem?_eq_some_iff.mp present
  have replaced (item' : α) : ((items.set index item').filterMap select : Multiset β) =
      (select item').toList + ((items.take index).filterMap select ++
        (items.drop (index + 1)).filterMap select : List β) := by
    rw [List.set_eq_take_cons_drop item' inside, List.filterMap_append, Multiset.coe_add,
      Multiset.coe_eq_coe]
    cases picked : select item' with
    | none =>
      rw [List.filterMap_cons_none picked, Option.toList_none, List.nil_append]
    | some chosen =>
      rw [List.filterMap_cons_some picked, Option.toList_some]
      exact List.perm_middle
  refine ⟨_, ?_, replaced⟩
  rw [← replaced, List.set_getElem_self]

namespace Service

theorem id_respond (id : Nat) (result : Except ServiceError Json) :
    (respond id result).id = id := by
  cases result <;> rfl

theorem id_respondTo (id : Nat) (reply : Option Reply) : (respondTo id reply).id = id :=
  id_respond id _

theorem accept_eq_running_iff {request : Request} {id : Nat} {command : Command} :
    accept request = .running id command ↔ id = request.id ∧
      ∃ operation, Operation.ofRequest request = .ok operation ∧ operation.command = command := by
  rw [accept]
  cases Operation.ofRequest request with
  | ok operation =>
    constructor
    · intro running
      cases running
      exact ⟨rfl, operation, rfl, rfl⟩
    · rintro ⟨rfl, _, same, rfl⟩
      cases same
      rfl
  | error error => exact ⟨nofun, fun ⟨_, _, asks, _⟩ => nomatch asks⟩

theorem accept_eq_answered_iff {request : Request} {response : Response} :
    accept request = .answered response ↔
      ∃ error, Operation.ofRequest request = .error error ∧
        response = respond request.id (.error error) := by
  rw [accept]
  cases Operation.ofRequest request with
  | ok operation => exact ⟨nofun, fun ⟨_, refused, _⟩ => nomatch refused⟩
  | error error =>
    constructor
    · intro answered
      cases answered
      exact ⟨error, rfl, rfl⟩
    · rintro ⟨_, same, rfl⟩
      cases same
      rfl

/-- The work on a request. -/
structure Handler where
  request : Request
  /-- The number of the task that carries out what the request asks for. -/
  task? : Option Nat
  /-- The response that has been sent. -/
  sent? : Option Response

namespace Handler

def fresh (request : Request) : Handler :=
  ⟨request, none, none⟩

/-- What an engine has still to be asked. -/
def command? (handler : Handler) : Option Command :=
  match handler.task?, accept handler.request with
  | none, .running _ command => some command
  | _, _ => none

/-- The response, as soon as it is there. -/
def response? (traffic : Traffic) (handler : Handler) : Option Response :=
  match accept handler.request with
  | .answered response => some response
  | .running id _ => (handler.task?.bind traffic.reply?).map fun reply => respondTo id (some reply)

/-- The number of a request to which no response has been sent. -/
def working? (handler : Handler) : Option Nat :=
  if handler.sent?.isSome then none else some handler.request.id

end Handler

/-- An engine at work for handlers. -/
structure Handling where
  engine : Nat
  traffic : Traffic
  /-- What has happened to the engines so far. -/
  history : List Traffic.Event
  handlers : List Handler

namespace Handling

/-- No request has come, and the engines have done nothing. -/
def initial (config : Config) (source : Source) (engines engine : Nat) : Handling :=
  ⟨engine, .initial config source engines, [], []⟩

def spawn (handling : Handling) (request : Request) : Handling :=
  { handling with handlers := handling.handlers ++ [.fresh request] }

/-- What can happen while requests are handled. -/
inductive Event where
  /-- The handler with this number asks the engine. -/
  | begin (index : Nat)
  /-- Anything happens to the engines. -/
  | engine (event : Traffic.Event)

def happen? (handling : Handling) (event : Traffic.Event) : Option Handling :=
  (handling.traffic.step? event).map fun traffic =>
    { handling with traffic, history := handling.history ++ [event] }

def setHandler (handling : Handling) (index : Nat) (handler : Handler) : Handling :=
  { handling with handlers := handling.handlers.set index handler }

def step? (handling : Handling) : Event → Option Handling
  | .begin index => do
    let handler ← handling.handlers[index]?
    let command ← handler.command?
    let next ← handling.happen? (.ask handling.engine command)
    return next.setHandler index { handler with task? := some handling.traffic.tasks.length }
  | .engine event => handling.happen? event

def finish? (handling : Handling) (index : Nat) : Option (Handling × Response) := do
  let handler ← handling.handlers[index]?
  let response ← handler.response? handling.traffic
  if handler.sent?.isSome then none
  else return (handling.setHandler index { handler with sent? := some response }, response)

/-- What the service answers to the request of a handler. A request that asks for nothing is
answered with the error. Any other gets the result of the reply to the command that it stands for,
asked by the handler itself. -/
inductive Answers (handling : Handling) (handler : Handler) : Except ServiceError Json → Prop where
  | refused {error : ServiceError}
      (refused : Operation.ofRequest handler.request = .error error) :
      Answers handling handler (.error error)
  | replied {operation : Operation} {task : Nat} {reply : Reply}
      (asks : Operation.ofRequest handler.request = .ok operation)
      (begun : handler.task? = some task)
      (asked : (Traffic.asked handling.history)[task]? = some operation.command)
      (answered : handling.traffic.reply? task = some reply) :
      Answers handling handler reply.result

variable {handling after : Handling} {handler : Handler} {index : Nat} {response : Response}
  {event : Event} {config : Config} {source : Source} {engines : Nat}

theorem happen?_eq_some_iff {event : Traffic.Event} :
    handling.happen? event = some after ↔
      ∃ traffic, handling.traffic.step? event = some traffic ∧
        { handling with traffic, history := handling.history ++ [event] } = after :=
  Option.map_eq_some_iff

theorem step?_begin_eq_some_iff :
    handling.step? (.begin index) = some after ↔
      ∃ handler command next, handling.handlers[index]? = some handler ∧
        handler.command? = some command ∧
        handling.happen? (.ask handling.engine command) = some next ∧
        next.setHandler index { handler with task? := some handling.traffic.tasks.length } =
          after := by
  simp only [step?, bind, Option.bind_eq_some_iff, pure, Option.some.injEq]
  constructor
  · rintro ⟨handler, present, command, wanted, next, happened, rfl⟩
    exact ⟨handler, command, next, present, wanted, happened, rfl⟩
  · rintro ⟨handler, command, next, present, wanted, happened, rfl⟩
    exact ⟨handler, present, command, wanted, next, happened, rfl⟩

theorem finish?_eq_some_iff :
    handling.finish? index = some (after, response) ↔
      ∃ handler, handling.handlers[index]? = some handler ∧
        handler.response? handling.traffic = some response ∧ handler.sent? = none ∧
        handling.setHandler index { handler with sent? := some response } = after := by
  simp only [finish?, bind, Option.bind_eq_some_iff]
  constructor
  · rintro ⟨handler, present, response, here, sent⟩
    split at sent
    · cases sent
    · next unsent =>
      cases sent
      exact ⟨handler, present, here, by simpa using unsent, rfl⟩
  · rintro ⟨handler, present, here, unsent, rfl⟩
    exact ⟨handler, present, response, here, by simp [unsent]⟩

theorem command?_eq_some_iff {command : Command} :
    handler.command? = some command ↔
      handler.task? = none ∧ ∃ id, accept handler.request = .running id command := by
  rw [Handler.command?]
  cases handler.task? <;> cases accept handler.request <;> simp

theorem response?_eq_some_iff {traffic : Traffic} :
    handler.response? traffic = some response ↔
      accept handler.request = .answered response ∨
        ∃ id command task reply, accept handler.request = .running id command ∧
          handler.task? = some task ∧ traffic.reply? task = some reply ∧
          respondTo id (some reply) = response := by
  rw [Handler.response?]
  cases accepted : accept handler.request with
  | answered => simp
  | running id command =>
    simp only [Option.map_eq_some_iff, Option.bind_eq_some_iff, reduceCtorEq, false_or]
    constructor
    · rintro ⟨reply, ⟨task, begun, answered⟩, rfl⟩
      exact ⟨id, command, task, reply, rfl, begun, answered, rfl⟩
    · rintro ⟨id', command', task, reply, same, begun, answered, rfl⟩
      cases same
      exact ⟨reply, ⟨task, begun, answered⟩, rfl⟩

/-- A response has the number of its request. -/
theorem id_of_response? {traffic : Traffic} (here : handler.response? traffic = some response) :
    response.id = handler.request.id := by
  obtain refused | ⟨id, command, task, reply, accepted, -, -, rfl⟩ := response?_eq_some_iff.mp here
  · obtain ⟨error, -, rfl⟩ := accept_eq_answered_iff.mp refused
    exact id_respond _ _
  · rw [id_respondTo, (accept_eq_running_iff.mp accepted).1]

/-- A response that is there stays as it is, whatever happens to the engines. -/
theorem response?_of_run? {traffic later : Traffic} {events : List Traffic.Event}
    (here : handler.response? traffic = some response) (ran : traffic.run? events = some later) :
    handler.response? later = some response := by
  rw [response?_eq_some_iff] at here ⊢
  refine here.imp_right ?_
  rintro ⟨id, command, task, reply, accepted, begun, answered, same⟩
  exact ⟨id, command, task, reply, accepted, begun, Traffic.reply?_of_run? answered ran, same⟩

/-- Before handlers finish, nothing of them changes but their tasks. -/
theorem map_handlers_of_step {α : Type} (went : handling.step? event = some after)
    (read : Handler → α) (blind : ∀ handler task?, read { handler with task? } = read handler) :
    after.handlers.map read = handling.handlers.map read := by
  cases event with
  | begin index =>
    obtain ⟨handler, command, next, present, -, happened, rfl⟩ := step?_begin_eq_some_iff.mp went
    obtain ⟨traffic, -, rfl⟩ := happen?_eq_some_iff.mp happened
    exact map_set_of_eq present read _ (blind _ _)
  | engine event =>
    obtain ⟨traffic, -, rfl⟩ := happen?_eq_some_iff.mp went
    rfl

theorem filterMap_handlers_of_step {α : Type} (went : handling.step? event = some after)
    (select : Handler → Option α)
    (blind : ∀ handler task?, select { handler with task? } = select handler) :
    after.handlers.filterMap select = handling.handlers.filterMap select := by
  have kept := congrArg (List.filterMap id) (map_handlers_of_step went select blind)
  rwa [List.filterMap_map, List.filterMap_map] at kept

/-- What is known of handlers: the engines have got where they are by what has happened to them,
each handler has asked what its request stands for, all in different tasks, and has sent nothing but
its response. -/
structure Sound (config : Config) (source : Source) (engines : Nat) (handling : Handling) :
    Prop where
  ran : (Traffic.initial config source engines).run? handling.history = some handling.traffic
  asked : ∀ handler ∈ handling.handlers, ∀ {task : Nat}, handler.task? = some task →
    ∃ id command, accept handler.request = .running id command ∧
      (Traffic.asked handling.history)[task]? = some command
  distinct : (handling.handlers.filterMap Handler.task?).Nodup
  sent : ∀ handler ∈ handling.handlers, ∀ {response : Response}, handler.sent? = some response →
    handler.response? handling.traffic = some response

namespace Sound

theorem initial (config : Config) (source : Source) (engines engine : Nat) :
    (Handling.initial config source engines engine).Sound config source engines where
  ran := rfl
  asked := nofun
  distinct := List.nodup_nil
  sent := nofun

/-- The response of a handler has the number of its request, and says what the service answers to
it. -/
theorem answers (sound : handling.Sound config source engines)
    (listed : handler ∈ handling.handlers)
    (here : handler.response? handling.traffic = some response) :
    ∃ result, response = respond handler.request.id result ∧ handling.Answers handler result := by
  obtain refused | ⟨id, command, task, reply, accepted, begun, answered, rfl⟩ :=
    response?_eq_some_iff.mp here
  · obtain ⟨error, asksNothing, rfl⟩ := accept_eq_answered_iff.mp refused
    exact ⟨_, rfl, .refused asksNothing⟩
  · obtain ⟨id', command', accepted', asked⟩ := sound.asked handler listed begun
    cases accepted.symm.trans accepted'
    obtain ⟨rfl, operation, asks, rfl⟩ := accept_eq_running_iff.mp accepted
    exact ⟨_, rfl, .replied asks begun asked answered⟩

theorem spawn (sound : handling.Sound config source engines) (request : Request) :
    (handling.spawn request).Sound config source engines where
  ran := sound.ran
  asked := List.forall_mem_append.mpr ⟨sound.asked, List.forall_mem_singleton.mpr nofun⟩
  distinct := by
    have same : (handling.spawn request).handlers.filterMap Handler.task? =
        handling.handlers.filterMap Handler.task? := by
      simp [Handling.spawn, Handler.fresh]
    exact same ▸ sound.distinct
  sent := List.forall_mem_append.mpr ⟨sound.sent, List.forall_mem_singleton.mpr nofun⟩

theorem happen {event : Traffic.Event} (sound : handling.Sound config source engines)
    (happened : handling.happen? event = some after) : after.Sound config source engines := by
  obtain ⟨traffic, went, rfl⟩ := happen?_eq_some_iff.mp happened
  have next : handling.traffic.run? [event] = some traffic :=
    Traffic.run?_cons_eq_some_iff.mpr ⟨traffic, went, rfl⟩
  refine ⟨Traffic.run?_append_eq_some_iff.mpr ⟨_, sound.ran, next⟩, ?_, sound.distinct, ?_⟩
  · intro handler listed task begun
    obtain ⟨id, command, accepted, asked⟩ := sound.asked handler listed begun
    refine ⟨id, command, accepted, ?_⟩
    rw [Traffic.asked_append, List.getElem?_append_left (List.getElem?_eq_some_iff.mp asked).1]
    exact asked
  · intro handler listed response sent
    exact response?_of_run? (sound.sent handler listed sent) next

/-- The tasks of handlers are among those that have been asked for. -/
theorem task_lt (sound : handling.Sound config source engines) {task : Nat}
    (listed : task ∈ handling.handlers.filterMap Handler.task?) :
    task < handling.traffic.tasks.length := by
  obtain ⟨handler, listed, begun⟩ := List.mem_filterMap.mp listed
  obtain ⟨id, command, -, asked⟩ := sound.asked handler listed begun
  rw [Traffic.length_tasks_of_run? sound.ran]
  exact Nat.lt_of_lt_of_le (List.getElem?_eq_some_iff.mp asked).1 (Nat.le_add_left _ _)

/-- A handler asks the engine: the task that is added is its task. -/
theorem begin (sound : handling.Sound config source engines)
    (went : handling.step? (.begin index) = some after) : after.Sound config source engines := by
  obtain ⟨handler, command, next, present, wanted, happened, rfl⟩ := step?_begin_eq_some_iff.mp went
  obtain ⟨unasked, id, accepted⟩ := command?_eq_some_iff.mp wanted
  have sound' := sound.happen happened
  obtain ⟨traffic, -, rfl⟩ := happen?_eq_some_iff.mp happened
  refine ⟨sound'.ran, ?_, ?_, ?_⟩
  · intro other listed task begun
    rcases List.mem_or_eq_of_mem_set listed with before | rfl
    · exact sound'.asked other before begun
    · cases begun
      refine ⟨id, command, accepted, ?_⟩
      have length := Traffic.length_tasks_of_run? sound.ran
      simp only [Traffic.initial, List.length_nil, Nat.zero_add] at length
      simp only [setHandler, Traffic.asked_append, length]
      exact List.getElem?_concat_length
  · obtain ⟨others, whole, replaced⟩ := exists_filterMap_others Handler.task? present
    rw [unasked, Option.toList_none, Multiset.coe_nil, Multiset.zero_add] at whole
    rw [← Multiset.coe_nodup]
    refine (replaced _).symm ▸ Multiset.nodup_cons.mpr ⟨fun listed => ?_, ?_⟩
    · rw [← whole, Multiset.mem_coe] at listed
      exact Nat.lt_irrefl _ (sound.task_lt listed)
    · rw [← whole, Multiset.coe_nodup]
      exact sound.distinct
  · intro other listed response sent
    rcases List.mem_or_eq_of_mem_set listed with before | rfl
    · exact sound'.sent other before sent
    · -- Nothing has been sent by a handler that has something to ask.
      have here := sound.sent handler (List.mem_of_getElem? present) sent
      rw [response?_eq_some_iff, accepted, unasked] at here
      simp at here

theorem step (sound : handling.Sound config source engines)
    (went : handling.step? event = some after) : after.Sound config source engines := by
  cases event with
  | begin index => exact sound.begin went
  | engine event => exact sound.happen went

theorem finish (sound : handling.Sound config source engines)
    (finished : handling.finish? index = some (after, response)) :
    after.Sound config source engines := by
  obtain ⟨handler, present, here, unsent, rfl⟩ := finish?_eq_some_iff.mp finished
  have listed := List.mem_of_getElem? present
  refine ⟨sound.ran, ?_, ?_, ?_⟩
  · intro other listed' task begun
    rcases List.mem_or_eq_of_mem_set listed' with before | rfl
    · exact sound.asked other before begun
    · exact sound.asked handler listed begun
  · obtain ⟨others, whole, replaced⟩ := exists_filterMap_others Handler.task? present
    rw [← Multiset.coe_nodup]
    refine (replaced _).symm ▸ whole ▸ Multiset.coe_nodup.mpr sound.distinct
  · intro other listed' response' sent
    rcases List.mem_or_eq_of_mem_set listed' with before | rfl
    · exact sound.sent other before sent
    · cases sent
      exact here

end Sound

end Handling

end Service

end DiagramAssist
