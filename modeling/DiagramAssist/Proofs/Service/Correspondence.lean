import DiagramAssist.Json.Writer
import DiagramAssist.Proofs.Service.Handling

/-! # Responses reach their callers

Any number of callers share a client. Each of them takes a number, has the client remember it, sends
its request and waits. The service starts a handler for each request that it receives, and handlers
send their responses back in any order; a router hands each response to the caller that waits for
its number. Requests and responses pass through channels with limited room, which lose nothing.

As long as there are fewer than `2 ^ 64` callers, each number is in exactly one place at any moment,
and with it the caller, the request or the response that it belongs to (`Exchange.Sound.places`).
The books are kept by three sums, one for each hand that a number passes through: what has been sent
is with the service, what handlers have sent is on its way back or has been handed over, and what is
pending has been registered and not been handed over (`Exchange.Sound`).
-/

namespace DiagramAssist

/-- What is selected from a list has as keys some of the keys of the list. -/
theorem map_filterMap_sublist {α β γ : Type} {select : α → Option β} {key : β → γ} {key' : α → γ}
    {items : List α}
    (agree : ∀ item ∈ items, ∀ chosen, select item = some chosen → key chosen = key' item) :
    ((items.filterMap select).map key).Sublist (items.map key') := by
  induction items with
  | nil => exact List.Sublist.slnil
  | cons item rest ih =>
    obtain ⟨here, agree⟩ := List.forall_mem_cons.mp agree
    cases chosen : select item with
    | none =>
      rw [List.filterMap_cons_none chosen]
      exact (ih agree).cons _
    | some value =>
      rw [List.filterMap_cons_some chosen, List.map_cons, List.map_cons, here value chosen]
      exact (ih agree).cons_cons _

/-- What is taken from the books on one side and added to them on the other leaves them balanced. -/
theorem balance {M : Type} [AddCancelCommMonoid M] {left left' taken added right rest : M}
    (moved : left' + taken = left + added) (books : left + right = taken + rest) :
    left' + right = added + rest := by
  refine add_left_cancel (a := taken) ?_
  calc
    taken + (left' + right) = left' + taken + right := by ac_rfl
    _ = left + right + added := by rw [moved]; ac_rfl
    _ = taken + (added + rest) := by rw [books]; ac_rfl

/-- The keys of a list, where each item is selected in one way or in the other. -/
theorem map_eq_filterMap_add {α β γ : Type} {first : α → Option γ} {second : α → Option β}
    {key : β → γ} {key' : α → γ} {items : List α}
    (parts : ∀ item ∈ items, (first item = some (key' item) ∧ second item = none) ∨
      (first item = none ∧ ∃ chosen, second item = some chosen ∧ key chosen = key' item)) :
    (items.map key' : Multiset γ) =
      items.filterMap first + ((items.filterMap second).map key : List γ) := by
  induction items with
  | nil => rfl
  | cons item rest ih =>
    obtain ⟨here, parts⟩ := List.forall_mem_cons.mp parts
    rw [List.map_cons, ← Multiset.cons_coe, ih parts]
    rcases here with ⟨chosen, none⟩ | ⟨none, other, chosen, same⟩
    · rw [List.filterMap_cons_some chosen, List.filterMap_cons_none none, ← Multiset.cons_coe,
        Multiset.cons_add]
    · rw [List.filterMap_cons_none none, List.filterMap_cons_some chosen, List.map_cons, same,
        ← Multiset.cons_coe, Multiset.add_cons]

/-- How far a caller has got. -/
inductive Caller.Stage where
  /-- The request has its number. -/
  | numbered
  /-- The client knows that the caller waits. -/
  | registered
  /-- The request is on its way, and the caller waits. -/
  | sent
  | returned (result : Except ServiceError Json)

/-- Somebody who has called an operation. -/
structure Caller where
  request : Request
  stage : Caller.Stage
  /-- What the caller has been handed. -/
  answer? : Option (Except ServiceError Json)

namespace Caller

/-- A caller whose request has its number, and nothing else. -/
def fresh (request : Request) : Caller :=
  ⟨request, .numbered, none⟩

/-- The number of a request that is still with the caller. -/
def unsent? (caller : Caller) : Option Nat :=
  match caller.stage with
  | .numbered => some caller.request.id
  | .registered => some caller.request.id
  | _ => none

/-- The request, if it has been sent. -/
def sent? (caller : Caller) : Option Request :=
  match caller.stage with
  | .numbered => none
  | .registered => none
  | _ => some caller.request

/-- The number of a caller who has been registered and not been handed an answer. -/
def waiting? (caller : Caller) : Option Nat :=
  match caller.stage with
  | .numbered => none
  | _ => if caller.answer?.isSome then none else some caller.request.id

/-- What the caller has been handed, under the number of the request. -/
def handed? (caller : Caller) : Option (Nat × Except ServiceError Json) :=
  caller.answer?.map fun result => (caller.request.id, result)

theorem request_of_sent? {caller : Caller} {request : Request}
    (sent : caller.sent? = some request) : caller.request = request := by
  unfold sent? at sent
  split at sent
  · cases sent
  · cases sent
  · exact Option.some.inj sent

theorem id_of_waiting? {caller : Caller} {id : Nat} (waits : caller.waiting? = some id) :
    caller.request.id = id := by
  unfold waiting? at waits
  split at waits
  · cases waits
  · exact Option.some.inj (Option.ite_none_left_eq_some.mp waits).2

end Caller

/-- A number that nobody waits for is registered. -/
theorem Client.register_of_new {client : Client} {id : Nat}
    (new : id ∉ client.pending.map Prod.fst) (caller : Nat) :
    client.register id caller = { client with pending := client.pending ++ [(id, caller)] } := by
  have kept : client.pending.filter (fun entry => entry.1 != id) = client.pending := by
    refine List.filter_eq_self.mpr fun entry listed => bne_iff_ne.mpr ?_
    rintro rfl
    exact new (List.mem_map_of_mem listed)
  rw [register, kept]

/-- What a response carries: the number of its request, and a result or an error. -/
inductive Response.Carries : Response → Nat → Except ServiceError Json → Prop where
  | result (id : Nat) (value : Json) : Carries ⟨id, some value, none⟩ id (.ok value)
  | error (id : Nat) (error : ServiceError) : Carries ⟨id, none, some error⟩ id (.error error)

theorem Response.Carries.outcome_eq {response : Response} {id : Nat}
    {result : Except ServiceError Json} (carries : response.Carries id result) :
    response.outcome = result := by
  cases carries <;> rfl

theorem Service.carries_respond (id : Nat) (result : Except ServiceError Json) :
    (respond id result).Carries id result := by
  cases result with
  | ok value => exact .result id value
  | error error => exact .error id error

/-- What a response says, under its number. -/
def Response.summary (response : Response) : Nat × Except ServiceError Json :=
  (response.id, response.outcome)

def Service.Handler.summary? (handler : Handler) : Option (Nat × Except ServiceError Json) :=
  handler.sent?.map Response.summary

/-- Callers, a client, and the service. -/
structure Exchange where
  client : Client
  callers : List Caller
  /-- Requests on their way to the service, the next one first. -/
  requests : List Request
  handling : Service.Handling
  /-- Responses on their way to the client, the next one first. -/
  responses : List Response

namespace Exchange

/-- How many messages fit into a channel. -/
def capacity : Nat := 64

def initial (config : Config) (source : Source) (engines engine : Nat) : Exchange :=
  ⟨.initial, [], [], .initial config source engines engine, []⟩

inductive Event where
  /-- Somebody calls, through any copy of the client, and gets a number. -/
  | call (operation : String) (params : Json)
  /-- The caller at this place is registered. -/
  | register (index : Nat)
  /-- The caller at this place sends the request. -/
  | send (index : Nat)
  /-- The service receives a request and starts a handler for it. -/
  | spawn
  /-- Handlers and engines go on. -/
  | handle (event : Service.Handling.Event)
  /-- The handler at this place sends its response. -/
  | finish (index : Nat)
  /-- The router receives a response and hands it over. -/
  | route
  /-- The call of the caller at this place returns. -/
  | receive (index : Nat)

def setCaller (exchange : Exchange) (index : Nat) (caller : Caller) : Exchange :=
  { exchange with callers := exchange.callers.set index caller }

/-- A caller is handed an answer. A response that nobody waits for is dropped. -/
def hand (exchange : Exchange) : Option (Nat × Except ServiceError Json) → Exchange
  | some (index, result) => { exchange with
      callers := exchange.callers.modify index fun caller =>
        { caller with answer? := some result } }
  | none => exchange

def step? (exchange : Exchange) : Event → Option Exchange
  | .call operation params =>
    let (client, id) := exchange.client.number
    some { exchange with
      client, callers := exchange.callers ++ [.fresh ⟨id, operation, params⟩] }
  | .register index => do
    let caller ← exchange.callers[index]?
    match caller.stage with
    | .numbered =>
      let client := exchange.client.register caller.request.id index
      return { exchange with client }.setCaller index { caller with stage := .registered }
    | _ => none
  | .send index => do
    let caller ← exchange.callers[index]?
    match caller.stage with
    | .registered =>
      if exchange.requests.length < capacity then
        let requests := exchange.requests ++ [caller.request]
        return { exchange with requests }.setCaller index { caller with stage := .sent }
      else none
    | _ => none
  | .spawn =>
    match exchange.requests with
    | request :: requests => some { exchange with
        requests, handling := exchange.handling.spawn request }
    | [] => none
  | .handle event => do
    let handling ← exchange.handling.step? event
    return { exchange with handling }
  | .finish index =>
    if exchange.responses.length < capacity then do
      let (handling, response) ← exchange.handling.finish? index
      return { exchange with handling, responses := exchange.responses ++ [response] }
    else none
  | .route =>
    match exchange.responses with
    | response :: responses =>
      let (client, delivered) := exchange.client.deliver response
      some ({ exchange with client, responses }.hand delivered)
    | [] => none
  | .receive index => do
    let caller ← exchange.callers[index]?
    match caller.stage with
    | .sent =>
      let result ← caller.answer?
      return exchange.setCaller index { caller with stage := .returned result }
    | _ => none

def run? (exchange : Exchange) (events : List Event) : Option Exchange :=
  events.foldlM step? exchange

inductive Turn (exchange : Exchange) : Exchange → Prop where
  | call (operation : String) (params : Json) :
      Turn exchange { exchange with
        client := exchange.client.number.1
        callers := exchange.callers ++ [.fresh ⟨exchange.client.nextId, operation, params⟩] }
  | register {index : Nat} {caller : Caller} (present : exchange.callers[index]? = some caller)
      (stage : caller.stage = .numbered) :
      Turn exchange ({ exchange with
        client := exchange.client.register caller.request.id index }.setCaller index
          { caller with stage := .registered })
  | send {index : Nat} {caller : Caller} (present : exchange.callers[index]? = some caller)
      (stage : caller.stage = .registered) :
      Turn exchange ({ exchange with
        requests := exchange.requests ++ [caller.request] }.setCaller index
          { caller with stage := .sent })
  | spawn {request : Request} {requests : List Request}
      (next : exchange.requests = request :: requests) :
      Turn exchange { exchange with requests, handling := exchange.handling.spawn request }
  | handle {event : Service.Handling.Event} {handling : Service.Handling}
      (went : exchange.handling.step? event = some handling) :
      Turn exchange { exchange with handling }
  | finish {index : Nat} {handling : Service.Handling} {response : Response}
      (finished : exchange.handling.finish? index = some (handling, response)) :
      Turn exchange { exchange with handling, responses := exchange.responses ++ [response] }
  | route {response : Response} {responses : List Response}
      (next : exchange.responses = response :: responses) :
      Turn exchange ({ exchange with
        client := (exchange.client.deliver response).1, responses }.hand
          (exchange.client.deliver response).2)
  | receive {index : Nat} {caller : Caller} {result : Except ServiceError Json}
      (present : exchange.callers[index]? = some caller) (stage : caller.stage = .sent)
      (answer : caller.answer? = some result) :
      Turn exchange (exchange.setCaller index { caller with stage := .returned result })

variable {exchange next after : Exchange} {event : Event} {events : List Event}

theorem step?_turn (went : exchange.step? event = some after) : exchange.Turn after := by
  cases event with
  | call operation params =>
    cases went
    exact .call operation params
  | register index =>
    obtain ⟨caller, present, went⟩ := Option.bind_eq_some_iff.mp went
    split at went
    · next stage =>
      cases went
      exact .register present stage
    · cases went
  | send index =>
    obtain ⟨caller, present, went⟩ := Option.bind_eq_some_iff.mp went
    split at went
    · next stage =>
      split at went
      · cases went
        exact .send present stage
      · cases went
    · cases went
  | spawn =>
    simp only [step?] at went
    split at went
    · next waits =>
      cases went
      exact .spawn waits
    · cases went
  | handle event =>
    obtain ⟨handling, moved, same⟩ := Option.bind_eq_some_iff.mp went
    cases same
    exact .handle moved
  | finish index =>
    simp only [step?] at went
    split at went
    · obtain ⟨⟨handling, response⟩, finished, same⟩ := Option.bind_eq_some_iff.mp went
      cases same
      exact .finish finished
    · cases went
  | route =>
    simp only [step?] at went
    split at went
    · next waits =>
      cases went
      exact .route waits
    · cases went
  | receive index =>
    obtain ⟨caller, present, went⟩ := Option.bind_eq_some_iff.mp went
    split at went
    · next stage =>
      obtain ⟨result, answer, same⟩ := Option.bind_eq_some_iff.mp went
      cases same
      exact .receive present stage answer
    · cases went

theorem run?_cons_eq_some_iff : exchange.run? (event :: events) = some after ↔
    ∃ next, exchange.step? event = some next ∧ next.run? events = some after := by
  simp only [run?, List.foldlM_cons, bind, Option.bind_eq_some_iff]

theorem length_hand (exchange : Exchange)
    (delivered : Option (Nat × Except ServiceError Json)) :
    (exchange.hand delivered).callers.length = exchange.callers.length := by
  cases delivered with
  | none => rfl
  | some delivered => exact List.length_modify _ _ _

/-- A caller that is there is handed an answer. -/
theorem hand_some (exchange : Exchange) {index : Nat} {caller : Caller}
    (present : exchange.callers[index]? = some caller) (result : Except ServiceError Json) :
    exchange.hand (some (index, result)) =
      exchange.setCaller index { caller with answer? := some result } := by
  simp only [hand, setCaller, List.modify_eq_set_getElem?, present, Option.map_eq_map,
    Option.map_some, Option.getD_some]

/-- Where a caller becomes another with the same request, every place still has a caller with the
same number. -/
theorem exists_setCaller {index place : Nat} {caller caller' found : Caller}
    (present : exchange.callers[index]? = some caller) (same : caller'.request = caller.request)
    (there : exchange.callers[place]? = some found) :
    ∃ found', (exchange.setCaller index caller').callers[place]? = some found' ∧
      found'.request.id = found.request.id := by
  by_cases here : place = index
  · subst here
    cases present.symm.trans there
    have inside := (List.getElem?_eq_some_iff.mp present).1
    exact ⟨caller', List.getElem?_set_self inside, by rw [same]⟩
  · exact ⟨found, (List.getElem?_set_ne (Ne.symm here)).trans there, rfl⟩

/-- Callers are never forgotten. -/
theorem Turn.length_le (turn : exchange.Turn after) :
    exchange.callers.length ≤ after.callers.length := by
  cases turn with
  | call operation params => simp
  | route next => rw [length_hand]
  | _ => simp [setCaller]

theorem length_le_of_run? (ran : exchange.run? events = some after) :
    exchange.callers.length ≤ after.callers.length := by
  induction events generalizing exchange with
  | nil =>
    cases ran
    exact Nat.le_refl _
  | cons event rest ih =>
    obtain ⟨next, went, ran⟩ := run?_cons_eq_some_iff.mp ran
    exact Nat.le_trans (step?_turn went).length_le (ih ran)

def ids (exchange : Exchange) : List Nat :=
  exchange.callers.map fun caller => caller.request.id

/-- Where the numbers of requests are: with callers that have not sent them, on the way to the
service, with handlers that have not responded, on the way back, or with callers that have been
handed what they asked for. -/
def places (exchange : Exchange) : Multiset Nat :=
  exchange.callers.filterMap Caller.unsent? +
    (exchange.requests.map fun request => request.id : List Nat) +
    exchange.handling.handlers.filterMap Service.Handler.working? +
    (exchange.responses.map fun response => response.id : List Nat) +
    ((exchange.callers.filterMap Caller.handed?).map Prod.fst : List Nat)

/-- What is known of callers, requests and responses: what has been sent is with the service, what
handlers have sent is on its way back or has been handed over, and pending is who has been
registered and not been handed an answer. -/
structure Sound (config : Config) (source : Source) (engines : Nat) (exchange : Exchange) :
    Prop where
  handling : exchange.handling.Sound config source engines
  nextId : exchange.client.nextId = (exchange.callers.length + 1) % 2 ^ 64
  ids : exchange.ids =
    (List.range exchange.callers.length).map fun index => (index + 1) % 2 ^ 64
  sent : (exchange.requests : Multiset Request) +
      exchange.handling.handlers.map (fun handler => handler.request) =
    exchange.callers.filterMap Caller.sent?
  answered : (exchange.responses.map Response.summary : Multiset (Nat × Except ServiceError Json)) +
      exchange.callers.filterMap Caller.handed? =
    exchange.handling.handlers.filterMap Service.Handler.summary?
  pending : (exchange.client.pending.map Prod.fst : Multiset Nat) =
    exchange.callers.filterMap Caller.waiting?
  registered : ∀ entry ∈ exchange.client.pending, ∃ caller,
    exchange.callers[entry.2]? = some caller ∧ caller.request.id = entry.1
  fresh : ∀ caller ∈ exchange.callers, caller.stage = .numbered → caller.answer? = none
  returned : ∀ caller ∈ exchange.callers, ∀ {result : Except ServiceError Json},
    caller.stage = .returned result → caller.answer? = some result

namespace Sound

theorem initial (config : Config) (source : Source) (engines engine : Nat) :
    (Exchange.initial config source engines engine).Sound config source engines where
  handling := .initial config source engines engine
  nextId := rfl
  ids := rfl
  sent := rfl
  answered := rfl
  pending := rfl
  registered := nofun
  fresh := nofun
  returned := nofun

variable {config : Config} {source : Source} {engines : Nat}

/-- As long as there are few enough callers, no number is given out twice. -/
theorem nodup_ids (sound : exchange.Sound config source engines)
    (few : exchange.callers.length < 2 ^ 64) : exchange.ids.Nodup := by
  rw [sound.ids]
  refine List.Nodup.map_on (fun first left second right same => ?_) List.nodup_range
  rw [List.mem_range] at left right
  omega

/-- The callers with the same number are one. -/
theorem place_unique (sound : exchange.Sound config source engines)
    (few : exchange.callers.length < 2 ^ 64) {index other : Nat} {caller caller' : Caller}
    (present : exchange.callers[index]? = some caller)
    (present' : exchange.callers[other]? = some caller')
    (same : caller.request.id = caller'.request.id) : index = other := by
  have inside := (List.getElem?_eq_some_iff.mp present).1
  refine (List.getElem?_inj (by rwa [Exchange.ids, List.length_map])
    (sound.nodup_ids few)).mp ?_
  rw [Exchange.ids, List.getElem?_map, List.getElem?_map, present, present', Option.map_some,
    Option.map_some, same]

/-- The numbers of the requests that are handled are different. -/
theorem nodup_handlers (sound : exchange.Sound config source engines)
    (few : exchange.callers.length < 2 ^ 64) :
    (exchange.handling.handlers.map fun handler => handler.request.id).Nodup := by
  have numbers := congrArg (Multiset.map fun request : Request => request.id) sound.sent
  rw [Multiset.map_add, Multiset.map_coe, Multiset.map_coe, Multiset.map_coe, List.map_map]
    at numbers
  have sent : ((exchange.callers.filterMap Caller.sent?).map fun request => request.id).Nodup := by
    refine (sound.nodup_ids few).sublist (map_filterMap_sublist fun caller _ request sent => ?_)
    rw [Caller.request_of_sent? sent]
  rw [← Multiset.coe_nodup, ← numbers] at sent
  exact Multiset.coe_nodup.mp (Multiset.nodup_add.mp sent).2.1

/-- The numbers of the responses that have been sent are different. -/
theorem nodup_answered (sound : exchange.Sound config source engines)
    (few : exchange.callers.length < 2 ^ 64) :
    ((exchange.handling.handlers.filterMap Service.Handler.summary?).map Prod.fst).Nodup := by
  refine (sound.nodup_handlers few).sublist (map_filterMap_sublist fun handler listed _ said => ?_)
  obtain ⟨response, sent, rfl⟩ := Option.map_eq_some_iff.mp said
  exact Service.Handling.id_of_response? (sound.handling.sent handler listed sent)

/-- What has been said in responses has been said by a handler whose request a caller has sent. -/
theorem exists_handler (sound : exchange.Sound config source engines)
    {said : Nat × Except ServiceError Json}
    (listed : said ∈ exchange.handling.handlers.filterMap Service.Handler.summary?) :
    ∃ handler ∈ exchange.handling.handlers, ∃ response, handler.sent? = some response ∧
      handler.response? exchange.handling.traffic = some response ∧ response.summary = said ∧
      ∃ (index : Nat) (caller : Caller), exchange.callers[index]? = some caller ∧
        caller.sent? = some handler.request ∧ caller.request.id = said.1 := by
  obtain ⟨handler, here, summary⟩ := List.mem_filterMap.mp listed
  obtain ⟨response, answered, summary⟩ := Option.map_eq_some_iff.mp summary
  have made := sound.handling.sent handler here answered
  have received : handler.request ∈ exchange.callers.filterMap Caller.sent? := by
    rw [← Multiset.mem_coe, ← sound.sent]
    exact Multiset.mem_add.mpr (.inr (List.mem_map_of_mem here))
  obtain ⟨caller, member, sent⟩ := List.mem_filterMap.mp received
  obtain ⟨index, present⟩ := List.getElem?_of_mem member
  refine ⟨handler, here, response, answered, made, summary, index, caller, present, sent, ?_⟩
  rw [Caller.request_of_sent? sent, ← Service.Handling.id_of_response? made, ← summary]
  rfl

/-- The caller of a response on its way has sent the request and been handed nothing. -/
theorem exists_caller (sound : exchange.Sound config source engines)
    (few : exchange.callers.length < 2 ^ 64) {response : Response}
    (listed : response ∈ exchange.responses) :
    ∃ (index : Nat) (caller : Caller), exchange.callers[index]? = some caller ∧
      caller.request.id = response.id ∧ caller.stage ≠ .numbered ∧ caller.answer? = none := by
  have said : response.summary ∈
      exchange.handling.handlers.filterMap Service.Handler.summary? := by
    rw [← Multiset.mem_coe, ← sound.answered]
    exact Multiset.mem_add.mpr (.inl (List.mem_map_of_mem listed))
  obtain ⟨handler, -, -, -, -, -, index, caller, present, sent, number⟩ :=
    sound.exists_handler said
  refine ⟨index, caller, present, number, ?_, ?_⟩
  · intro stage
    simp [Caller.sent?, stage] at sent
  · -- Otherwise the number would be in two places.
    rw [Option.eq_none_iff_forall_ne_some]
    intro result handed
    have numbers := congrArg (Multiset.map Prod.fst) sound.answered
    have distinct := sound.nodup_answered few
    rw [← Multiset.coe_nodup, ← Multiset.map_coe, ← numbers, Multiset.map_add] at distinct
    have apart := (Multiset.nodup_add.mp distinct).2.2
    have waits : response.id ∈ Multiset.map Prod.fst
        (exchange.responses.map Response.summary : Multiset (Nat × Except ServiceError Json)) :=
      Multiset.mem_map.mpr ⟨response.summary, List.mem_map_of_mem listed, rfl⟩
    have member : (caller.request.id, result) ∈ exchange.callers.filterMap Caller.handed? :=
      List.mem_filterMap.mpr ⟨caller, List.mem_of_getElem? present, by
        rw [Caller.handed?, handed, Option.map_some]⟩
    exact Multiset.disjoint_left.mp apart waits (Multiset.mem_map.mpr ⟨_, member, number⟩)

/-- The pending numbers are those of callers who wait. -/
theorem mem_pending_iff (sound : exchange.Sound config source engines) {id : Nat} :
    id ∈ exchange.client.pending.map Prod.fst ↔
      ∃ caller ∈ exchange.callers, caller.waiting? = some id := by
  rw [← Multiset.mem_coe, sound.pending, Multiset.mem_coe, List.mem_filterMap]

/-- The pending numbers are different. -/
theorem nodup_pending (sound : exchange.Sound config source engines)
    (few : exchange.callers.length < 2 ^ 64) : (exchange.client.pending.map Prod.fst).Nodup := by
  have ids : ((exchange.callers.filterMap Caller.waiting?).map id).Nodup :=
    (sound.nodup_ids few).sublist (map_filterMap_sublist fun caller _ id waits =>
      (Caller.id_of_waiting? waits).symm)
  rwa [List.map_id, ← Multiset.coe_nodup, ← sound.pending, Multiset.coe_nodup] at ids

/-- The client knows the place of a caller who waits. -/
theorem lookup_pending (sound : exchange.Sound config source engines)
    (few : exchange.callers.length < 2 ^ 64) {index id : Nat} {caller : Caller}
    (present : exchange.callers[index]? = some caller) (waits : caller.waiting? = some id) :
    exchange.client.pending.lookup id = some index := by
  have listed := sound.mem_pending_iff.mpr ⟨caller, List.mem_of_getElem? present, waits⟩
  cases found : exchange.client.pending.lookup id with
  | none =>
    obtain ⟨entry, member, same⟩ := List.mem_map.mp listed
    have missing := List.lookup_eq_none_iff.mp found entry member
    simp [same] at missing
  | some place =>
    obtain ⟨before, behind, split, -⟩ := List.lookup_eq_some_iff.mp found
    obtain ⟨other, there, same⟩ := sound.registered (id, place) (by simp [split])
    exact congrArg some
      (sound.place_unique few there present (same.trans (Caller.id_of_waiting? waits).symm))

/-- One caller becomes another with the same request. What it takes from the books on one side it
adds to them on the other. -/
theorem replace (sound : exchange.Sound config source engines) {index : Nat}
    {caller : Caller} (present : exchange.callers[index]? = some caller) (caller' : Caller)
    (client : Client) (requests : List Request) (responses : List Response)
    (same : caller'.request = caller.request) (nextId : client.nextId = exchange.client.nextId)
    (sent : (requests : Multiset Request) + caller.sent?.toList =
      exchange.requests + caller'.sent?.toList)
    (answered : (responses.map Response.summary : Multiset (Nat × Except ServiceError Json)) +
        caller'.handed?.toList =
      exchange.responses.map Response.summary + caller.handed?.toList)
    (pending : (client.pending.map Prod.fst : Multiset Nat) + caller.waiting?.toList =
      exchange.client.pending.map Prod.fst + caller'.waiting?.toList)
    (registered : ∀ entry ∈ client.pending,
      entry ∈ exchange.client.pending ∨ entry = (caller.request.id, index))
    (fresh : caller'.stage = .numbered → caller'.answer? = none)
    (returned : ∀ {result : Except ServiceError Json}, caller'.stage = .returned result →
      caller'.answer? = some result) :
    ({ exchange with client, requests, responses }.setCaller index caller').Sound config source
      engines := by
  refine ⟨sound.handling, ?_, ?_, ?_, ?_, ?_, ?_, ?_, ?_⟩
  · rw [setCaller, List.length_set, nextId]
    exact sound.nextId
  · have kept : (exchange.callers.set index caller').map (fun caller => caller.request.id) =
        exchange.ids := map_set_of_eq present _ caller' (congrArg Request.id same)
    simp only [setCaller, Exchange.ids, kept, List.length_set]
    exact sound.ids
  · obtain ⟨others, whole, replaced⟩ := exists_filterMap_others Caller.sent? present
    rw [setCaller, replaced]
    have books := sound.sent
    rw [whole] at books
    exact balance sent books
  · obtain ⟨others, whole, replaced⟩ := exists_filterMap_others Caller.handed? present
    have books := sound.answered
    rw [whole, ← add_assoc, ← answered, add_assoc] at books
    rw [setCaller, replaced]
    exact books
  · obtain ⟨others, whole, replaced⟩ := exists_filterMap_others Caller.waiting? present
    have books := sound.pending
    rw [whole] at books
    rw [setCaller, replaced]
    have books : (exchange.client.pending.map Prod.fst : Multiset Nat) + 0 =
        caller.waiting?.toList + others := (add_zero _).trans books
    exact (add_zero _).symm.trans (balance pending books)
  · intro entry listed
    rcases registered entry listed with before | rfl
    · obtain ⟨found, there, number⟩ := sound.registered entry before
      obtain ⟨found', there', number'⟩ := exists_setCaller present same there
      exact ⟨found', there', number'.trans number⟩
    · exact exists_setCaller present same present
  · intro other listed
    rcases List.mem_or_eq_of_mem_set listed with before | rfl
    · exact sound.fresh other before
    · exact fresh
  · intro other listed
    rcases List.mem_or_eq_of_mem_set listed with before | rfl
    · exact sound.returned other before
    · exact returned

/-- A caller is registered whose number nobody waits for. -/
theorem register (sound : exchange.Sound config source engines)
    (few : exchange.callers.length < 2 ^ 64) {index : Nat} {caller : Caller}
    (present : exchange.callers[index]? = some caller) (stage : caller.stage = .numbered) :
    ({ exchange with client := exchange.client.register caller.request.id index }.setCaller index
      { caller with stage := .registered }).Sound config source engines := by
  have unanswered := sound.fresh caller (List.mem_of_getElem? present) stage
  have new : caller.request.id ∉ exchange.client.pending.map Prod.fst := by
    rw [sound.mem_pending_iff]
    rintro ⟨other, listed, waits⟩
    obtain ⟨place, there⟩ := List.getElem?_of_mem listed
    obtain rfl := sound.place_unique few present there (Caller.id_of_waiting? waits).symm
    cases present.symm.trans there
    simp [Caller.waiting?, stage] at waits
  rw [Client.register_of_new new]
  refine sound.replace present { caller with stage := .registered } _ _ _ rfl rfl ?_ rfl ?_
    (fun entry listed => ?_) nofun nofun
  · simp [Caller.sent?, stage]
  · simp [Caller.waiting?, stage, unanswered, ← Multiset.coe_add]
  · simpa using listed

/-- The response on its way that comes first is handed to the caller with its number. -/
theorem route (sound : exchange.Sound config source engines)
    (few : exchange.callers.length < 2 ^ 64) {response : Response} {responses : List Response}
    (next : exchange.responses = response :: responses) :
    ({ exchange with client := (exchange.client.deliver response).1, responses }.hand
      (exchange.client.deliver response).2).Sound config source engines := by
  have listed : response ∈ exchange.responses := by
    rw [next]
    exact List.mem_cons_self
  obtain ⟨index, caller, present, number, stage, unanswered⟩ := sound.exists_caller few listed
  have waits : caller.waiting? = some response.id := by
    unfold Caller.waiting?
    split
    · next numbered => exact (stage numbered).elim
    · rw [unanswered, Option.isSome_none, if_neg Bool.false_ne_true, number]
  have handed := hand_some
    { exchange with client := (exchange.client.deliver response).1, responses } present
    response.outcome
  have delivered : (exchange.client.deliver response).2 = some (index, response.outcome) := by
    rw [Client.deliver, sound.lookup_pending few present waits, Option.map_some]
  rw [delivered, handed]
  refine sound.replace present { caller with answer? := some response.outcome } _ _ _ rfl rfl rfl ?_
    ?_ (fun entry listed => .inl (List.mem_of_mem_filter listed)) ?_ ?_
  · rw [next, List.map_cons, ← Multiset.cons_coe]
    simp only [Caller.handed?, unanswered, number, Option.map_some, Option.map_none,
      Option.toList_some, Option.toList_none, Multiset.coe_singleton, Multiset.coe_nil, add_zero]
    exact Multiset.add_comm _ _
  · have gone : Caller.waiting? { caller with answer? := some response.outcome } = none := by
      unfold Caller.waiting?
      split
      · rfl
      · rfl
    have kept : (exchange.client.deliver response).1.pending.map Prod.fst =
        (exchange.client.pending.map Prod.fst).erase response.id := by
      rw [(sound.nodup_pending few).erase_eq_filter, List.filter_map]
      rfl
    rw [gone, waits, kept, Option.toList_some, Option.toList_none, Multiset.coe_singleton,
      Multiset.coe_nil, add_zero, add_comm, Multiset.singleton_add, ← Multiset.coe_erase]
    exact Multiset.cons_erase
      (sound.mem_pending_iff.mpr ⟨caller, List.mem_of_getElem? present, waits⟩)
  · exact fun numbered => (stage numbered).elim
  · intro result returned
    have before := sound.returned caller (List.mem_of_getElem? present) returned
    rw [unanswered] at before
    cases before

/-- A caller takes the next number. -/
theorem call (sound : exchange.Sound config source engines) (operation : String) (params : Json) :
    Exchange.Sound config source engines { exchange with
      client := exchange.client.number.1
      callers := exchange.callers ++ [.fresh ⟨exchange.client.nextId, operation, params⟩] } := by
  have nothing {β : Type} {select : Caller → Option β} {caller : Caller}
      (none : select caller = none) :
      (exchange.callers ++ [caller]).filterMap select = exchange.callers.filterMap select := by
    simp [none]
  refine ⟨sound.handling, ?_, ?_, ?_, ?_, ?_, fun entry listed => ?_, ?_, ?_⟩
  · have last := sound.nextId
    simp only [Client.number, UInt64.size, List.length_append, List.length_singleton]
    omega
  · have before := sound.ids
    simp only [Exchange.ids, List.map_append, List.length_append, List.length_singleton,
      List.range_succ, List.map_cons, List.map_nil, Caller.fresh, sound.nextId] at before ⊢
    rw [before]
  · exact sound.sent.trans (congrArg _ (nothing rfl).symm)
  · exact (congrArg _ (congrArg _ (nothing rfl))).trans sound.answered
  · exact sound.pending.trans (congrArg _ (nothing rfl).symm)
  · obtain ⟨caller, there, number⟩ := sound.registered entry listed
    have inside := (List.getElem?_eq_some_iff.mp there).1
    exact ⟨caller, (List.getElem?_append_left inside).trans there, number⟩
  · exact List.forall_mem_append.mpr ⟨sound.fresh, List.forall_mem_singleton.mpr fun _ => rfl⟩
  · exact List.forall_mem_append.mpr ⟨sound.returned, List.forall_mem_singleton.mpr nofun⟩

/-- A registered caller sends its request. -/
theorem send (sound : exchange.Sound config source engines) {index : Nat} {caller : Caller}
    (present : exchange.callers[index]? = some caller) (stage : caller.stage = .registered) :
    ({ exchange with requests := exchange.requests ++ [caller.request] }.setCaller index
      { caller with stage := .sent }).Sound config source engines := by
  refine sound.replace present { caller with stage := .sent } _ _ _ rfl rfl ?_ rfl ?_
    (fun _ => .inl) nofun nofun
  · simp [Caller.sent?, stage, ← Multiset.coe_add]
  · simp [Caller.waiting?, stage]

/-- The request that comes first gets a handler. -/
theorem spawn (sound : exchange.Sound config source engines) {request : Request}
    {requests : List Request} (next : exchange.requests = request :: requests) :
    Exchange.Sound config source engines
      { exchange with requests, handling := exchange.handling.spawn request } := by
  refine { sound with handling := sound.handling.spawn request, sent := ?_, answered := ?_ }
  · have books := sound.sent
    rw [next, ← Multiset.cons_coe, Multiset.cons_add] at books
    rw [← books]
    simp only [Service.Handling.spawn, List.map_append, List.map_singleton, ← Multiset.coe_add,
      Service.Handler.fresh, Multiset.coe_singleton]
    rw [← add_assoc]
    exact (Multiset.add_comm _ _).trans (Multiset.singleton_add _ _)
  · have nothing : (exchange.handling.spawn request).handlers.filterMap
        Service.Handler.summary? =
          exchange.handling.handlers.filterMap Service.Handler.summary? := by
      rw [Service.Handling.spawn, List.filterMap_append,
        List.filterMap_cons_none (l := []) rfl, List.filterMap_nil, List.append_nil]
    exact sound.answered.trans (congrArg _ nothing.symm)

/-- A handler sends its response. -/
theorem finish (sound : exchange.Sound config source engines) {index : Nat}
    {handling : Service.Handling} {response : Response}
    (finished : exchange.handling.finish? index = some (handling, response)) :
    Exchange.Sound config source engines
      { exchange with handling, responses := exchange.responses ++ [response] } := by
  have finish := sound.handling.finish finished
  obtain ⟨handler, present, -, unsent, rfl⟩ :=
    Service.Handling.finish?_eq_some_iff.mp finished
  refine { sound with handling := finish, sent := ?_, answered := ?_ }
  · have kept := map_set_of_eq present (fun handler => handler.request)
      { handler with sent? := some response } rfl
    exact (congrArg _ (congrArg _ kept)).trans sound.sent
  · obtain ⟨others, whole, replaced⟩ :=
      exists_filterMap_others Service.Handler.summary? present
    have books := sound.answered
    rw [whole, Service.Handler.summary?, unsent, Option.map_none, Option.toList_none,
      Multiset.coe_nil, zero_add] at books
    rw [Service.Handling.setHandler, replaced, ← books, List.map_append, ← Multiset.coe_add]
    simp only [Service.Handler.summary?, Option.map_some, Option.toList_some, List.map_singleton]
    ac_rfl

/-- A caller returns with what has been handed to it. -/
theorem receive (sound : exchange.Sound config source engines) {index : Nat} {caller : Caller}
    {result : Except ServiceError Json} (present : exchange.callers[index]? = some caller)
    (stage : caller.stage = .sent) (answer : caller.answer? = some result) :
    (exchange.setCaller index { caller with stage := .returned result }).Sound config source
      engines := by
  refine sound.replace present { caller with stage := .returned result } _ _ _ rfl rfl ?_ rfl ?_
    (fun _ => .inl) nofun fun returned => ?_
  · simp [Caller.sent?, stage]
  · simp [Caller.waiting?, stage]
  · cases returned
    exact answer

/-- Whatever happens next, the books stay balanced. -/
theorem step (sound : exchange.Sound config source engines)
    (few : exchange.callers.length < 2 ^ 64) (turn : exchange.Turn after) :
    after.Sound config source engines := by
  cases turn with
  | call operation params => exact sound.call operation params
  | register present stage => exact sound.register few present stage
  | send present stage => exact sound.send present stage
  | spawn next => exact sound.spawn next
  | @handle event handling went =>
    refine { sound with handling := sound.handling.step went, sent := ?_, answered := ?_ }
    · rw [Service.Handling.map_handlers_of_step went _ fun _ _ => rfl]
      exact sound.sent
    · rw [Service.Handling.filterMap_handlers_of_step went _ fun _ _ => rfl]
      exact sound.answered
  | finish finished => exact sound.finish finished
  | route next => exact sound.route few next
  | receive present stage answer => exact sound.receive present stage answer

theorem run (sound : exchange.Sound config source engines)
    (ran : exchange.run? events = some after) (few : after.callers.length < 2 ^ 64) :
    after.Sound config source engines := by
  induction events generalizing exchange with
  | nil =>
    cases ran
    exact sound
  | cons event rest ih =>
    obtain ⟨next, went, ran⟩ := run?_cons_eq_some_iff.mp ran
    have turn := step?_turn went
    have fewer := Nat.le_trans turn.length_le (length_le_of_run? ran)
    exact ih (sound.step (Nat.lt_of_le_of_lt fewer few) turn) ran

/-- Each number is in one place. -/
theorem places (sound : exchange.Sound config source engines) : exchange.places = exchange.ids := by
  have callers : (exchange.ids : Multiset Nat) = exchange.callers.filterMap Caller.unsent? +
      ((exchange.callers.filterMap Caller.sent?).map fun request => request.id : List Nat) := by
    refine map_eq_filterMap_add fun caller _ => ?_
    unfold Caller.unsent? Caller.sent?
    cases caller.stage <;> simp
  have handlers : (exchange.handling.handlers.map (fun handler => handler.request.id) :
      Multiset Nat) = exchange.handling.handlers.filterMap Service.Handler.working? +
        ((exchange.handling.handlers.filterMap Service.Handler.summary?).map Prod.fst :
          List Nat) := by
    refine map_eq_filterMap_add fun handler listed => ?_
    rw [Service.Handler.working?, Service.Handler.summary?]
    cases sent : handler.sent? with
    | none => exact .inl ⟨rfl, rfl⟩
    | some response =>
      refine .inr ⟨rfl, _, rfl, ?_⟩
      exact Service.Handling.id_of_response? (sound.handling.sent handler listed sent)
  have sent := congrArg (Multiset.map fun request : Request => request.id) sound.sent
  have answered := congrArg (Multiset.map Prod.fst) sound.answered
  simp only [Multiset.map_add, Multiset.map_coe, List.map_map, Function.comp_def]
    at sent answered
  rw [callers, ← sent, handlers, ← answered, Exchange.places]
  simp only [add_assoc, Response.summary]

/-- What a caller has been handed is what the service answers to the request of the caller, and what
the response carries that the handler has sent. -/
theorem answers (sound : exchange.Sound config source engines)
    (few : exchange.callers.length < 2 ^ 64) {caller : Caller} (listed : caller ∈ exchange.callers)
    {result : Except ServiceError Json} (handed : caller.answer? = some result) :
    ∃ handler ∈ exchange.handling.handlers, handler.request = caller.request ∧
      exchange.handling.Answers handler result ∧
      ∃ response, handler.sent? = some response ∧ response.Carries caller.request.id result := by
  have said : (caller.request.id, result) ∈
      exchange.handling.handlers.filterMap Service.Handler.summary? := by
    rw [← Multiset.mem_coe, ← sound.answered]
    refine Multiset.mem_add.mpr (.inr (List.mem_filterMap.mpr ⟨caller, listed, ?_⟩))
    rw [Caller.handed?, handed, Option.map_some]
  obtain ⟨handler, here, response, answered, made, summary, place, other, present, sent, number⟩ :=
    sound.exists_handler said
  obtain ⟨index, present'⟩ := List.getElem?_of_mem listed
  obtain rfl := sound.place_unique few present present' number
  cases present.symm.trans present'
  have same := (Caller.request_of_sent? sent).symm
  obtain ⟨own, rfl, answers⟩ := sound.handling.answers here made
  have carries := Service.carries_respond handler.request.id own
  obtain rfl : own = result := carries.outcome_eq.symm.trans (congrArg Prod.snd summary)
  exact ⟨handler, here, same, answers, _, answered, same ▸ carries⟩

end Sound

/-- However callers, handlers, the engines and the router take turns: the numbers of the requests
are different, and each is in one place; what a caller is handed, and with what its call returns, is
the result or the error that the service answers to its own request, carried by the response of the
one handler that has worked on it; and as many callers are pending as have been registered and not
been handed anything, so that nobody is when all calls have returned. -/
theorem responses_reach_callers {config : Config} {source : Source} {engines engine : Nat}
    (ran : (initial config source engines engine).run? events = some exchange)
    (few : exchange.callers.length < 2 ^ 64) :
    exchange.ids.Nodup ∧ exchange.places = exchange.ids ∧
    (exchange.handling.handlers.map fun handler => handler.request.id).Nodup ∧
    (exchange.handling.handlers.filterMap Service.Handler.task?).Nodup ∧
    (Traffic.initial config source engines).run? exchange.handling.history =
      some exchange.handling.traffic ∧
    (∀ caller ∈ exchange.callers, ∀ result, caller.answer? = some result →
      ∃ handler ∈ exchange.handling.handlers, handler.request = caller.request ∧
        exchange.handling.Answers handler result ∧
        ∃ response, handler.sent? = some response ∧ response.Carries caller.request.id result) ∧
    (∀ caller ∈ exchange.callers, ∀ result, caller.stage = .returned result →
      caller.answer? = some result) ∧
    exchange.client.pending.length =
      exchange.callers.countP (fun caller => caller.waiting?.isSome) ∧
    ((∀ caller ∈ exchange.callers, ∃ result, caller.stage = .returned result) →
      exchange.client.pending = []) := by
  have sound := (Sound.initial config source engines engine).run ran few
  have pending : exchange.client.pending.length =
      exchange.callers.countP (fun caller => caller.waiting?.isSome) := by
    have sizes := congrArg Multiset.card sound.pending
    rwa [Multiset.coe_card, Multiset.coe_card, List.length_map, List.length_filterMap_eq_countP]
      at sizes
  refine ⟨sound.nodup_ids few, sound.places, sound.nodup_handlers few, sound.handling.distinct,
    sound.handling.ran, fun caller listed result handed => ?_, fun caller listed result => ?_,
    pending, fun all => ?_⟩
  · exact sound.answers few listed handed
  · exact sound.returned caller listed
  · rw [← List.length_eq_zero_iff, pending, List.countP_eq_zero]
    intro caller listed
    obtain ⟨result, returned⟩ := all caller listed
    simp [Caller.waiting?, returned, sound.returned caller listed returned]

/-- The error with which a call has returned, or the text of its result. -/
def shown? (caller : Caller) : Option (Except ServiceError String) :=
  match caller.stage with
  | .returned result => some (result.map Json.compact)
  | _ => none

theorem exists_returned_of_shown? {caller : Caller} {text : Except ServiceError String}
    (shows : shown? caller = some text) : ∃ result, caller.stage = .returned result := by
  unfold shown? at shows
  split at shows
  · next result stage => exact ⟨result, stage⟩
  · cases shows

/-- Three callers whose responses come in another order: the first asks for something that does not
exist, the second asks an engine, and the third forgets to say which document is meant. -/
def crossed : List Event :=
  List.flatten [
    [.call "explode" .null,
      .call "callable" (.object
        [("content", .string "!function $f($x = 1)\n!endfunction\n"), ("name", .string "$f")]),
      .call "suggestions" (.object [])],
    [.register 1, .register 0, .send 1, .register 2, .send 0, .spawn, .send 2, .spawn, .spawn],
    [.handle (.begin 2), .handle (.begin 0), .handle (.engine (.proceed 1))],
    [.finish 0, .route, .receive 1, .finish 2, .finish 1, .route, .route, .receive 0, .receive 2]]

/-- What the three calls return with. -/
def crossedAnswers : List (Option (Except ServiceError String)) :=
  [some (.error ⟨.unknownOperation, "unknown operation `explode`"⟩),
    some (.ok ("\x7b\"kind\":\"function\",\"name\":\"$f\",\"parameters\":" ++
      "[\x7b\"default\":\"1\",\"name\":\"$x\"\x7d],\"signature\":\"$f($x = 1)\"\x7d")),
    some (.error ⟨.invalidParams, "no content given for an unsaved document"⟩)]

theorem responses_reach_callers_when_crossed : ∃ exchange,
    (initial .standard .none 1 0).run? crossed = some exchange ∧
    exchange.ids = [1, 2, 3] ∧ exchange.client.pending = [] ∧
    exchange.callers.map shown? = crossedAnswers ∧
    ∀ caller ∈ exchange.callers, ∃ result, caller.stage = .returned result ∧
      ∃ handler ∈ exchange.handling.handlers, handler.request = caller.request ∧
        exchange.handling.Answers handler result ∧
        ∃ response, handler.sent? = some response ∧
          response.Carries caller.request.id result := by
  have shown : ((initial .standard .none 1 0).run? crossed).map (fun exchange =>
      (exchange.ids, exchange.callers.map shown?)) = some ([1, 2, 3], crossedAnswers) := by
    decide +kernel
  obtain ⟨exchange, ran, shown⟩ := Option.map_eq_some_iff.mp shown
  obtain ⟨ids, texts⟩ := Prod.mk.inj shown
  have few : exchange.callers.length < 2 ^ 64 := by
    have length := congrArg List.length ids
    simp only [Exchange.ids, List.length_map] at length
    simp [length]
  have returned : ∀ caller ∈ exchange.callers, ∃ result, caller.stage = .returned result := by
    intro caller listed
    have member := List.mem_map_of_mem (f := shown?) listed
    simp only [texts, crossedAnswers, List.mem_cons, List.not_mem_nil, or_false] at member
    rcases member with shows | shows | shows <;> exact exists_returned_of_shown? shows
  obtain ⟨-, -, -, -, -, answers, handed, -, finished⟩ := responses_reach_callers ran few
  refine ⟨exchange, ran, ids, finished returned, texts, fun caller listed => ?_⟩
  obtain ⟨result, stage⟩ := returned caller listed
  exact ⟨result, stage, answers caller listed result (handed caller listed result stage)⟩

end Exchange

end DiagramAssist
