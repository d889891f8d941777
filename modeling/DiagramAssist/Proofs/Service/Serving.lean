import DiagramAssist.Proofs.Service.Handling
import DiagramAssist.Proofs.Service.Lines

/-! # Every line is answered once

Requests come on the lines of an input, and responses are written to an output, one on each line. A
reader starts a handler for each request and itself answers lines that are no requests; a writer
takes the responses out of a channel in which there is limited room. The writer ends when the
channel is empty and nobody can send any more: the reader and each handler have a sender to the
channel, and give it back when they are through.

So when the writer ends, the reader has passed all lines and each handler has sent its response. What
has been written are lines that are read back as the answers to the lines of the input, in some order
(`Serving.answers_every_line`).
-/

namespace DiagramAssist

def Response.line (response : Response) : String :=
  response.toJson.compact ++ "\n"

namespace Service.Reading

def request? : Reading → Option Request
  | .request asked => some asked
  | _ => none

def response? : Reading → Option Response
  | .malformed response => some response
  | _ => none

end Service.Reading

/-- Nothing is left of a trimmed text exactly when there is nothing but white space in it. -/
theorem Text.isEmpty_trim (text : List Char) : (trim text).isEmpty = text.all isBlank := by
  rw [Bool.eq_iff_iff, List.isEmpty_iff, List.all_eq_true, trim, trimEnd, List.reverse_eq_nil_iff,
    List.dropWhile_eq_nil_iff, trimStart]
  simp only [List.mem_reverse]
  constructor
  · intro behind c listed
    rw [← List.takeWhile_append_dropWhile (p := isBlank) (l := text)] at listed
    rcases List.mem_append.mp listed with leading | later
    · exact List.mem_takeWhile_imp leading
    · exact behind c later
  · exact fun all c later => all c ((List.dropWhile_sublist _).subset later)

/-- What a line can be. -/
theorem Service.readLine_cases (line : String) :
    (line.toList.all Text.isBlank = true ∧ readLine line = .blank) ∨
    (line.toList.all Text.isBlank = false ∧ ∃ request, Request.parse line = .ok request ∧
      readLine line = .request request) ∨
    (line.toList.all Text.isBlank = false ∧ ∃ error, Request.parse line = .error error ∧
      readLine line =
        .malformed (.failure 0 ⟨.invalidParams, error.message ++ " in request"⟩)) := by
  rw [readLine, Text.isEmpty_trim]
  cases line.toList.all Text.isBlank with
  | true => exact .inl ⟨rfl, rfl⟩
  | false =>
    cases Request.parse line with
    | ok request => exact .inr (.inl ⟨rfl, request, rfl, rfl⟩)
    | error error => exact .inr (.inr ⟨rfl, error, rfl, rfl⟩)

theorem Service.request?_readLine (line : String) : (readLine line).request? =
    if !line.toList.all Text.isBlank then (Request.parse line).toOption else none := by
  rcases readLine_cases line with
    ⟨blank, reads⟩ | ⟨filled, request, parsed, reads⟩ | ⟨filled, error, failed, reads⟩
  · rw [reads, blank]
    rfl
  · rw [reads, filled, parsed]
    rfl
  · rw [reads, filled, failed]
    rfl

/-- The response of a handler says what the service answers to its request. -/
theorem Service.Handling.Sound.tells {config : Config} {source : Source} {engines : Nat}
    {handling : Handling} (sound : handling.Sound config source engines) {handler : Handler}
    (wide : handler.request.id < Nat.pow 2 64) {result : Except ServiceError Json}
    (answers : handling.Answers handler result) :
    Tells (respond handler.request.id result).toJson.compact handler.request.id result := by
  refine tells_respond wide fun value succeeds => ?_
  cases answers with
  | refused refused => cases succeeds
  | replied asks begun asked answered =>
    have replaces := Traffic.replaces_of_run sound.ran asked answered
    exact Reply.reread_result (Operation.fits_of_ofRequest asks) replaces succeeds

/-- Requests on lines that are being answered. -/
structure Serving where
  /-- The lines that have not been read. -/
  lines : List String
  isReading : Bool
  /-- A response that the reader has to send before it goes on. -/
  refusal? : Option Response
  handling : Service.Handling
  /-- Who can still send responses. -/
  senders : Nat
  /-- Responses on their way to the writer, the next one first. -/
  channel : List Response
  output : String
  hasReturned : Bool

namespace Serving

/-- How many responses fit into the channel. -/
def capacity : Nat := 64

/-- Nothing has been read, and the reader can send. -/
def initial (config : Config) (source : Source) (engines engine : Nat) (lines : List String) :
    Serving :=
  ⟨lines, true, none, .initial config source engines engine, 1, [], "", false⟩

inductive Event where
  /-- The reader reads a line. -/
  | read
  /-- The reader sends its response. -/
  | refuse
  /-- The input has ended, and the reader is through. -/
  | close
  /-- Handlers and engines go on. -/
  | handle (event : Service.Handling.Event)
  /-- The handler at this place sends its response and is through. -/
  | finish (index : Nat)
  /-- The writer receives a response and writes it. -/
  | write
  /-- The writer ends, and with it everything. -/
  | leave

def step? (serving : Serving) : Event → Option Serving
  | .read =>
    match serving.isReading, serving.refusal?, serving.lines with
    | true, none, line :: lines =>
      match Service.readLine line with
      | .blank => some { serving with lines }
      | .request request => some { serving with
          lines, handling := serving.handling.spawn request, senders := serving.senders + 1 }
      | .malformed response => some { serving with lines, refusal? := some response }
    | _, _, _ => none
  | .refuse =>
    match serving.refusal? with
    | some response =>
      if serving.channel.length < capacity then
        some { serving with channel := serving.channel ++ [response], refusal? := none }
      else none
    | none => none
  | .close =>
    match serving.isReading, serving.refusal?, serving.lines with
    | true, none, [] => some { serving with isReading := false, senders := serving.senders - 1 }
    | _, _, _ => none
  | .handle event => do
    let handling ← serving.handling.step? event
    return { serving with handling }
  | .finish index =>
    if serving.channel.length < capacity then do
      let (handling, response) ← serving.handling.finish? index
      return { serving with
        handling, channel := serving.channel ++ [response], senders := serving.senders - 1 }
    else none
  | .write =>
    match serving.channel with
    | response :: channel =>
      some { serving with channel, output := serving.output ++ response.line }
    | [] => none
  | .leave =>
    match serving.isReading, serving.senders, serving.channel with
    | false, 0, [] => some { serving with hasReturned := true }
    | _, _, _ => none

def run? (serving : Serving) (events : List Event) : Option Serving :=
  events.foldlM step? serving

inductive Turn (serving : Serving) : Serving → Prop where
  | blank {line : String} {lines : List String} (next : serving.lines = line :: lines)
      (reads : Service.readLine line = .blank) (reading : serving.isReading = true)
      (free : serving.refusal? = none) : Turn serving { serving with lines }
  | request {line : String} {lines : List String} {request : Request}
      (next : serving.lines = line :: lines) (reads : Service.readLine line = .request request)
      (reading : serving.isReading = true) (free : serving.refusal? = none) :
      Turn serving { serving with
        lines, handling := serving.handling.spawn request, senders := serving.senders + 1 }
  | malformed {line : String} {lines : List String} {response : Response}
      (next : serving.lines = line :: lines) (reads : Service.readLine line = .malformed response)
      (reading : serving.isReading = true) (free : serving.refusal? = none) :
      Turn serving { serving with lines, refusal? := some response }
  | refuse {response : Response} (waits : serving.refusal? = some response) :
      Turn serving { serving with channel := serving.channel ++ [response], refusal? := none }
  | close (reading : serving.isReading = true) (free : serving.refusal? = none)
      (ended : serving.lines = []) :
      Turn serving { serving with isReading := false, senders := serving.senders - 1 }
  | handle {event : Service.Handling.Event} {handling : Service.Handling}
      (went : serving.handling.step? event = some handling) : Turn serving { serving with handling }
  | finish {index : Nat} {handling : Service.Handling} {response : Response}
      (finished : serving.handling.finish? index = some (handling, response)) :
      Turn serving { serving with
        handling, channel := serving.channel ++ [response], senders := serving.senders - 1 }
  | write {response : Response} {channel : List Response}
      (next : serving.channel = response :: channel) :
      Turn serving { serving with channel, output := serving.output ++ response.line }
  | leave (closed : serving.isReading = false) (alone : serving.senders = 0)
      (empty : serving.channel = []) : Turn serving { serving with hasReturned := true }

variable {serving after : Serving} {event : Event} {events : List Event}

theorem step?_turn (went : serving.step? event = some after) : serving.Turn after := by
  cases event with
  | read =>
    simp only [step?] at went
    split at went
    · next line lines reading free next =>
      split at went
      · next reads =>
        cases went
        exact .blank next reads reading free
      · next request reads =>
        cases went
        exact .request next reads reading free
      · next response reads =>
        cases went
        exact .malformed next reads reading free
    · cases went
  | refuse =>
    simp only [step?] at went
    split at went
    · next response waits =>
      split at went
      · cases went
        exact .refuse waits
      · cases went
    · cases went
  | close =>
    simp only [step?] at went
    split at went
    · next reading free ended =>
      cases went
      exact .close reading free ended
    · cases went
  | handle event =>
    obtain ⟨handling, moved, same⟩ := Option.bind_eq_some_iff.mp went
    cases same
    exact .handle moved
  | finish index =>
    simp only [step?] at went
    split at went
    · obtain ⟨⟨handling, response⟩, finished, same⟩ := Option.bind_eq_some_iff.mp went
      cases same
      exact .finish finished
    · cases went
  | write =>
    simp only [step?] at went
    split at went
    · next next =>
      cases went
      exact .write next
    · cases went
  | leave =>
    simp only [step?] at went
    split at went
    · next closed alone empty =>
      cases went
      exact .leave closed alone empty
    · cases went

theorem run?_cons_eq_some_iff : serving.run? (event :: events) = some after ↔
    ∃ next, serving.step? event = some next ∧ next.run? events = some after := by
  simp only [run?, List.foldlM_cons, bind, Option.bind_eq_some_iff]

/-- What is known of the lines that have been read. Their requests have handlers, in the same order.
The responses to be written, together with those that have been written, are those that handlers
have sent and those to the lines that are no requests. -/
structure Accounts (serving : Serving) (passed : List String) (written : List Response) : Prop where
  requests : serving.handling.handlers.map (fun handler => handler.request) =
    passed.filterMap fun line => (Service.readLine line).request?
  responses : (written : Multiset Response) + serving.channel + serving.refusal?.toList =
    passed.filterMap (fun line => (Service.readLine line).response?) +
      serving.handling.handlers.filterMap Service.Handler.sent?
  output : serving.output = String.join (written.map Response.line)

/-- What is known while the lines of an input are answered. The senders are those of the reader and
of the handlers that are not through. -/
structure Sound (config : Config) (source : Source) (engines : Nat) (lines : List String)
    (serving : Serving) : Prop where
  handling : serving.handling.Sound config source engines
  accounts : ∃ passed written, lines = passed ++ serving.lines ∧ serving.Accounts passed written
  senders : serving.senders = (if serving.isReading then 1 else 0) +
    (serving.handling.handlers.filterMap Service.Handler.working?).length
  closed : serving.isReading = false → serving.lines = [] ∧ serving.refusal? = none
  returned : serving.hasReturned = true →
    serving.isReading = false ∧ serving.senders = 0 ∧ serving.channel = []

namespace Sound

variable {config : Config} {source : Source} {engines : Nat} {lines : List String}

theorem initial (config : Config) (source : Source) (engines engine : Nat) (lines : List String) :
    (Serving.initial config source engines engine lines).Sound config source engines lines where
  handling := .initial config source engines engine
  accounts := ⟨[], [], rfl, rfl, rfl, rfl⟩
  senders := rfl
  closed := nofun
  returned := nofun

/-- The reader goes on to the next line. -/
theorem passes (sound : serving.Sound config source engines lines) {line : String}
    {rest : List String} (next : serving.lines = line :: rest) (reading : serving.isReading = true)
    {handling : Service.Handling} {refusal? : Option Response} {senders : Nat}
    (handled : handling.Sound config source engines)
    (accounts : ∀ {passed : List String} {written : List Response},
      serving.Accounts passed written →
        Accounts { serving with lines := rest, handling, refusal?, senders } (passed ++ [line])
          written)
    (staffed : senders = 1 + (handling.handlers.filterMap Service.Handler.working?).length) :
    Sound config source engines lines
      { serving with lines := rest, handling, refusal?, senders } := by
  obtain ⟨passed, written, split, before⟩ := sound.accounts
  refine ⟨handled, ⟨passed ++ [line], written, ?_, accounts before⟩, ?_, fun closed => ?_,
    fun returned => ?_⟩
  · rw [split, next, List.append_assoc, List.singleton_append]
  · simp only [reading, if_true, staffed]
  · rw [reading] at closed
    cases closed
  · have closed := (sound.returned returned).1
    rw [reading] at closed
    cases closed

/-- A handler that is not through can send. -/
theorem senders_pos (sound : serving.Sound config source engines lines)
    {handler : Service.Handler} (listed : handler ∈ serving.handling.handlers)
    (unsent : handler.sent? = none) : 0 < serving.senders := by
  have working : handler.request.id ∈
      serving.handling.handlers.filterMap Service.Handler.working? :=
    List.mem_filterMap.mpr ⟨handler, listed, by simp [Service.Handler.working?, unsent]⟩
  have counted := List.length_pos_of_mem working
  have senders := sound.senders
  omega

/-- The reader passes a blank line. -/
theorem blank (sound : serving.Sound config source engines lines) {line : String}
    {rest : List String} (next : serving.lines = line :: rest)
    (reads : Service.readLine line = .blank) (reading : serving.isReading = true) :
    Sound config source engines lines { serving with lines := rest } := by
  refine sound.passes next reading sound.handling (fun accounts => ?_) ?_
  · refine ⟨accounts.requests.trans ?_, accounts.responses.trans ?_, accounts.output⟩
    · simp [reads, Service.Reading.request?]
    · simp [reads, Service.Reading.response?]
  · rw [sound.senders, if_pos reading]

/-- The reader starts a handler for the request on a line. -/
theorem request (sound : serving.Sound config source engines lines) {line : String}
    {rest : List String} {request : Request} (next : serving.lines = line :: rest)
    (reads : Service.readLine line = .request request) (reading : serving.isReading = true) :
    Sound config source engines lines { serving with
      lines := rest, handling := serving.handling.spawn request,
      senders := serving.senders + 1 } := by
  refine sound.passes next reading (sound.handling.spawn request) (fun accounts => ?_) ?_
  · refine ⟨?_, accounts.responses.trans ?_, accounts.output⟩
    · simp [Service.Handling.spawn, Service.Handler.fresh, accounts.requests, reads,
        Service.Reading.request?]
    · simp [Service.Handling.spawn, Service.Handler.fresh, reads, Service.Reading.response?]
  · rw [sound.senders, if_pos reading]
    simp [Service.Handling.spawn, Service.Handler.fresh, Service.Handler.working?, Nat.add_assoc]

/-- The reader is left with the response to a line that is no request. -/
theorem malformed (sound : serving.Sound config source engines lines) {line : String}
    {rest : List String} {response : Response} (next : serving.lines = line :: rest)
    (reads : Service.readLine line = .malformed response) (reading : serving.isReading = true)
    (free : serving.refusal? = none) :
    Sound config source engines lines
      { serving with lines := rest, refusal? := some response } := by
  refine sound.passes next reading sound.handling (fun {passed written} accounts => ?_) ?_
  · refine ⟨accounts.requests.trans ?_, ?_, accounts.output⟩
    · simp [reads, Service.Reading.request?]
    · have before := accounts.responses
      rw [free, Option.toList_none, Multiset.coe_nil, add_zero] at before
      have here : [line].filterMap (fun line => (Service.readLine line).response?) =
          [response] := by simp [reads, Service.Reading.response?]
      rw [before, List.filterMap_append, here, ← Multiset.coe_add, Option.toList_some]
      exact add_right_comm _ _ _
  · rw [sound.senders, if_pos reading]

/-- The reader sends the response that it is left with. -/
theorem refuse (sound : serving.Sound config source engines lines) {response : Response}
    (waits : serving.refusal? = some response) :
    Sound config source engines lines
      { serving with channel := serving.channel ++ [response], refusal? := none } := by
  obtain ⟨passed, written, split, accounts⟩ := sound.accounts
  refine ⟨sound.handling, ⟨passed, written, split, accounts.requests, ?_, accounts.output⟩,
    sound.senders, fun closed => ?_, fun returned => ?_⟩
  · rw [← accounts.responses, waits, ← Multiset.coe_add, Option.toList_some, Option.toList_none,
      Multiset.coe_nil, add_zero, add_assoc]
  · exact ⟨(sound.closed closed).1, rfl⟩
  · obtain ⟨closed, -, -⟩ := sound.returned returned
    have nothing := (sound.closed closed).2
    rw [waits] at nothing
    cases nothing

/-- The reader is through and gives its sender back. -/
theorem close (sound : serving.Sound config source engines lines)
    (reading : serving.isReading = true) (free : serving.refusal? = none)
    (ended : serving.lines = []) :
    Sound config source engines lines
      { serving with isReading := false, senders := serving.senders - 1 } := by
  obtain ⟨passed, written, split, accounts⟩ := sound.accounts
  refine ⟨sound.handling,
    ⟨passed, written, split, accounts.requests, accounts.responses, accounts.output⟩, ?_,
    fun _ => ⟨ended, free⟩, fun returned => ?_⟩
  · have senders := sound.senders
    rw [if_pos reading] at senders
    simp only [Bool.false_eq_true, if_false]
    omega
  · have closed := (sound.returned returned).1
    rw [reading] at closed
    cases closed

/-- Handlers and engines go on. -/
theorem handle (sound : serving.Sound config source engines lines)
    {event : Service.Handling.Event} {handling : Service.Handling}
    (went : serving.handling.step? event = some handling) :
    Sound config source engines lines { serving with handling } := by
  obtain ⟨passed, written, split, accounts⟩ := sound.accounts
  have kept {α : Type} (select : Service.Handler → Option α)
      (blind : ∀ handler task?, select { handler with task? } = select handler) :=
    Service.Handling.filterMap_handlers_of_step went select blind
  refine ⟨sound.handling.step went, ⟨passed, written, split, ?_, ?_, accounts.output⟩, ?_,
    sound.closed, sound.returned⟩
  · rw [Service.Handling.map_handlers_of_step went _ fun _ _ => rfl]
    exact accounts.requests
  · rw [kept _ fun _ _ => rfl]
    exact accounts.responses
  · rw [kept _ fun _ _ => rfl]
    exact sound.senders

/-- A handler sends its response and gives its sender back. -/
theorem finish (sound : serving.Sound config source engines lines) {index : Nat}
    {handling : Service.Handling} {response : Response}
    (finished : serving.handling.finish? index = some (handling, response)) :
    Sound config source engines lines { serving with
      handling, channel := serving.channel ++ [response], senders := serving.senders - 1 } := by
  obtain ⟨passed, written, split, accounts⟩ := sound.accounts
  have finish := sound.handling.finish finished
  obtain ⟨handler, present, -, unsent, rfl⟩ :=
    Service.Handling.finish?_eq_some_iff.mp finished
  refine ⟨finish, ⟨passed, written, split, ?_, ?_, accounts.output⟩, ?_, sound.closed,
    fun returned => ?_⟩
  · exact (map_set_of_eq present _ { handler with sent? := some response } rfl).trans
      accounts.requests
  · obtain ⟨others, whole, replaced⟩ := exists_filterMap_others Service.Handler.sent? present
    have before := accounts.responses
    rw [whole, unsent, Option.toList_none, Multiset.coe_nil, zero_add] at before
    rw [Service.Handling.setHandler, replaced, Option.toList_some, add_left_comm, ← before,
      ← Multiset.coe_add]
    simp only [Multiset.coe_singleton]
    ac_rfl
  · obtain ⟨others, whole, replaced⟩ := exists_filterMap_others Service.Handler.working? present
    have before := congrArg Multiset.card whole
    have later := congrArg Multiset.card (replaced { handler with sent? := some response })
    have working : handler.working? = some handler.request.id := by
      rw [Service.Handler.working?, unsent]
      rfl
    have through : Service.Handler.working? { handler with sent? := some response } = none := rfl
    rw [Multiset.card_add, working] at before
    rw [Multiset.card_add, through] at later
    simp only [Multiset.coe_card, Option.toList_some, Option.toList_none, List.length_singleton,
      List.length_nil] at before later
    have senders := sound.senders
    simp only [Service.Handling.setHandler]
    omega
  · have able := sound.senders_pos (List.mem_of_getElem? present) unsent
    have alone := (sound.returned returned).2.1
    omega

/-- The writer writes the response that comes first. -/
theorem write (sound : serving.Sound config source engines lines) {response : Response}
    {channel : List Response} (next : serving.channel = response :: channel) :
    Sound config source engines lines
      { serving with channel, output := serving.output ++ response.line } := by
  obtain ⟨passed, written, split, accounts⟩ := sound.accounts
  refine ⟨sound.handling, ⟨passed, written ++ [response], split, accounts.requests, ?_, ?_⟩,
    sound.senders, sound.closed, fun returned => ?_⟩
  · rw [← accounts.responses, next, ← Multiset.cons_coe, ← Multiset.coe_add,
      Multiset.coe_singleton, ← Multiset.singleton_add]
    dsimp only
    ac_rfl
  · simp [accounts.output]
  · have empty := (sound.returned returned).2.2
    rw [next] at empty
    cases empty

/-- The writer ends when nobody can send any more. -/
theorem leave (sound : serving.Sound config source engines lines)
    (closed : serving.isReading = false) (alone : serving.senders = 0)
    (empty : serving.channel = []) :
    Sound config source engines lines { serving with hasReturned := true } := by
  obtain ⟨passed, written, split, accounts⟩ := sound.accounts
  exact ⟨sound.handling,
    ⟨passed, written, split, accounts.requests, accounts.responses, accounts.output⟩,
    sound.senders, sound.closed, fun _ => ⟨closed, alone, empty⟩⟩

/-- Whatever happens next, nothing is lost or said twice. -/
theorem step (sound : serving.Sound config source engines lines) (turn : serving.Turn after) :
    after.Sound config source engines lines := by
  cases turn with
  | blank next reads reading free => exact sound.blank next reads reading
  | request next reads reading free => exact sound.request next reads reading
  | malformed next reads reading free => exact sound.malformed next reads reading free
  | refuse waits => exact sound.refuse waits
  | close reading free ended => exact sound.close reading free ended
  | handle went => exact sound.handle went
  | finish finished => exact sound.finish finished
  | write next => exact sound.write next
  | leave closed alone empty => exact sound.leave closed alone empty

theorem run (sound : serving.Sound config source engines lines)
    (ran : serving.run? events = some after) : after.Sound config source engines lines := by
  induction events generalizing serving with
  | nil =>
    cases ran
    exact sound
  | cons event rest ih =>
    obtain ⟨next, went, ran⟩ := run?_cons_eq_some_iff.mp ran
    exact ih (sound.step (step?_turn went)) ran

end Sound

/-- A text answers a line: it says the result or the error that the service answers to the request
on the line, under the number of the request; or nothing on the line is a request, and the text says
so under the number zero. -/
inductive Answers (serving : Serving) (line text : String) : Prop where
  | request {request : Request} {handler : Service.Handler} {result : Except ServiceError Json}
      (parsed : Request.parse line = .ok request) (listed : handler ∈ serving.handling.handlers)
      (same : handler.request = request) (answers : serving.handling.Answers handler result)
      (tells : Tells text request.id result)
  | malformed {error : DecodeError} (failed : Request.parse line = .error error)
      (tells : Json.parse? text = some (.object [("id", .nat 0),
        ("error", .object [("code", .string "invalid_params"),
          ("message", .string (error.message ++ " in request"))])]))

/-- Where the handlers of the requests on lines have responded, the texts of some responses answer
the lines that are not blank, and the responses are what handlers have sent and what is said of
lines that are no requests. -/
theorem exists_answers {config : Config} {source : Source} {engines : Nat}
    (sound : serving.handling.Sound config source engines) {lines : List String}
    {handlers : List Service.Handler}
    (requests : handlers.map (fun handler => handler.request) =
      lines.filterMap fun line => (Service.readLine line).request?)
    (responded : ∀ handler ∈ handlers, handler ∈ serving.handling.handlers ∧
      ∃ result, handler.sent? = some (Service.respond handler.request.id result) ∧
        serving.handling.Answers handler result) :
    ∃ answers : List Response,
      List.Forall₂ serving.Answers (lines.filter fun line => !line.toList.all Text.isBlank)
        (answers.map fun response => response.toJson.compact) ∧
      answers.Perm (lines.filterMap (fun line => (Service.readLine line).response?) ++
        handlers.filterMap Service.Handler.sent?) := by
  induction lines generalizing handlers with
  | nil =>
    rw [List.filterMap_nil, List.map_eq_nil_iff] at requests
    subst requests
    exact ⟨[], .nil, .nil⟩
  | cons line rest ih =>
    rcases Service.readLine_cases line with
      ⟨blank, reads⟩ | ⟨filled, request, parsed, reads⟩ | ⟨filled, error, failed, reads⟩
    · rw [List.filterMap_cons_none (by rw [reads]; rfl)] at requests
      obtain ⟨answers, each, perm⟩ := ih requests responded
      refine ⟨answers, ?_, ?_⟩
      · rw [List.filter_cons_of_neg (by simp only [blank, Bool.not_true, Bool.false_eq_true,
          not_false_eq_true])]
        exact each
      · rw [List.filterMap_cons_none (by rw [reads]; rfl)]
        exact perm
    · -- The first handler is that of the request on this line.
      rw [List.filterMap_cons_some (by rw [reads]; rfl), List.map_eq_cons_iff] at requests
      obtain ⟨handler, handlers, rfl, same, requests⟩ := requests
      obtain ⟨⟨listed, result, sent, answers⟩, responded⟩ := List.forall_mem_cons.mp responded
      obtain ⟨later, each, perm⟩ := ih requests responded
      have tells := sound.tells (same ▸ Request.id_lt_of_parse parsed) answers
      refine ⟨Service.respond handler.request.id result :: later, ?_, ?_⟩
      · rw [List.filter_cons_of_pos (by simp only [filled, Bool.not_false])]
        exact .cons (.request parsed listed same answers (same ▸ tells)) each
      · rw [List.filterMap_cons_none (by rw [reads]; rfl), List.filterMap_cons_some sent]
        exact (perm.cons _).trans List.perm_middle.symm
    · obtain ⟨later, each, perm⟩ :=
        ih (by rwa [List.filterMap_cons_none (by rw [reads]; rfl)] at requests) responded
      refine ⟨.failure 0 ⟨.invalidParams, error.message ++ " in request"⟩ :: later, ?_, ?_⟩
      · rw [List.filter_cons_of_pos (by simp only [filled, Bool.not_false])]
        have tells : Tells _ 0 (.error ⟨.invalidParams, error.message ++ " in request"⟩) :=
          Service.tells_respond (by decide) nofun
        cases tells with
        | error tells => exact .cons (.malformed failed tells) each
      · rw [List.filterMap_cons_some (by rw [reads]; rfl)]
        exact perm.cons _

/-- When the lines of an input have been answered, in whatever order handlers, engines, the reader
and the writer have taken turns: lines have been written, and in some order they are the answers to
those lines of the input that are not all white space, one to each. There was one handler for each
request, and handlers were started in the order of the lines. -/
theorem answers_every_line {config : Config} {source : Source} {engines engine : Nat}
    {lines : List String} (ran : (initial config source engines engine lines).run? events =
      some serving) (returned : serving.hasReturned = true) :
    ∃ written answers : List String,
      serving.output = String.join (written.map (· ++ "\n")) ∧
      (∀ text ∈ written, '\n' ∉ text.toList) ∧ written.Perm answers ∧
      List.Forall₂ serving.Answers
        (lines.filter fun line => !line.toList.all Text.isBlank) answers ∧
      (Traffic.initial config source engines).run? serving.handling.history =
        some serving.handling.traffic ∧
      serving.handling.handlers.map (fun handler => handler.request) =
        (lines.filter fun line => !line.toList.all Text.isBlank).filterMap fun line =>
          (Request.parse line).toOption := by
  have sound := (Sound.initial config source engines engine lines).run ran
  obtain ⟨closed, alone, empty⟩ := sound.returned returned
  obtain ⟨ended, free⟩ := sound.closed closed
  obtain ⟨passed, written, split, accounts⟩ := sound.accounts
  rw [ended, List.append_nil] at split
  subst split
  have responded : ∀ handler ∈ serving.handling.handlers,
      handler ∈ serving.handling.handlers ∧ ∃ result,
        handler.sent? = some (Service.respond handler.request.id result) ∧
          serving.handling.Answers handler result := by
    intro handler listed
    cases sent : handler.sent? with
    | none =>
      have able := sound.senders_pos listed sent
      omega
    | some response =>
      have made := sound.handling.sent handler listed sent
      obtain ⟨result, rfl, answers⟩ := sound.handling.answers listed made
      exact ⟨listed, result, rfl, answers⟩
  obtain ⟨answers, each, perm⟩ := exists_answers sound.handling accounts.requests responded
  have responses := accounts.responses
  rw [empty, free, Option.toList_none, Multiset.coe_nil, add_zero, add_zero, Multiset.coe_add,
    Multiset.coe_eq_coe] at responses
  refine ⟨written.map fun response => response.toJson.compact, _, ?_,
    List.forall_mem_map.mpr fun _ _ => Json.feed_not_mem_compact _,
    (responses.trans perm.symm).map _, each, sound.handling.ran, ?_⟩
  · rw [accounts.output, List.map_map]
    rfl
  · rw [accounts.requests, List.filterMap_filter]
    exact List.filterMap_congr fun line _ => Service.request?_readLine line

/-- Two requests under the same number, a line that is no request, and a blank one. -/
def mixedLines : List String :=
  ["\x7b\"id\":7,\"operation\":\"callable\",\"params\":" ++
      "\x7b\"content\":\"!function $f($x = 1)\\n!endfunction\\n\",\"name\":\"$f\"\x7d\x7d",
    "?", " ", "\x7b\"id\":7,\"operation\":\"explode\"\x7d"]

/-- The last line is answered first, and the first one after the input has ended. -/
def crossed : List Event :=
  [.read, .read, .handle (.begin 0), .refuse, .read, .read, .finish 1, .close,
    .handle (.engine (.proceed 0)), .finish 0, .write, .write, .write, .leave]

/-- What is written for the lines. -/
def mixedOutput : String :=
  "\x7b\"id\":0,\"error\":\x7b\"code\":\"invalid_params\"," ++
      "\"message\":\"invalid value in request\"\x7d\x7d\n" ++
    "\x7b\"id\":7,\"error\":\x7b\"code\":\"unknown_operation\"," ++
      "\"message\":\"unknown operation `explode`\"\x7d\x7d\n" ++
    "\x7b\"id\":7,\"result\":\x7b\"kind\":\"function\",\"name\":\"$f\",\"parameters\":" ++
      "[\x7b\"default\":\"1\",\"name\":\"$x\"\x7d],\"signature\":\"$f($x = 1)\"\x7d\x7d\n"

theorem answers_every_line_when_crossed : ∃ serving,
    (initial .standard .none 1 0 mixedLines).run? crossed = some serving ∧
    serving.hasReturned = true ∧ serving.output = mixedOutput ∧
    ∃ written answers : List String,
      serving.output = String.join (written.map (· ++ "\n")) ∧
      (∀ text ∈ written, '\n' ∉ text.toList) ∧ written.Perm answers ∧
      List.Forall₂ serving.Answers
        (mixedLines.filter fun line => !line.toList.all Text.isBlank) answers ∧
      answers.length = 3 := by
  have shown : ((initial .standard .none 1 0 mixedLines).run? crossed).map
      (fun serving => (serving.hasReturned, serving.output)) = some (true, mixedOutput) := by
    decide +kernel
  obtain ⟨serving, ran, shown⟩ := Option.map_eq_some_iff.mp shown
  obtain ⟨returned, text⟩ := Prod.mk.inj shown
  obtain ⟨written, answers, output, lines, perm, each, -⟩ := answers_every_line ran returned
  refine ⟨serving, ran, returned, text, written, answers, output, lines, perm, each, ?_⟩
  have filled : (mixedLines.filter fun line => !line.toList.all Text.isBlank).length = 3 := by
    decide +kernel
  rw [← each.length_eq, filled]

end Serving

end DiagramAssist
