import DiagramAssist.Client

/-! # Sessions

A script of things to do with engines, some of them together, and the record of what came of each:
outcome, what was fetched, and which documents were stored in the end.
-/

namespace DiagramAssist

/-- A thing to do: after a delay, with one of the engines. -/
inductive Script where
  | command (engine delay : Nat) (command : Command)
  | request (engine delay : Nat) (request : Request)
  /-- The requests of a client of the service, sent together. -/
  | client (engine delay : Nat) (requests : List (String × Json))
  /-- Lines of requests. -/
  | serve (engine delay : Nat) (input : String)
  /-- All of these together. -/
  | group (delay : Nat) (scripts : List Script)
  /-- Nothing. -/
  | idle

instance : Inhabited Script := ⟨.idle⟩

/-- What came of a script. -/
inductive ScriptOutcome where
  | reply (reply : Option Reply)
  | response (response : Response)
  | client (results : List (Except ServiceError Json)) (pending : Nat)
  | served (responses : List Response)
  | group (outcomes : List ScriptOutcome)
  | idle

namespace Script

/-- The requests of a client, with the client that has sent them. -/
def sent (requests : List (String × Json)) : Client × List Request :=
  Client.initial.sendAll 0 requests

mutual

/-- What a script asks for. The requests of a client are handed on by a job of their own. -/
def plan : Script → Plan
  | .command engine delay task => .command engine delay task
  | .request engine delay message => (Service.accept message).plan engine delay
  | .client engine delay messages =>
    .launch delay [.launch 0 (Service.plans engine ((sent messages).2.map Service.accept))]
  | .serve engine delay input => .launch delay (Service.plans engine (Service.acceptAll input))
  | .group delay scripts => .launch delay (planAll scripts)
  | .idle => .nothing

/-- What scripts ask for. -/
def planAll : List Script → List Plan
  | [] => []
  | script :: rest => plan script :: planAll rest

end

/-- What the callers of a client get, in their order, and how many still wait. -/
def clientOutcome (client : Client) (responses : List Response) : ScriptOutcome :=
  let (after, delivered) := client.deliverAll responses
  .client (client.pending.filterMap fun (_, caller) => delivered.lookup caller) after.pending.length

mutual

/-- What came of a script at a place, given all answers. -/
def outcome (replies : Replies) (place : Place) : Script → ScriptOutcome
  | .command _ _ _ => .reply (replies.at? place)
  | .request _ _ message => .response ((Service.accept message).response (replies.at? place))
  | .client _ _ messages =>
    let (sender, requests) := sent messages
    clientOutcome sender
      (Service.responses (requests.map Service.accept) replies (place ++ [0]))
  | .serve _ _ input => .served (Service.responses (Service.acceptAll input) replies place)
  | .group _ scripts => .group (outcomeAll replies place 0 scripts)
  | .idle => .idle

/-- What came of scripts launched from a place, numbered from `index` on. -/
def outcomeAll (replies : Replies) (place : Place) (index : Nat) :
    List Script → List ScriptOutcome
  | [] => []
  | script :: rest =>
    outcome replies (place ++ [index]) script :: outcomeAll replies place (index + 1) rest

end

def perform (world : World) (script : Script) : World × ScriptOutcome :=
  let (world, replies) := Schedule.perform world script.plan
  (world, script.outcome replies [])

end Script

/-- What is recorded after a script. -/
structure SessionRecord where
  outcome : ScriptOutcome
  /-- What was fetched, in alphabetical order. -/
  fetches : List String
  registrySize : Nat
  /-- Which of the watched keys are stored. -/
  stored : List String

namespace Session

/-- Carries out a script and records what came of it. -/
def record (world : World) (watch : List String) (script : Script) : World × SessionRecord :=
  let (world, outcome) := script.perform { world with log := [] }
  (world,
    { outcome
      fetches := world.log.mergeSort fun a b => decide (a ≤ b)
      registrySize := world.registry.size
      stored := watch.filter world.registry.contains })

/-- Carries out scripts one after the other. -/
def run (world : World) (watch : List String) : List Script → List SessionRecord
  | [] => []
  | script :: rest =>
    let (world, first) := record world watch script
    first :: run world watch rest

end Session

end DiagramAssist
