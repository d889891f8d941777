import DiagramAssist.Service

/-! # Clients of the service

A client numbers the requests it sends and remembers who is waiting for which number. A response is
handed to the caller that waits for its number, and to nobody else.
-/

namespace DiagramAssist

/-- A client: the number of its next request, and the callers that wait, by the number of their
requests. -/
structure Client where
  nextId : Nat
  pending : List (Nat × Nat)
deriving DecidableEq

namespace Client

/-- A client that has sent nothing. -/
def initial : Client :=
  ⟨1, []⟩

instance : Inhabited Client := ⟨initial⟩

/-- A request gets its number. Numbers have 64 bits, and after the last one they start over. -/
def number (client : Client) : Client × Nat :=
  ({ client with nextId := (client.nextId + 1) % UInt64.size }, client.nextId)

/-- A caller waits for the response with a number, and nobody else does any longer. -/
def register (client : Client) (id caller : Nat) : Client :=
  { client with
    pending := (client.pending.filter fun entry => entry.1 != id) ++ [(id, caller)] }

def send (client : Client) (caller : Nat) (operation : String) (params : Json) : Client × Request :=
  let (client, id) := client.number
  (client.register id caller, ⟨id, operation, params⟩)

/-- A response arrives: the caller that waits for it, with what it gets. -/
def deliver (client : Client) (response : Response) :
    Client × Option (Nat × Except ServiceError Json) :=
  ({ client with pending := client.pending.filter fun entry => entry.1 != response.id },
    (client.pending.lookup response.id).map fun caller => (caller, response.outcome))

/-- Callers, numbered from `caller` on, send their requests. -/
def sendAll (client : Client) : (caller : Nat) → List (String × Json) → Client × List Request
  | _, [] => (client, [])
  | caller, (operation, params) :: rest =>
    let (client, request) := client.send caller operation params
    let (client, requests) := client.sendAll (caller + 1) rest
    (client, request :: requests)

/-- Responses arrive one after the other. -/
def deliverAll (client : Client) : List Response → Client × List (Nat × Except ServiceError Json)
  | [] => (client, [])
  | response :: rest =>
    let (client, delivered) := client.deliver response
    let (client, later) := client.deliverAll rest
    (client, delivered.toList ++ later)

end Client

end DiagramAssist
