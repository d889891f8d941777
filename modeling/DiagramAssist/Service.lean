import DiagramAssist.Engine.Schedule
import DiagramAssist.Text.Blank

/-! # The completion service

Requests are answered one by one or many together, and every request gets exactly one response that
carries its identifier. What a request cannot be answered with becomes an error in its response.
-/

namespace DiagramAssist

def Operation.command : Operation → Command
  | .suggestions document range filter => .document document (.suggestions range (filter.getD .all))
  | .arguments document name range => .document document (.arguments name range)
  | .callable document name => .document document (.callable name)
  | .libraryPaths start _ => .library (.paths start)
  | .libraryCompletions start range => .library (.completions start range)

/-- An answer as a message. Documents themselves are not sent. -/
def Reply.value : Reply → Except QueryError Json
  | .items list => .ok (.array (list.map Item.toJson))
  | .callable found => .ok (found.elim .null CallableMatch.toJson)
  | .entries list => .ok (.array (list.map LibraryEntry.toJson))
  | .address url => .ok (.ofString? url)
  | .keys list => .ok (.array (list.map .ofString?))
  | .failed error => .error error
  | .loadFailed (.fetch error) => .error (.fetch error)
  | _ => .ok .null

/-- An answer as the result of a request: a value, with its members in the order of their names. -/
def Reply.result (reply : Reply) : Except ServiceError Json :=
  (reply.value.map Json.settled).mapError .ofQuery

namespace Service

def respond (id : Nat) : Except ServiceError Json → Response
  | .ok value => .success id value
  | .error error => .failure id error

/-- The response that an answer makes; a task that did not finish makes an error. -/
def respondTo (id : Nat) (reply : Option Reply) : Response :=
  respond id (reply.elim (.error ⟨.internal, "request not finished"⟩) Reply.result)

/-- A request on its way: to be answered by an engine, or answered already. -/
inductive Accepted where
  | running (id : Nat) (command : Command)
  | answered (response : Response)

def accept (request : Request) : Accepted :=
  match Operation.ofRequest request with
  | .ok operation => .running request.id operation.command
  | .error error => .answered (.failure request.id error)

def Accepted.plan (engine delay : Nat) : Accepted → Plan
  | .running _ command => .command engine delay command
  | .answered _ => .nothing

/-- The response to an accepted request, given the answer to its command. -/
def Accepted.response (reply : Option Reply) : Accepted → Response
  | .running id _ => respondTo id reply
  | .answered response => response

/-- What an engine has to do for requests that come together. -/
def plans (engine : Nat) (accepted : List Accepted) : List Plan :=
  accepted.map (Accepted.plan engine 0)

/-- The responses to requests whose plans were launched from a place. -/
def responses (accepted : List Accepted) (replies : Replies) (place : Place) : List Response :=
  accepted.zipIdx.map fun (request, index) => request.response (replies.at? (place ++ [index]))

inductive Reading where
  | blank
  | request (request : Request)
  /-- No request. The response to it is known at once. -/
  | malformed (response : Response)

/-- Reads a line of input. A line that is no request is to be answered with an error under the
identifier zero. -/
def readLine (line : String) : Reading :=
  if (Text.trim line.toList).isEmpty then .blank
  else
    match Request.parse line with
    | .ok request => .request request
    | .error error => .malformed (.failure 0 ⟨.invalidParams, error.message ++ " in request"⟩)

/-- Accepts a line of input, if there is anything on it. -/
def acceptLine (line : String) : Option Accepted :=
  match readLine line with
  | .blank => none
  | .request request => some (accept request)
  | .malformed response => some (.answered response)

/-- The lines of an input, without their endings. -/
def lines (input : String) : List String :=
  let parts := input.splitOn "\n"
  let parts := if parts.getLast? = some "" then parts.dropLast else parts
  parts.map fun part => String.ofList (Text.dropFinalReturn part.toList)

def acceptAll (input : String) : List Accepted :=
  (lines input).filterMap acceptLine

/-- Answers accepted requests together. -/
def handleAll (world : World) (engine : Nat) (accepted : List Accepted) : World × List Response :=
  let (world, replies) := Schedule.perform world (.launch 0 (plans engine accepted))
  (world, responses accepted replies [])

end Service

end DiagramAssist
