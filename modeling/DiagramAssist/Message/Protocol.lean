import DiagramAssist.Message.Decode
import DiagramAssist.Message.Encode

/-! # Requests and responses

A request names an operation and carries its parameters; the response carries the identifier of the
request with a result or an error. Every operation can be put into a request and read back.
-/

namespace DiagramAssist

/-- Which document a query is about: a stored one by its key, a text, or a text to be stored. -/
structure DocumentRef where
  key : Option String
  content : Option String
deriving DecidableEq, Inhabited

structure Request where
  id : Nat
  operation : String
  params : Json

instance : Inhabited Request := ⟨⟨0, "", .null⟩⟩

structure Response where
  id : Nat
  result : Option Json
  error : Option ServiceError

instance : Inhabited Response := ⟨⟨0, none, none⟩⟩

inductive Operation where
  | suggestions (document : DocumentRef) (range : Range) (filter : Option Filter)
  | arguments (document : DocumentRef) (name : String) (range : Range)
  | callable (document : DocumentRef) (name : String)
  | libraryPaths (start : String) (range : Range)
  | libraryCompletions (start : String) (range : Range)
deriving DecidableEq, Inhabited

/-- Reads any value as it is. -/
def Decoder.raw : Decoder Json :=
  fun value => .ok value.settled

/-- A value, with `null` for none. -/
def Decoder.rawNullable : Decoder (Option Json) :=
  .nullable .raw

def Request.decode : Decoder Request :=
  .record3 Request.mk (.required "id" .word64) (.required "operation" .string)
    (.defaulted "params" .raw .null)

def Request.parse (text : String) : Except DecodeError Request :=
  match Json.parseShaped? (.record ["id", "operation", "params"]) text with
  | some value => Request.decode value
  | none => .error .mismatch

def Request.toJson (request : Request) : Json :=
  .object
    [("id", .nat request.id), ("operation", .string request.operation), ("params", request.params)]

def ServiceError.decode : Decoder ServiceError :=
  .record2 ServiceError.mk (.required "code" (.word ServiceErrorCode.ofWord?))
    (.required "message" .string)

def ServiceError.toJson (error : ServiceError) : Json :=
  .object [("code", .string error.code.word), ("message", .string error.message)]

namespace Response

def decode : Decoder Response :=
  .record3 Response.mk (.required "id" .word64) ⟨"result", .rawNullable, some none⟩
    (.optional "error" ServiceError.decode)

def parse (text : String) : Except DecodeError Response :=
  match Json.parseShaped? (.record ["id", "result", "error"]) text with
  | some value => decode value
  | none => .error .mismatch

def toJson (response : Response) : Json :=
  .object
    (("id", .nat response.id) ::
      (optionalMember "result" response.result ++
        optionalMember "error" (response.error.map ServiceError.toJson)))

def success (id : Nat) (result : Json) : Response :=
  ⟨id, some result, none⟩

def failure (id : Nat) (error : ServiceError) : Response :=
  ⟨id, none, some error⟩

/-- The result, or the error. A response with neither answers `null`. -/
def outcome (response : Response) : Except ServiceError Json :=
  match response.error with
  | some error => .error error
  | none => .ok (response.result.getD .null)

end Response

namespace Operation

def name : Operation → String
  | .suggestions .. => "suggestions"
  | .arguments .. => "arguments"
  | .callable .. => "callable"
  | .libraryPaths .. => "stdlibPaths"
  | .libraryCompletions .. => "stdlibCompletions"

/-- The members that say which document is meant. They stand beside the other parameters and are
read behind them. -/
def documentField (members : List (String × Json)) : Except DecodeError DocumentRef := do
  let content := Field.optional "content" Decoder.string
  let key := Field.optional "key" Decoder.string
  checkMembers [content.check, key.check] members
  return ⟨← key.get members, ← content.get members⟩

def members : Json → Except DecodeError (List (String × Json))
  | .object members => .ok members
  | _ => .error .mismatch

/-- The range of an item, by default the start of the text. -/
def rangeField : Field Range :=
  .defaulted "range" Range.decode default

def nameField : Field String :=
  .required "name" .string

def decodeSuggestions : Decoder Operation := fun params => do
  let members ← members params
  let filter := Field.optional "filter" Filter.decode
  checkMembers [rangeField.check, filter.check] members
  let range ← rangeField.get members
  let filter ← filter.get members
  return .suggestions (← documentField members) range filter

def decodeArguments : Decoder Operation := fun params => do
  let members ← members params
  checkMembers [nameField.check, rangeField.check] members
  let name ← nameField.get members
  let range ← rangeField.get members
  return .arguments (← documentField members) name range

def decodeCallable : Decoder Operation := fun params => do
  let members ← members params
  checkMembers [nameField.check] members
  let name ← nameField.get members
  return .callable (← documentField members) name

def decodeLibrary (make : String → Range → Operation) : Decoder Operation :=
  .record2 make (.defaulted "prefix" .string "") rangeField

/-- The decoder of an operation's parameters, if the operation exists. -/
def decoder? (name : String) : Option (Decoder Operation) :=
  if name = "suggestions" then some decodeSuggestions
  else if name = "arguments" then some decodeArguments
  else if name = "callable" then some decodeCallable
  else if name = "stdlibPaths" then some (decodeLibrary .libraryPaths)
  else if name = "stdlibCompletions" then some (decodeLibrary .libraryCompletions)
  else none

/-- What a request asks for. Missing parameters count as none given. -/
def ofRequest (request : Request) : Except ServiceError Operation :=
  match decoder? request.operation with
  | none => .error (.unknownOperation request.operation)
  | some decode =>
    let params := match request.params with
      | .null => .object []
      | params => params
    match decode params with
    | .ok operation => .ok operation
    | .error error => .error ⟨.invalidParams, error.message⟩

/-- The members that say which document is meant. -/
def documentMembers (document : DocumentRef) : List (String × Json) :=
  optionalMember "content" (document.content.map .string) ++
    optionalMember "key" (document.key.map .string)

def params : Operation → Json
  | .suggestions document range filter =>
    .object (documentMembers document ++ ("range", range.toJson) ::
      optionalMember "filter" (filter.map Filter.toJson))
  | .arguments document name range =>
    .object (documentMembers document ++ [("name", .string name), ("range", range.toJson)])
  | .callable document name => .object (documentMembers document ++ [("name", .string name)])
  | .libraryPaths start range =>
    .object [("prefix", .string start), ("range", range.toJson)]
  | .libraryCompletions start range =>
    .object [("prefix", .string start), ("range", range.toJson)]

/-- The request that asks for an operation. Its parameters are a value like any other, so that
their members are in the order of their names. -/
def toRequest (operation : Operation) (id : Nat) : Request :=
  ⟨id, operation.name, operation.params.settled⟩

end Operation

def LibraryEntry.toJson (entry : LibraryEntry) : Json :=
  .object [("path", .string entry.path), ("url", .string entry.url)]

end DiagramAssist
