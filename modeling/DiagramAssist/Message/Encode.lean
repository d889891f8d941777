import DiagramAssist.Completion
import DiagramAssist.Json.Basic

/-! # Answers as JSON

The JSON form of everything that the service and the command line answer with. Members stand in a
fixed order, and a member without a value is left out.
-/

namespace DiagramAssist

def Position.toJson (position : Position) : Json :=
  .object [("line", .nat position.line), ("character", .nat position.character)]

def Range.toJson (range : Range) : Json :=
  .object [("start", range.start.toJson), ("end", range.stop.toJson)]

def Item.toJson (item : Item) : Json :=
  .object
    [("kind", .string item.kind.word), ("insertText", .string item.insertText),
      ("label", .string item.label), ("range", item.range.toJson)]

/-- A member that is left out when it has no value. -/
def optionalMember (name : String) : Option Json → List (String × Json)
  | some value => [(name, value)]
  | none => []

/-- The parameter as a message: its name and the written form of its default value. -/
def Parameter.toJson (parameter : Parameter) : Json :=
  .object
    (("name", .string parameter.name.value) ::
      optionalMember "default" (parameter.default.map fun value => .string value.render))

def CallableMatch.toJson (found : CallableMatch) : Json :=
  .object
    ([("kind", .string found.callable.kind.word), ("name", .string found.callable.name.value),
        ("signature", .string found.callable.signature),
        ("parameters", .array (found.callable.parameters.map Parameter.toJson))] ++
      optionalMember "origin" (found.origin.map .string))

def Filter.toJson (filter : Filter) : Json :=
  .object
    [("prefix", .ofString? filter.start),
      ("kinds", match filter.kinds with
        | some kinds => .array (kinds.map fun kind => .string kind.word)
        | none => .null),
      ("excludeIdentifiers", .bool filter.excludeIdentifiers),
      ("globalVariablesOnly", .bool filter.globalVariablesOnly)]

end DiagramAssist
