import DiagramAssist.LineIndex
import DiagramAssist.Symbols

/-! # Completion items

What an editor is offered: items that replace a range of the text, and filters that restrict which
of them are offered.
-/

namespace DiagramAssist

/-- The range of text an item replaces. -/
structure Range where
  start : Position
  stop : Position
deriving DecidableEq, Inhabited

/-- The empty range at a position. -/
def Range.point (position : Position) : Range :=
  ⟨position, position⟩

/-- What an item refers to. -/
inductive ItemKind where
  /-- A variable, a macro without parameters or the name of an argument. -/
  | variable
  /-- A callable. -/
  | function
  /-- A name that is mentioned but not declared. -/
  | field
  /-- A module of the standard library. -/
  | module
deriving DecidableEq, Inhabited

def ItemKind.word : ItemKind → String
  | .variable => "variable"
  | .function => "function"
  | .field => "field"
  | .module => "module"

def ItemKind.ofWord? (word : String) : Option ItemKind :=
  [.variable, .function, .field, .module].find? fun kind : ItemKind => kind.word == word

/-- A completion item. -/
structure Item where
  kind : ItemKind
  insertText : String
  label : String
  range : Range
deriving DecidableEq, Inhabited

/-- A restriction on the items of a document. -/
structure Filter where
  /-- The insert text starts with this. -/
  start : Option String
  /-- The kind is one of these. -/
  kinds : Option (List ItemKind)
  /-- Mentioned names are left out. -/
  excludeIdentifiers : Bool
  /-- Variables that are not global are left out. -/
  globalVariablesOnly : Bool
deriving DecidableEq

namespace Filter

/-- No restriction. -/
def all : Filter :=
  ⟨none, none, false, false⟩

instance : Inhabited Filter := ⟨all⟩

/-- What an including document sees: global variables, macros and callables. -/
def forIncludes : Filter :=
  { all with excludeIdentifiers := true, globalVariablesOnly := true }

/-- Only items whose insert text starts with the given text. -/
def startingWith (start : String) : Filter :=
  { all with start := some start }

/-- Whether an item has an admitted beginning and an admitted kind. -/
def accepts (filter : Filter) (item : Item) : Bool :=
  (match filter.start with
    | some start => start.toList.isPrefixOf item.insertText.toList
    | none => true) &&
  (match filter.kinds with
    | some kinds => kinds.contains item.kind
    | none => true)

end Filter

namespace SymbolTable

/-- The items for declared variables and macros. -/
def declarationItems (table : SymbolTable) (range : Range) (filter : Filter) : List Item :=
  (table.declarations.filter fun declaration =>
    !(filter.globalVariablesOnly && declaration.isVariable && !declaration.isGlobal)).map
    fun declaration => ⟨.variable, declaration.name, declaration.name, range⟩

def callableItems (table : SymbolTable) (range : Range) : List Item :=
  table.callables.map fun callable => ⟨.function, callable.name.value, callable.signature, range⟩

/-- The items for names that are mentioned but not declared. -/
def mentionItems (table : SymbolTable) (range : Range) (filter : Filter) : List Item :=
  if filter.excludeIdentifiers then []
  else
    (table.mentions.filter fun mention => !table.declares mention.name).map
      fun mention => ⟨.field, mention.name, mention.name, range⟩

/-- The items a document offers by itself: declarations, callables, mentioned names. -/
def items (table : SymbolTable) (range : Range) (filter : Filter) : List Item :=
  (table.declarationItems range filter ++ table.callableItems range ++
    table.mentionItems range filter).filter filter.accepts

end SymbolTable

/-- Adds items whose insert text is not there yet. -/
def Item.mergeAll (items : List Item) (more : List Item) : List Item :=
  more.foldl
    (fun items item =>
      if items.any (·.insertText == item.insertText) then items else items ++ [item])
    items

/-- The items for the named arguments of a callable. Macros take none. -/
def Callable.argumentItems (callable : Callable) (range : Range) : List Item :=
  if callable.isDefine then []
  else
    callable.parameters.map fun parameter =>
      ⟨.variable, parameter.name.value ++ "=", parameter.name.value, range⟩

end DiagramAssist
