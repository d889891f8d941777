import DiagramAssist.Document.Printer
import DiagramAssist.Document.Walk

/-! # Symbols

What a document offers to completion: the variables and macros it declares, the callables it
defines, the identifiers it mentions and the documents it includes. Each list is in source order and
is read off the nodes of the document.
-/

namespace DiagramAssist

/-- Which construct defines a callable. -/
inductive CallableKind where
  | function
  | procedure
  | inlineFunction
  | define
  | defineLong
deriving DecidableEq, Inhabited

def CallableKind.word : CallableKind → String
  | .function => "function"
  | .procedure => "procedure"
  | .inlineFunction => "inline_function"
  | .define => "define"
  | .defineLong => "define_long"

/-- What a callable stands for. -/
inductive CallableBody where
  | statements (body : List Statement)
  | expression (value : Expression)
  | text (text : Option String)

/-- Anything that can be called with arguments. -/
structure Callable where
  kind : CallableKind
  name : Located String
  parameters : List Parameter
  body : CallableBody
  span : Span

namespace Callable

instance : Inhabited Callable := ⟨⟨default, default, [], .text none, default⟩⟩

/-- Macros replace text and take no named arguments. -/
def isDefine (callable : Callable) : Bool :=
  callable.kind == .define || callable.kind == .defineLong

/-- The name with the parameter list. -/
def signature (callable : Callable) : String :=
  callable.name.value ++ "(" ++ ", ".intercalate (callable.parameters.map Parameter.render) ++ ")"

end Callable

/-- How a name came to be declared. -/
inductive DeclarationKind where
  | variable (scope : Scope)
  /-- A macro without a parameter list. -/
  | define
deriving DecidableEq, Inhabited

/-- A variable, or a macro without a parameter list. -/
structure Declaration where
  name : String
  kind : DeclarationKind
  span : Span
deriving DecidableEq, Inhabited

namespace Declaration

def isVariable (declaration : Declaration) : Bool :=
  match declaration.kind with
  | .variable _ => true
  | .define => false

def isGlobal (declaration : Declaration) : Bool :=
  declaration.kind == .variable .global

end Declaration

/-- An identifier that a document mentions. -/
structure Mention where
  name : String
  span : Span
deriving DecidableEq, Inhabited

structure SymbolTable where
  declarations : List Declaration
  callables : List Callable
  mentions : List Mention
  includes : List Include

instance : Inhabited SymbolTable := ⟨⟨[], [], [], []⟩⟩

def Node.declaration? : Node → Option Declaration
  | .statement (.declaration name _ scope _ span) => some ⟨name.value, .variable scope, span⟩
  | .statement (.define name none _ span) => some ⟨name.value, .define, span⟩
  | .statement (.defineLong name none _ span) => some ⟨name.value, .define, span⟩
  | _ => none

def Node.callable? : Node → Option Callable
  | .statement (.callable .function _ name parameters body span) =>
    some ⟨.function, name, parameters, .statements body, span⟩
  | .statement (.callable .procedure _ name parameters body span) =>
    some ⟨.procedure, name, parameters, .statements body, span⟩
  | .statement (.inlineFunction _ name parameters value span) =>
    some ⟨.inlineFunction, name, parameters, .expression value, span⟩
  | .statement (.define name (some parameters) value span) =>
    some ⟨.define, name, parameters, .text (value.map (·.value)), span⟩
  | .statement (.defineLong name (some parameters) body span) =>
    some ⟨.defineLong, name, parameters, .text (some body.value), span⟩
  | _ => none

def Node.mention? : Node → Option Mention
  | .expression (.identifier name span) => some ⟨name, span⟩
  | _ => none

def Node.include? : Node → Option Include
  | .statement (.inclusion content) => some content
  | _ => none

namespace SymbolTable

def ofNodes (nodes : List Node) : SymbolTable where
  declarations := nodes.filterMap Node.declaration?
  callables := nodes.filterMap Node.callable?
  mentions := nodes.filterMap Node.mention?
  includes := nodes.filterMap Node.include?

def extract (root : Root) : SymbolTable :=
  ofNodes root.nodes

def callable? (table : SymbolTable) (name : String) : Option Callable :=
  table.callables.find? (·.name.value == name)

/-- Whether the document itself declares a name, as variable, macro or callable. -/
def declares (table : SymbolTable) (name : String) : Bool :=
  table.declarations.any (·.name == name) || table.callables.any (·.name.value == name)

end SymbolTable

def CallableBody.same : CallableBody → CallableBody → Bool
  | .statements left, .statements right => Statement.sameAll left right
  | .expression left, .expression right => left.same right
  | .text left, .text right => left == right
  | _, _ => false

def Callable.same (left right : Callable) : Bool :=
  left.kind == right.kind && left.name.same right.name &&
    sameList Parameter.same left.parameters right.parameters && left.body.same right.body &&
    left.span == right.span

def SymbolTable.same (left right : SymbolTable) : Bool :=
  left.declarations == right.declarations &&
    sameList Callable.same left.callables right.callables && left.mentions == right.mentions &&
    sameList Include.same left.includes right.includes

/-- A callable with the key of the document that defines it; an unsaved document has none. -/
structure CallableMatch where
  callable : Callable
  origin : Option String

instance : Inhabited CallableMatch := ⟨⟨default, none⟩⟩

end DiagramAssist
