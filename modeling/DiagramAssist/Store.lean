import DiagramAssist.Completion
import DiagramAssist.Registry

/-! # Documents and their includes

A store keeps the parsed documents by number. The symbols of a document are extracted at their first
use and kept, and so is the list of documents it includes, even when its tree is replaced later.
Queries walk the includes depth first and enter every keyed document at most once.
-/

namespace DiagramAssist

/-- A parsed document. One without a key is an unsaved buffer. -/
structure Context where
  key : Option String
  root : Root
  symbols : Option SymbolTable
  includes : Cell (List ContextId)

namespace Context

def fresh (key : Option String) (root : Root) : Context :=
  ⟨key, root, none, .empty⟩

instance : Inhabited Context := ⟨fresh none default⟩

/-- The symbols of the document: those already extracted, or those of its tree. -/
def table (context : Context) : SymbolTable :=
  context.symbols.getD (SymbolTable.extract context.root)

def extracted (context : Context) : Context :=
  { context with symbols := some context.table }

end Context

abbrev Store : Type :=
  List Context

namespace Store

def context (store : Store) (id : ContextId) : Context :=
  store.getD id default

def add (store : Store) (context : Context) : Store × ContextId :=
  (store ++ [context], store.length)

def update (store : Store) (id : ContextId) (change : Context → Context) : Store :=
  store.modify id change

def extract (store : Store) (id : ContextId) : Store :=
  store.update id Context.extracted

inductive Ending where
  /-- Everything reachable has been entered. -/
  | complete
  /-- The walk was told to stop at this document. -/
  | stopped (id : ContextId)
  /-- The includes of this document are not known yet. -/
  | blocked (id : ContextId)
deriving DecidableEq, Inhabited

/-- A walk so far: the documents entered, the last one first. -/
structure Walk where
  entered : List ContextId
  ending : Ending
deriving DecidableEq, Inhabited

/-- Whether a walk has been at the key of a document. A document without a key is always new. -/
def isSeen (store : Store) (entered : List ContextId) (id : ContextId) : Bool :=
  match (store.context id).key with
  | none => false
  | some key => entered.any fun other => (store.context other).key == some key

/-- Walks the documents on a stack depth first, at most `bound` of them. `stops` ends the walk at a
document that has just been entered. -/
def walkFrom (store : Store) (stops : ContextId → Bool) :
    (bound : Nat) → (entered stack : List ContextId) → Walk
  | _, entered, [] => ⟨entered, .complete⟩
  | 0, entered, _ :: _ => ⟨entered, .complete⟩
  | bound + 1, entered, id :: stack =>
    if store.isSeen entered id then walkFrom store stops bound entered stack
    else if stops id then ⟨id :: entered, .stopped id⟩
    else
      match (store.context id).includes.value with
      | none => ⟨id :: entered, .blocked id⟩
      | some includes => walkFrom store stops bound (id :: entered) (includes ++ stack)

/-- The number of known include edges. -/
def edgeCount (store : Store) : Nat :=
  (store.flatMap fun context => context.includes.value.getD []).length

/-- Walks everything reachable from a document. A keyed document is entered once, so every known
include is followed at most once. -/
def walk (store : Store) (stops : ContextId → Bool) (id : ContextId) : Walk :=
  walkFrom store stops (store.edgeCount + 1) [] [id]

/-- The store in which all entered documents have their symbols extracted. -/
def extractAll (store : Store) (entered : List ContextId) : Store :=
  entered.foldr (fun id store => store.extract id) store

/-- The items of documents in the order they were entered: the first by the filter given, all others
by what an including document sees. -/
def mergeItems (store : Store) (range : Range) (filter : Filter) : List ContextId → List Item
  | [] => []
  | first :: later =>
    later.foldl
      (fun items id => Item.mergeAll items ((store.context id).table.items range .forIncludes))
      (Item.mergeAll [] ((store.context first).table.items range filter))

def defines (store : Store) (name : String) (id : ContextId) : Bool :=
  ((store.context id).table.callable? name).isSome

def callableAt? (store : Store) (name : String) (id : ContextId) : Option CallableMatch :=
  ((store.context id).table.callable? name).map fun callable =>
    ⟨callable, (store.context id).key⟩

/-- What came of a query: an answer, or the document whose includes have to be resolved first. -/
inductive Result (α : Type) where
  | answer (value : α)
  | needs (id : ContextId)

/-- Everything that can be written in a document. -/
def suggestions (store : Store) (range : Range) (filter : Filter) (id : ContextId) :
    Store × Result (List Item) :=
  let walk := store.walk (fun _ => false) id
  let store := store.extractAll walk.entered
  match walk.ending with
  | .blocked needed => (store, .needs needed)
  | _ => (store, .answer (store.mergeItems range filter walk.entered.reverse))

/-- The first callable of a name in the order in which documents are entered. -/
def findCallable (store : Store) (name : String) (id : ContextId) :
    Store × Result (Option CallableMatch) :=
  let walk := store.walk (store.defines name) id
  let store := store.extractAll walk.entered
  match walk.ending with
  | .blocked needed => (store, .needs needed)
  | .stopped found => (store, .answer (store.callableAt? name found))
  | .complete => (store, .answer none)

def includesOf (store : Store) (id : ContextId) : Result (List ContextId) :=
  match (store.context id).includes.value with
  | some includes => .answer includes
  | none => .needs id

end Store

end DiagramAssist
