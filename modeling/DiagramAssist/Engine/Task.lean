import DiagramAssist.Engine.Inclusion
import DiagramAssist.Message.Protocol
import DiagramAssist.Text.Quoted

/-! # Tasks

What an engine is asked to do, and how far it has got. A task about a document first finds the
document, storing new content under its key, and then walks the includes; whenever the walk comes to
a document whose includes are not known, the task resolves them, or waits for the task that already
does. The includes of a document are resolved together: whenever the task has its turn, each of them
goes on in order as far as it can. Because symbols and includes never change once they are known, a
walk can start over from the beginning.
-/

namespace DiagramAssist

/-- What is wanted of a document. -/
inductive Goal where
  | context
  | symbols
  /-- The tree is replaced. -/
  | replace (root : Root)
  | includes
  | suggestions (range : Range) (filter : Filter)
  | arguments (name : String) (range : Range)
  | callable (name : String)

inductive LibraryGoal where
  | paths (start : String)
  | completions (start : String) (range : Range)
  | resolve (path : String)

inductive Command where
  | document (reference : DocumentRef) (goal : Goal)
  | library (goal : LibraryGoal)
  | load (key : String)
  | resolveKeys (base : Option String) (includes : List Include)
  /-- From now on the source has something else at an address. -/
  | changeDocument (url : String) (supply : Supply Payload)
  /-- From now on the source has another listing of the library. -/
  | changeListing (listing : Nat → Supply (List LibraryEntry))

/-- A document as it is at some moment. -/
structure ContextView where
  key : Option String
  root : Root
  symbolsExtracted : Bool
  includesResolved : Bool

instance : Inhabited ContextView := ⟨⟨none, default, false, false⟩⟩

/-- What a document looks like. -/
def Context.view (context : Context) : ContextView :=
  ⟨context.key, context.root, context.symbols.isSome, context.includes.isFilled⟩

/-- A description of a document for a log: its key and what is known about it. -/
def ContextView.describe (view : ContextView) : String :=
  let key := view.key.elim "None" fun key => "Some(" ++ Text.quote key ++ ")"
  "FileContext \x7b key: " ++ key ++ ", symbols_extracted: " ++ toString view.symbolsExtracted ++
    ", includes_resolved: " ++ toString view.includesResolved ++ ", .. \x7d"

inductive Reply where
  | items (items : List Item)
  | callable (found : Option CallableMatch)
  | entries (entries : List LibraryEntry)
  | address (url : Option String)
  | context (view : ContextView)
  | symbols (table : SymbolTable)
  | keys (keys : List (Option String))
  | changed
  | loadFailed (error : LoadError)
  | failed (error : QueryError)

instance : Inhabited Reply := ⟨.failed .missingContent⟩

inductive Task where
  | updating (update : Update) (goal : Goal)
  | walking (context : ContextId) (goal : Goal)
  /-- Another task resolves the includes of `target`; `call` is the number of the wait. -/
  | awaiting (call : Nat) (target context : ContextId) (goal : Goal)
  /-- The includes of `target` go on in order; those that have `passed` wait or are settled. -/
  | resolving (target : ContextId) (passed rest : List Inclusion) (context : ContextId)
      (goal : Goal)
  | looking (lookup : Lookup) (goal : LibraryGoal)
  | loading (load : Load)
  | keying (base : Option String) (settled : List (Option String)) (current : Option Keying)
      (rest : List Include)
  | finished (reply : Reply)

namespace Task

instance : Inhabited Task := ⟨.finished default⟩

def parseContent (content : String) : Except QueryError Root :=
  match parse content with
  | .ok root => .ok root
  | .error error => .error (.parse error content)

/-- Finds the document that a query is about. -/
def locate (world : World) (reference : DocumentRef) (goal : Goal) : World × Task :=
  match reference.key, reference.content with
  | some key, some content =>
    match parseContent content with
    | .error error => (world, .finished (.failed error))
    | .ok root =>
      let (world, update) := Update.begin world key root
      (world, .updating update goal)
  | some key, none =>
    match world.registry.get? key with
    | some context => (world, .walking context goal)
    | none => (world, .finished (.failed (.documentNotFound key)))
  | none, some content =>
    match parseContent content with
    | .error error => (world, .finished (.failed error))
    | .ok root =>
      let (world, context) := world.addContext (.fresh none root)
      (world, .walking context goal)
  | none, none => (world, .finished (.failed .missingContent))

def begin (world : World) : Command → World × Task
  | .document reference goal => locate world reference goal
  | .library goal => (world, .looking .arriving goal)
  | .load key => (world, .loading (.arriving key))
  | .resolveKeys base includes => (world, .keying base [] none includes)
  | .changeDocument url supply => (world.changeDocument url supply, .finished .changed)
  | .changeListing listing => (world.changeListing listing, .finished .changed)

/-- The includes of `target` are needed: this task resolves them unless another one does already. -/
def needIncludes (world : World) (target context : ContextId) (goal : Goal) : World × Task :=
  let (world, call) := world.newCall
  let (cell, standing) := (world.store.context target).includes.enter call
  match standing with
  | .holding =>
    let store := (world.store.extract target).update target fun context =>
      { context with includes := cell }
    let inclusions := (store.context target).table.includes.map fun content =>
      Inclusion.keying (.pending content)
    ({ world with store }, .resolving target [] inclusions context goal)
  | _ => (world, .awaiting call target context goal)

/-- Goes on from what came of a walk. -/
def afterWalk {α : Type} (world : World) (context : ContextId) (goal : Goal) (reply : α → Reply) :
    Store × Store.Result α → World × Task
  | (store, .answer value) => ({ world with store }, .finished (reply value))
  | (store, .needs target) => needIncludes { world with store } target context goal

/-- Does what is wanted of a document, as far as its includes are known. -/
def pursue (world : World) (context : ContextId) (goal : Goal) : World × Task :=
  match goal with
  | .context => (world, .finished (.context (world.store.context context).view))
  | .symbols =>
    let store := world.store.extract context
    ({ world with store }, .finished (.symbols (store.context context).table))
  | .replace root =>
    let store := world.store.update context fun context => { context with root }
    ({ world with store }, .finished (.context (store.context context).view))
  | .includes =>
    afterWalk world context goal
      (fun ids => .keys (ids.map fun id => (world.store.context id).key))
      (world.store, world.store.includesOf context)
  | .suggestions range filter =>
    afterWalk world context goal .items (world.store.suggestions range filter context)
  | .arguments name range =>
    afterWalk world context goal
      (fun found => .items (found.elim [] fun found => found.callable.argumentItems range))
      (world.store.findCallable name context)
  | .callable name =>
    afterWalk world context goal .callable (world.store.findCallable name context)

/-- The answer about the standard library. -/
def libraryReply (config : Config) (goal : LibraryGoal) :
    Except FetchError (List LibraryEntry) → Reply
  | .ok entries =>
    match goal with
    | .paths start => .entries (LibraryEntry.startingWith entries start)
    | .completions start range =>
      .items ((LibraryEntry.startingWith entries start).map (·.toItem config.extension range))
    | .resolve path => .address (LibraryEntry.resolve? entries config.extension path)
  | .error error =>
    match goal with
    | .resolve _ => .address none
    | _ => .failed (.fetch error)

def step (engine : Nat) (world : World) : Task → Step Task
  | .updating (.returned context) goal => some (world, .walking context goal)
  | .updating update goal =>
    (update.step world).map fun (world, update) => (world, .updating update goal)
  | .walking context goal => some (pursue world context goal)
  | .awaiting _ target context goal =>
    if (world.store.context target).includes.isFilled then some (world, .walking context goal)
    else none
  | .resolving target passed (inclusion :: rest) context goal =>
    match inclusion.step engine (world.store.context target).key world with
    | some (world, inclusion) =>
      some (world, .resolving target passed (inclusion :: rest) context goal)
    | none => some (world, .resolving target (passed ++ [inclusion]) rest context goal)
  | .resolving target passed [] context goal =>
    (Inclusion.contexts? passed).map fun ids =>
      let store := world.store.update target fun context =>
        { context with includes := context.includes.fill ids }
      ({ world with store }, .walking context goal)
  | .looking (.returned result) goal =>
    some (world, .finished (libraryReply world.config goal result))
  | .looking lookup goal =>
    (lookup.step engine world).map fun (world, lookup) => (world, .looking lookup goal)
  | .loading (.returned (.ok context)) =>
    some (world, .finished (.context (world.store.context context).view))
  | .loading (.returned (.error error)) => some (world, .finished (.loadFailed error))
  | .loading load => (load.step world).map fun (world, load) => (world, .loading load)
  | .keying base settled (some (.settled key)) rest =>
    some (world, .keying base (settled ++ [key]) none rest)
  | .keying base settled (some current) rest =>
    (current.step engine base world).map fun (world, current) =>
      (world, .keying base settled (some current) rest)
  | .keying base settled none (content :: rest) =>
    some (world, .keying base settled (some (.pending content)) rest)
  | .keying _ settled none [] => some (world, .finished (.keys settled))
  | .finished _ => none

/-- A task that waits gets a turn: all includes may go on again. -/
def resume : Task → Task
  | .resolving target passed rest context goal => .resolving target [] (passed ++ rest) context goal
  | task => task

/-- The number of the wait that is over, if the task waited and can go on. Of several waits it is
the one that began first. -/
def woken? (engine : Nat) (world : World) : Task → Option Nat
  | .updating update _ => update.woken? world
  | .awaiting call target _ _ =>
    if (world.store.context target).includes.isFilled then some call else none
  | .resolving _ passed _ _ _ => (passed.filterMap (Inclusion.woken? engine world)).min?
  | .looking lookup _ => lookup.woken? engine world
  | .loading load => load.woken? world
  | .keying _ _ (some current) _ => current.woken? engine world
  | _ => none

/-- When a waiting task goes on by itself, if only time has to pass for it. -/
def due? : Task → Option Nat
  | .resolving _ passed _ _ _ => (passed.filterMap Inclusion.due?).min?
  | .looking lookup _ => lookup.due?
  | .loading load => load.due?
  | .keying _ _ (some current) _ => current.due?
  | _ => none

/-- The answer of a task that has one. -/
def reply? : Task → Option Reply
  | .finished reply => some reply
  | _ => none

end Task

end DiagramAssist
