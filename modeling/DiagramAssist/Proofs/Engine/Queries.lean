import DiagramAssist.Engine.Task
import DiagramAssist.Proofs.Store.Suggestions
import DiagramAssist.Proofs.Store.Trail

/-! # What queries are answered with

A query about a document walks the includes. What it answers depends only on the pages that it has
gone through, that is, on the keys and symbols of the documents it has entered, and on how its walk
has ended (`Query.pursue_eq`).
-/

namespace DiagramAssist

/-- What answers depend on. -/
structure Page where
  key : Option String
  table : SymbolTable

/-- What a document contributes to answers. -/
def Context.page (context : Context) : Page :=
  ⟨context.key, context.table⟩

/-- The page of a document of a store. -/
def Store.page (store : Store) (id : ContextId) : Page :=
  (store.context id).page

theorem Store.page_extractAll (store : Store) (entered : List ContextId) :
    (store.extractAll entered).page = store.page := by
  funext id
  exact read_extractAll Context.page (fun _ => rfl) store entered id

/-- A page whose symbols have been extracted does not change any more. -/
theorem Store.Grows.page {store later : Store} (grows : store.Grows later) {id : ContextId}
    (known : id < store.length) (extracted : (store.context id).symbols ≠ none) :
    later.page id = store.page id := by
  simp only [Store.page, Context.page, (grows.context known).key,
    (grows.context known).table extracted]

/-- What is asked about everything that can be reached from a document. -/
inductive Query where
  | suggestions (range : Range) (filter : Filter)
  | arguments (name : String) (range : Range)
  | callable (name : String)

namespace Query

def goal : Query → Goal
  | .suggestions range filter => .suggestions range filter
  | .arguments name range => .arguments name range
  | .callable name => .callable name

/-- Whether a query need not go beyond a page. -/
def stops : Query → Page → Bool
  | .suggestions _ _, _ => false
  | .arguments name _, page => (page.table.callable? name).isSome
  | .callable name, page => (page.table.callable? name).isSome

/-- The items of the first page by the filter given, and of later ones by what an including document
sees. -/
def items (range : Range) (filter : Filter) : List Page → List Item
  | [] => []
  | first :: later =>
    Item.mergeAll [] (first.table.items range filter ++
      later.flatMap fun page => page.table.items range .forIncludes)

/-- The callable at which a search has stopped. -/
def found? (name : String) : Finish → List Page → Option CallableMatch
  | .stopped, page :: _ =>
    (page.table.callable? name).map fun callable => ⟨callable, page.key⟩
  | _, _ => none

/-- The answer to a query that has gone through some pages, of which the last comes first. -/
def answer (query : Query) (finish : Finish) (pages : List Page) : Reply :=
  match query with
  | .suggestions range filter => .items (items range filter pages.reverse)
  | .arguments name range =>
    .items ((found? name finish pages).elim [] fun found => found.callable.argumentItems range)
  | .callable name => .callable (found? name finish pages)

theorem items_eq (store : Store) (range : Range) (filter : Filter) (ids : List ContextId) :
    store.mergeItems range filter ids = items range filter (ids.map store.page) := by
  cases ids with
  | nil => rfl
  | cons first later =>
    rw [Store.mergeItems_cons, List.map_cons, items, List.flatMap_map]
    rfl

theorem callableAt?_eq (store : Store) (name : String) (id : ContextId) (entered : List ContextId) :
    (store.extractAll (id :: entered)).callableAt? name id =
      found? name .stopped ((id :: entered).map store.page) := by
  rw [← Store.page_extractAll store (id :: entered)]
  rfl

/-- What comes of pursuing a query: it is answered after the pages on its trail, or it needs the
includes of the last document entered. -/
theorem pursue_eq (query : Query) {world : World} (linked : world.store.Linked)
    (context : ContextId) :
    ∃ final finish,
      world.store.chart.Trail (fun id => query.stops (world.store.page id)) [] [context] final
        finish ∧
      ((finish ≠ .blocked ∧ Task.pursue world context query.goal =
          ({ world with store := world.store.extractAll final },
            .finished (query.answer finish (final.map world.store.page)))) ∨
        ∃ target before, final = target :: before ∧ finish = .blocked ∧
          ((world.store.extractAll final).context target).includes.value = none ∧
          Task.pursue world context query.goal = Task.needIncludes
            { world with store := world.store.extractAll final } target context query.goal) := by
  have passed (stops : ContextId → Bool) := Store.walk_trail stops linked context
  -- A blocked walk has just entered the document whose includes it needs.
  have blocked {stops : ContextId → Bool} {target : ContextId} {before : List ContextId}
      (trail : world.store.chart.Trail stops [] [context] (target :: before) .blocked) :
      ((world.store.extractAll (target :: before)).context target).includes.value = none := by
    obtain ⟨node, before', entered, unknown, -⟩ := trail.blocked
    cases entered
    rw [(world.store.sameLinks_extractAll _).includes]
    exact unknown
  cases query with
  | suggestions range filter =>
    obtain ⟨finish, trail, ends⟩ := passed fun _ => false
    refine ⟨_, finish, trail, ?_⟩
    simp only [goal, Task.pursue, Task.afterWalk, Store.suggestions]
    generalize world.store.walk (fun _ => false) context = walk at ends trail
    cases ends with
    | complete =>
      refine .inl ⟨by simp, ?_⟩
      simp only [answer, items_eq, List.map_reverse, Store.page_extractAll]
    | stopped =>
      refine .inl ⟨by simp, ?_⟩
      simp only [answer, items_eq, List.map_reverse, Store.page_extractAll]
    | blocked => exact .inr ⟨_, _, rfl, rfl, blocked trail, rfl⟩
  | arguments name range =>
    obtain ⟨finish, trail, ends⟩ := passed (world.store.defines name)
    refine ⟨_, finish, trail, ?_⟩
    simp only [goal, Task.pursue, Task.afterWalk, Store.findCallable]
    generalize world.store.walk (world.store.defines name) context = walk at ends trail
    cases ends with
    | complete => exact .inl ⟨by simp, rfl⟩
    | stopped =>
      refine .inl ⟨by simp, ?_⟩
      simp only [answer, callableAt?_eq]
    | blocked => exact .inr ⟨_, _, rfl, rfl, blocked trail, rfl⟩
  | callable name =>
    obtain ⟨finish, trail, ends⟩ := passed (world.store.defines name)
    refine ⟨_, finish, trail, ?_⟩
    simp only [goal, Task.pursue, Task.afterWalk, Store.findCallable]
    generalize world.store.walk (world.store.defines name) context = walk at ends trail
    cases ends with
    | complete => exact .inl ⟨by simp, rfl⟩
    | stopped =>
      refine .inl ⟨by simp, ?_⟩
      simp only [answer, callableAt?_eq]
    | blocked => exact .inr ⟨_, _, rfl, rfl, blocked trail, rfl⟩

end Query

end DiagramAssist
