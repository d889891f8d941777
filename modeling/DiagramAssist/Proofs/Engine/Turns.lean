import DiagramAssist.Proofs.Engine.Calls
import DiagramAssist.Proofs.Engine.Queries
import Mathlib.Data.List.ReduceOption

/-! # What the next turn of a task can be

The steps of resolutions and tasks, taken apart once for all proofs about them. A walk that is
blocked either comes to wait for the task that resolves the includes it needs, or resolves them
itself; everything else is a step of one of the calls that a task consists of.
-/

namespace DiagramAssist

variable {world : World} {engine : Nat}

namespace Keying

/-- A key is found at once, or by the listing. -/
inductive Turn (engine : Nat) (base : Option String) (world : World) :
    Keying → World × Keying → Prop where
  | look {content : Include} (kind : content.kind = .standard) :
      Turn engine base world (.pending content) (world, .looking content.target.value .arriving)
  | url {content : Include} (kind : content.kind = .url) :
      Turn engine base world (.pending content) (world, .settled (some content.target.value))
  | path {content : Include} (kind : content.kind = .path) :
      Turn engine base world (.pending content)
        (world, .settled (resolvePath? base content.target.value))
  | lookup {path : String} {lookup : Lookup} {outcome : World × Lookup}
      (turn : Lookup.Turn engine world lookup outcome) :
      Turn engine base world (.looking path lookup) (outcome.1, .looking path outcome.2)
  | listed {path : String} {entries : List LibraryEntry} :
      Turn engine base world (.looking path (.returned (.ok entries)))
        (world, .settled (LibraryEntry.resolve? entries world.config.extension path))
  | unlisted {path : String} {error : FetchError} :
      Turn engine base world (.looking path (.returned (.error error))) (world, .settled none)

theorem step_turn {base : Option String} {keying : Keying} {outcome : World × Keying}
    (went : keying.step engine base world = some outcome) :
    Turn engine base world keying outcome := by
  cases keying with
  | pending content =>
    cases kind : content.kind with
    | standard =>
      simp only [step, kind] at went
      cases went
      exact .look kind
    | url =>
      simp only [step, kind] at went
      cases went
      exact .url kind
    | path =>
      simp only [step, kind] at went
      cases went
      exact .path kind
  | looking path lookup =>
    have turned (went : (lookup.step engine world).map
          (fun next => (next.1, Keying.looking path next.2)) = some outcome) :
        Turn engine base world (.looking path lookup) outcome := by
      obtain ⟨next, moved, rfl⟩ := Option.map_eq_some_iff.mp went
      exact .lookup (Lookup.step_turn moved)
    cases lookup with
    | arriving => exact turned went
    | queued call => exact turned went
    | fetching pending => exact turned went
    | returned result =>
      cases result with
      | ok entries =>
        cases went
        exact .listed
      | error error =>
        cases went
        exact .unlisted
  | settled key => cases went

end Keying

namespace Inclusion

/-- The key is found, then the document is loaded; where one of both fails, the include is left
out. -/
inductive Turn (engine : Nat) (base : Option String) (world : World) :
    Inclusion → World × Inclusion → Prop where
  | unresolved : Turn engine base world (.keying (.settled none)) (world, .settled none)
  | resolved {key : String} :
      Turn engine base world (.keying (.settled (some key))) (world, .loading (.arriving key))
  | keying {keying : Keying} {outcome : World × Keying}
      (turn : Keying.Turn engine base world keying outcome) :
      Turn engine base world (.keying keying) (outcome.1, .keying outcome.2)
  | load {load : Load} {outcome : World × Load} (turn : Load.Turn world load outcome) :
      Turn engine base world (.loading load) (outcome.1, .loading outcome.2)
  | loaded {id : ContextId} :
      Turn engine base world (.loading (.returned (.ok id))) (world, .settled (some id))
  | failed {error : LoadError} :
      Turn engine base world (.loading (.returned (.error error))) (world, .settled none)

theorem step_turn {base : Option String} {inclusion : Inclusion} {outcome : World × Inclusion}
    (went : inclusion.step engine base world = some outcome) :
    Turn engine base world inclusion outcome := by
  cases inclusion with
  | keying keying =>
    have turned (went : (keying.step engine base world).map
          (fun next => (next.1, Inclusion.keying next.2)) = some outcome) :
        Turn engine base world (.keying keying) outcome := by
      obtain ⟨next, moved, rfl⟩ := Option.map_eq_some_iff.mp went
      exact .keying (Keying.step_turn moved)
    cases keying with
    | pending content => exact turned went
    | looking path lookup => exact turned went
    | settled key =>
      cases key with
      | none =>
        cases went
        exact .unresolved
      | some key =>
        cases went
        exact .resolved
  | loading load =>
    have turned (went : (load.step world).map
          (fun next => (next.1, Inclusion.loading next.2)) = some outcome) :
        Turn engine base world (.loading load) outcome := by
      obtain ⟨next, moved, rfl⟩ := Option.map_eq_some_iff.mp went
      exact .load (Load.step_turn moved)
    cases load with
    | arriving key => exact turned went
    | queued key call slot => exact turned went
    | fetching key slot pending => exact turned went
    | returned result =>
      cases result with
      | ok id =>
        cases went
        exact .loaded
      | error error =>
        cases went
        exact .failed
  | settled context => cases went

/-- Includes are known when all of them are settled. -/
theorem contexts?_eq_some_iff {inclusions : List Inclusion} {ids : List ContextId} :
    contexts? inclusions = some ids ↔
      ∃ found : List (Option ContextId), inclusions = found.map .settled ∧
        ids = found.reduceOption := by
  constructor
  · intro known
    induction inclusions generalizing ids with
    | nil =>
      cases known
      exact ⟨[], rfl, rfl⟩
    | cons inclusion rest ih =>
      cases inclusion with
      | keying keying => cases known
      | loading load => cases known
      | settled context =>
        simp only [contexts?, bind, Option.bind_eq_some_iff] at known
        obtain ⟨later, settled, known⟩ := known
        obtain ⟨found, rfl, rfl⟩ := ih settled
        cases context with
        | none =>
          cases known
          exact ⟨none :: found, rfl, rfl⟩
        | some context =>
          cases known
          exact ⟨some context :: found, rfl, rfl⟩
  · rintro ⟨found, rfl, rfl⟩
    induction found with
    | nil => rfl
    | cons context rest ih =>
      simp only [List.map_cons, contexts?, ih]
      cases context <;> rfl

end Inclusion

namespace Task

/-- The includes of a document when a task begins to resolve them. -/
def inclusions (table : SymbolTable) : List Inclusion :=
  table.includes.map fun content => .keying (.pending content)

/-- A task that needs includes which are not known waits for the task that resolves them, or
resolves them itself. -/
theorem needIncludes_cases (world : World) {target : ContextId}
    (unknown : (world.store.context target).includes.value = none) (context : ContextId)
    (goal : Goal) :
    ((world.store.context target).includes.holder ≠ none ∧
      needIncludes world target context goal =
        ({ world with nextCall := world.nextCall + 1 },
          .awaiting world.nextCall target context goal)) ∨
    ((world.store.context target).includes.holder = none ∧
      needIncludes world target context goal =
        ({ world with
            store := (world.store.extract target).update target fun context =>
              { context with
                includes := { (world.store.context target).includes with
                  holder := some world.nextCall } }
            nextCall := world.nextCall + 1 },
          .resolving target [] (inclusions (world.store.context target).table) context goal)) := by
  have entry := (world.store.context target).includes.enter_entry world.nextCall
  simp only [needIncludes, World.newCall]
  generalize (world.store.context target).includes.enter world.nextCall = entered at entry
  obtain ⟨cell, standing⟩ := entered
  cases entry with
  | found known =>
    rw [unknown] at known
    cases known
  | queued empty held => exact .inl ⟨held, rfl⟩
  | holding empty free =>
    refine .inr ⟨free, ?_⟩
    have table : (((world.store.extract target).update target fun context =>
        { context with
          includes := { (world.store.context target).includes with
            holder := some world.nextCall } }).context target).table =
        (world.store.context target).table := by
      refine (Store.read_update Context.table ?_ _ _ _).trans
        (Store.read_update Context.table ?_ world.store target target)
      · exact fun _ => rfl
      · exact fun _ => rfl
    simp only [inclusions, table]

/-- What can come of pursuing a goal: an answer, or the need of includes that are not known. What is
known of documents is kept, and symbols may be extracted or a tree replaced. -/
theorem pursue_cases (linked : world.store.Linked) {context : ContextId}
    (known : context < world.store.length) (goal : Goal) :
    ∃ store, world.store.SameLinks store ∧
      ((∃ reply, pursue world context goal = ({ world with store }, .finished reply)) ∨
        ∃ target, target < store.length ∧ (store.context target).includes.value = none ∧
          pursue world context goal = needIncludes { world with store } target context goal) := by
  have query (query : Query) : ∃ store, world.store.SameLinks store ∧
      ((∃ reply, pursue world context query.goal = ({ world with store }, .finished reply)) ∨
        ∃ target, target < store.length ∧ (store.context target).includes.value = none ∧
          pursue world context query.goal =
            needIncludes { world with store } target context query.goal) := by
    obtain ⟨final, finish, trail, ⟨-, answered⟩ | ⟨target, before, entered, -, unknown, needed⟩⟩ :=
      query.pursue_eq linked context
    · exact ⟨_, world.store.sameLinks_extractAll final, .inl ⟨_, answered⟩⟩
    · have same := world.store.sameLinks_extractAll final
      have inside : ∀ id ∈ final, id < world.store.length := trail.inside
        (fun _ known next listed => Store.lt_length_of_key (linked known next listed)) nofun
        (by simpa using known)
      refine ⟨_, same, .inr ⟨target, ?_, unknown, needed⟩⟩
      rw [same.length]
      exact inside target (by simp [entered])
  cases goal with
  | context => exact ⟨_, .refl _, .inl ⟨_, rfl⟩⟩
  | symbols => exact ⟨_, world.store.sameLinks_extract context, .inl ⟨_, rfl⟩⟩
  | replace root => exact ⟨_, world.store.sameLinks_root context root, .inl ⟨_, rfl⟩⟩
  | includes =>
    refine ⟨_, .refl _, ?_⟩
    simp only [pursue, Store.includesOf]
    cases value : (world.store.context context).includes.value with
    | some ids => exact .inl ⟨_, rfl⟩
    | none => exact .inr ⟨context, known, value, rfl⟩
  | suggestions range filter => exact query (.suggestions range filter)
  | arguments name range => exact query (.arguments name range)
  | callable name => exact query (.callable name)

/-- What a task does next. -/
inductive Turn (engine : Nat) (world : World) : Task → World × Task → Prop where
  | updated {context : ContextId} {goal : Goal} :
      Turn engine world (.updating (.returned context) goal) (world, .walking context goal)
  | update {update : Update} {outcome : World × Update} {goal : Goal}
      (turn : Update.Turn world update outcome) :
      Turn engine world (.updating update goal) (outcome.1, .updating outcome.2 goal)
  | pursue {context : ContextId} {goal : Goal} :
      Turn engine world (.walking context goal) (pursue world context goal)
  | woken {call : Nat} {target context : ContextId} {goal : Goal}
      (known : (world.store.context target).includes.value ≠ none) :
      Turn engine world (.awaiting call target context goal) (world, .walking context goal)
  | inclusion {target context : ContextId} {passed rest : List Inclusion} {inclusion : Inclusion}
      {outcome : World × Inclusion} {goal : Goal}
      (turn : Inclusion.Turn engine (world.store.context target).key world inclusion outcome) :
      Turn engine world (.resolving target passed (inclusion :: rest) context goal)
        (outcome.1, .resolving target passed (outcome.2 :: rest) context goal)
  | pass {target context : ContextId} {passed rest : List Inclusion} {inclusion : Inclusion}
      {goal : Goal}
      (stuck : inclusion.step engine (world.store.context target).key world = none) :
      Turn engine world (.resolving target passed (inclusion :: rest) context goal)
        (world, .resolving target (passed ++ [inclusion]) rest context goal)
  | resolved {target context : ContextId} {found : List (Option ContextId)} {goal : Goal} :
      Turn engine world (.resolving target (found.map .settled) [] context goal)
        ({ world with store := world.store.resolve target found.reduceOption },
          .walking context goal)
  | looked {result : Except FetchError (List LibraryEntry)} {goal : LibraryGoal} :
      Turn engine world (.looking (.returned result) goal)
        (world, .finished (libraryReply world.config goal result))
  | lookup {lookup : Lookup} {outcome : World × Lookup} {goal : LibraryGoal}
      (turn : Lookup.Turn engine world lookup outcome) :
      Turn engine world (.looking lookup goal) (outcome.1, .looking outcome.2 goal)
  | loaded {context : ContextId} :
      Turn engine world (.loading (.returned (.ok context)))
        (world, .finished (.context (world.store.context context).view))
  | failed {error : LoadError} :
      Turn engine world (.loading (.returned (.error error))) (world, .finished (.loadFailed error))
  | load {load : Load} {outcome : World × Load} (turn : Load.Turn world load outcome) :
      Turn engine world (.loading load) (outcome.1, .loading outcome.2)
  | keyed {base key : Option String} {settled : List (Option String)} {rest : List Include} :
      Turn engine world (.keying base settled (some (.settled key)) rest)
        (world, .keying base (settled ++ [key]) none rest)
  | keying {base : Option String} {settled : List (Option String)} {current : Keying}
      {outcome : World × Keying} {rest : List Include}
      (turn : Keying.Turn engine base world current outcome) :
      Turn engine world (.keying base settled (some current) rest)
        (outcome.1, .keying base settled (some outcome.2) rest)
  | next {base : Option String} {settled : List (Option String)} {content : Include}
      {rest : List Include} :
      Turn engine world (.keying base settled none (content :: rest))
        (world, .keying base settled (some (.pending content)) rest)
  | listed {base : Option String} {settled : List (Option String)} :
      Turn engine world (.keying base settled none []) (world, .finished (.keys settled))

theorem step_turn {task : Task} {outcome : World × Task}
    (went : task.step engine world = some outcome) : Turn engine world task outcome := by
  cases task with
  | updating update goal =>
    have turned (went : (update.step world).map
          (fun next => (next.1, Task.updating next.2 goal)) = some outcome) :
        Turn engine world (.updating update goal) outcome := by
      obtain ⟨next, moved, rfl⟩ := Option.map_eq_some_iff.mp went
      exact .update (Update.step_turn moved)
    cases update with
    | arriving key fresh => exact turned went
    | queued key fresh call slot => exact turned went
    | returned context =>
      cases went
      exact .updated
  | walking context goal =>
    cases went
    exact .pursue
  | awaiting call target context goal =>
    simp only [step] at went
    split at went
    · next filled =>
      cases went
      exact .woken (Option.isSome_iff_ne_none.mp filled)
    · cases went
  | resolving target passed rest context goal =>
    cases rest with
    | nil =>
      obtain ⟨ids, settled, rfl⟩ := Option.map_eq_some_iff.mp went
      obtain ⟨found, rfl, rfl⟩ := Inclusion.contexts?_eq_some_iff.mp settled
      exact .resolved
    | cons inclusion rest =>
      simp only [step] at went
      split at went
      · next moved =>
        cases went
        exact .inclusion (Inclusion.step_turn moved)
      · next stuck =>
        cases went
        exact .pass stuck
  | looking lookup goal =>
    have turned (went : (lookup.step engine world).map
          (fun next => (next.1, Task.looking next.2 goal)) = some outcome) :
        Turn engine world (.looking lookup goal) outcome := by
      obtain ⟨next, moved, rfl⟩ := Option.map_eq_some_iff.mp went
      exact .lookup (Lookup.step_turn moved)
    cases lookup with
    | arriving => exact turned went
    | queued call => exact turned went
    | fetching pending => exact turned went
    | returned result =>
      cases went
      exact .looked
  | loading load =>
    have turned (went : (load.step world).map
          (fun next => (next.1, Task.loading next.2)) = some outcome) :
        Turn engine world (.loading load) outcome := by
      obtain ⟨next, moved, rfl⟩ := Option.map_eq_some_iff.mp went
      exact .load (Load.step_turn moved)
    cases load with
    | arriving key => exact turned went
    | queued key call slot => exact turned went
    | fetching key slot pending => exact turned went
    | returned result =>
      cases result with
      | ok context =>
        cases went
        exact .loaded
      | error error =>
        cases went
        exact .failed
  | keying base settled current rest =>
    cases current with
    | none =>
      cases rest with
      | nil =>
        cases went
        exact .listed
      | cons content rest =>
        cases went
        exact .next
    | some current =>
      have turned (went : (current.step engine base world).map (fun next =>
            (next.1, Task.keying base settled (some next.2) rest)) = some outcome) :
          Turn engine world (.keying base settled (some current) rest) outcome := by
        obtain ⟨next, moved, rfl⟩ := Option.map_eq_some_iff.mp went
        exact .keying (Keying.step_turn moved)
      cases current with
      | pending content => exact turned went
      | looking path lookup => exact turned went
      | settled key =>
        cases went
        exact .keyed
  | finished reply => cases went

end Task

end DiagramAssist
