import DiagramAssist.Proofs.Engine.Progress

/-! # A listing that is known

Once the listing of an engine is known it stays as it is, whatever the engines do and however the
source changes: the one call that could change it works at a cell that is still empty. So whatever
has been answered off a listing is still true of the listing later (`Traffic.listing_of_library`).
-/

namespace DiagramAssist

/-- Listings that are known stay as they are, and so do the settings. -/
structure World.KeepsListings (before after : World) : Prop where
  config : after.config = before.config
  listing : ∀ {engine : Nat} {entries : List LibraryEntry},
    (before.library engine).value = some entries → (after.library engine).value = some entries

variable {world after : World} {engine : Nat} {entries : List LibraryEntry}
  {everyone : Attendance}

namespace World.KeepsListings

theorem refl (world : World) : world.KeepsListings world :=
  ⟨rfl, id⟩

theorem trans {first second third : World} (left : first.KeepsListings second)
    (right : second.KeepsListings third) : first.KeepsListings third :=
  ⟨right.config.trans left.config, fun known => right.listing (left.listing known)⟩

/-- Something is done to other things than listings. -/
theorem of_libraries (config : after.config = world.config)
    (libraries : after.libraries = world.libraries) : world.KeepsListings after where
  config := config
  listing known := by
    rw [World.library, libraries]
    exact known

/-- Something is done to one listing, perhaps with a new number. -/
theorem setLibrary {cell : Cell (List LibraryEntry)} (nextCall : Nat)
    (there : engine < world.libraries.length)
    (kept : ∀ {entries : List LibraryEntry}, (world.library engine).value = some entries →
      cell.value = some entries) :
    world.KeepsListings (World.setLibrary { world with nextCall } engine cell) where
  config := rfl
  listing {other entries} known := by
    by_cases here : other = engine
    · subst here
      have same : (World.setLibrary { world with nextCall } other cell).library other = cell :=
        Orderly.library_setLibrary_self there
      rw [same]
      exact kept known
    · have same : (World.setLibrary { world with nextCall } engine cell).library other =
          world.library other := Orderly.library_setLibrary_of_ne here
      rwa [same]

end World.KeepsListings

/-! ## What the turns keep -/

namespace Lookup

variable {lookup : Lookup} {outcome : World × Lookup}

theorem proceed_keepsListings (world : World) (call : Nat)
    (standing : Cell.Standing (List LibraryEntry)) :
    world.KeepsListings (proceed world call standing).1 := by
  cases standing <;> exact .of_libraries rfl rfl

/-- A lookup that fetches the listing is the only one that can change it, and it has none yet. -/
theorem Turn.keepsListings (turn : Turn engine world lookup outcome)
    (staffed : world.Staffed everyone) (present : lookup.clients engine ⊆ everyone)
    (there : engine < world.libraries.length) : world.KeepsListings outcome.1 := by
  have empty {pending : Pending (List LibraryEntry)} (fetches : lookup = .fetching pending) :
      (world.library engine).value = none := by
    subst fetches
    have working : (.library engine, .working) ∈ everyone :=
      present (Multiset.mem_singleton_self _)
    exact Cell.value_shape_eq_none.mp (staffed.empty_of_working working)
  cases turn with
  | @arrive cell standing entry =>
    have same : cell.value = (world.library engine).value := by cases entry <;> rfl
    have entered : world.KeepsListings
        (World.setLibrary { world with nextCall := world.nextCall + 1 } engine cell) :=
      .setLibrary _ there fun known => same.trans known
    exact entered.trans (proceed_keepsListings _ _ _)
  | receive known => exact .refl world
  | takeOver empty held => exact .of_libraries rfl rfl
  | @deliver pending entries ended good =>
    exact .setLibrary world.nextCall there fun known => nomatch (empty rfl).symm.trans known
  | @fail pending error ended bad =>
    exact .setLibrary world.nextCall there fun known => nomatch (empty rfl).symm.trans known

end Lookup

theorem Load.Turn.keepsListings {load : Load} {outcome : World × Load}
    (turn : Load.Turn world load outcome) : world.KeepsListings outcome.1 := by
  cases turn with
  | @arrive key registry slot standing arrival => cases standing <;> exact .of_libraries rfl rfl
  | receive filled => exact .refl world
  | takeOver empty held => exact .of_libraries rfl rfl
  | deliver ended good => exact .of_libraries rfl rfl
  | fail ended bad => exact .of_libraries rfl rfl

namespace Update

theorem settle_keepsListings (world : World) (key : String) (fresh : ContextId) (slot : SlotId)
    (stored : ContextId) : world.KeepsListings (settle world key fresh slot stored).1 := by
  simp only [settle]
  split
  · exact .refl world
  · split
    · exact .refl world
    · exact .of_libraries rfl rfl

theorem Turn.keepsListings {update : Update} {outcome : World × Update}
    (turn : Turn world update outcome) : world.KeepsListings outcome.1 := by
  have settled (registry : Registry) (nextCall : Nat) (key : String) (fresh : ContextId)
      (slot : SlotId) (stored : ContextId) :
      world.KeepsListings (settle { world with registry, nextCall } key fresh slot stored).1 := by
    have changed : world.KeepsListings { world with registry, nextCall } := .of_libraries rfl rfl
    exact changed.trans (settle_keepsListings _ _ _ _ _)
  cases turn with
  | @arrive key fresh registry slot standing arrival =>
    cases standing with
    | found stored => exact settled _ _ _ _ _ _
    | queued => exact .of_libraries rfl rfl
    | holding => exact settled _ _ _ _ _ _
  | receive filled => exact settle_keepsListings _ _ _ _ _
  | takeOver empty held => exact settled _ _ _ _ _ _

end Update

theorem Keying.Turn.keepsListings {base : Option String} {keying : Keying}
    {outcome : World × Keying} (turn : Keying.Turn engine base world keying outcome)
    (staffed : world.Staffed everyone) (present : keying.clients engine ⊆ everyone)
    (there : engine < world.libraries.length) : world.KeepsListings outcome.1 := by
  cases turn with
  | look kind => exact .refl world
  | url kind => exact .refl world
  | path kind => exact .refl world
  | lookup turn => exact turn.keepsListings staffed present there
  | listed => exact .refl world
  | unlisted => exact .refl world

theorem Inclusion.Turn.keepsListings {base : Option String} {inclusion : Inclusion}
    {outcome : World × Inclusion} (turn : Inclusion.Turn engine base world inclusion outcome)
    (staffed : world.Staffed everyone) (present : inclusion.clients engine ⊆ everyone)
    (there : engine < world.libraries.length) : world.KeepsListings outcome.1 := by
  cases turn with
  | unresolved => exact .refl world
  | resolved => exact .refl world
  | keying turn => exact turn.keepsListings staffed present there
  | load turn => exact turn.keepsListings
  | loaded => exact .refl world
  | failed => exact .refl world

namespace Task

theorem needIncludes_keepsListings (world : World) (target context : ContextId) (goal : Goal) :
    world.KeepsListings (needIncludes world target context goal).1 := by
  simp only [needIncludes]
  split <;> exact .of_libraries rfl rfl

theorem afterWalk_keepsListings {α : Type} (world : World) (context : ContextId) (goal : Goal)
    (reply : α → Reply) (walked : Store × Store.Result α) :
    world.KeepsListings (afterWalk world context goal reply walked).1 := by
  obtain ⟨store, value | target⟩ := walked
  · exact .of_libraries rfl rfl
  · have changed : world.KeepsListings { world with store } := .of_libraries rfl rfl
    exact changed.trans (needIncludes_keepsListings _ _ _ _)

theorem pursue_keepsListings (world : World) (context : ContextId) (goal : Goal) :
    world.KeepsListings (pursue world context goal).1 := by
  cases goal with
  | context => exact .refl world
  | symbols => exact .of_libraries rfl rfl
  | replace root => exact .of_libraries rfl rfl
  | includes => exact afterWalk_keepsListings _ _ _ _ _
  | suggestions range filter => exact afterWalk_keepsListings _ _ _ _ _
  | arguments name range => exact afterWalk_keepsListings _ _ _ _ _
  | callable name => exact afterWalk_keepsListings _ _ _ _ _

/-- Whatever a task does next, listings that are known stay. -/
theorem Turn.keepsListings {task : Task} {outcome : World × Task}
    (turn : Turn engine world task outcome) (staffed : world.Staffed everyone)
    (present : task.clients engine ⊆ everyone) (there : engine < world.libraries.length) :
    world.KeepsListings outcome.1 := by
  cases turn with
  | updated => exact .refl world
  | update turn => exact turn.keepsListings
  | pursue => exact pursue_keepsListings _ _ _
  | woken known => exact .refl world
  | inclusion turn =>
    refine turn.keepsListings staffed (fun client listed => present ?_) there
    refine Multiset.mem_cons_of_mem (Inclusion.mem_allClients.mpr ⟨_, ?_, listed⟩)
    exact List.mem_append_right _ List.mem_cons_self
  | pass stuck => exact .refl world
  | resolved => exact .of_libraries rfl rfl
  | looked => exact .refl world
  | lookup turn => exact turn.keepsListings staffed present there
  | loaded => exact .refl world
  | failed => exact .refl world
  | load turn => exact turn.keepsListings
  | keyed => exact .refl world
  | keying turn => exact turn.keepsListings staffed present there
  | next => exact .refl world
  | listed => exact .refl world

theorem begin_keepsListings (world : World) (command : Command) :
    world.KeepsListings (begin world command).1 := by
  cases command with
  | document reference goal =>
    simp only [begin, locate]
    split
    · split <;> exact .of_libraries rfl rfl
    · split <;> exact .refl world
    · split <;> exact .of_libraries rfl rfl
    · exact .refl world
  | library goal => exact .refl world
  | load key => exact .refl world
  | resolveKeys base includes => exact .refl world
  | changeDocument url supply => exact .of_libraries rfl rfl
  | changeListing listing => exact .of_libraries rfl rfl

end Task

namespace Traffic

variable {state next : Traffic} {event : Event} {events : List Event}

/-- Whatever happens next, listings that are known stay. -/
theorem Orderly.keepsListings (orderly : state.Orderly) (went : state.step? event = some next) :
    state.world.KeepsListings next.world := by
  obtain ⟨owners, ordered⟩ := orderly
  cases event with
  | ask engine command =>
    obtain ⟨-, rfl⟩ := step?_ask_eq_some_iff.mp went
    exact Task.begin_keepsListings _ _
  | proceed index =>
    obtain ⟨engine, task, present, outcome, moved, rfl⟩ := step?_proceed_eq_some_iff.mp went
    have listed := List.mem_of_getElem? present
    refine (Task.step_turn moved).keepsListings ordered.world.staffed (fun client here => ?_)
      (ordered.engines _ listed)
    exact mem_clients.mpr ⟨_, listed, here⟩
  | resume index =>
    obtain ⟨engine, task, present, rfl⟩ := step?_resume_eq_some_iff.mp went
    exact .refl _
  | wait moment =>
    cases went
    exact .of_libraries rfl rfl
  | number =>
    cases went
    exact .of_libraries rfl rfl
  | change source =>
    cases went
    exact .of_libraries rfl rfl

/-- Through a whole run listings that are known stay. -/
theorem Orderly.run_keepsListings (orderly : state.Orderly)
    (ran : state.run? events = some next) : state.world.KeepsListings next.world := by
  let Invariant (now : Traffic) : Prop := now.Orderly ∧ state.world.KeepsListings now.world
  have kept {now later : Traffic} {event : Event} (invariant : Invariant now)
      (went : now.step? event = some later) : Invariant later :=
    ⟨(invariant.1.step went).1, invariant.2.trans (invariant.1.keepsListings went)⟩
  exact (run?_invariant kept ⟨orderly, .refl _⟩ ran).2

end Traffic

/-! ## What a task holds on to -/

/-- A property of the tasks of an engine that lasts as long as listings that are known stay. -/
structure Task.Abides (engine : Nat) (Holds : World → Task → Prop) : Prop where
  keeps : ∀ {world after : World} {task : Task}, world.KeepsListings after →
    Holds world task → Holds after task
  turns : ∀ {world : World} {task : Task} {outcome : World × Task},
    engine < world.libraries.length → Turn engine world task outcome →
    world.KeepsListings outcome.1 → Holds world task → Holds outcome.1 outcome.2
  resumes : ∀ {world : World} {task : Task}, Holds world task → Holds world task.resume

namespace Traffic

variable {state after : Traffic} {events : List Event} {index : Nat} {task : Task}
  {Holds : World → Task → Prop}

/-- An engine with a task has the property of the task through every run. -/
theorem run?_abides (abides : Task.Abides engine Holds) (orderly : state.Orderly)
    (present : state.tasks[index]? = some (engine, task)) (holds : Holds state.world task)
    (ran : state.run? events = some after) :
    ∃ task', after.tasks[index]? = some (engine, task') ∧ Holds after.world task' := by
  let Invariant (now : Traffic) : Prop := now.Orderly ∧
    ∃ task', now.tasks[index]? = some (engine, task') ∧ Holds now.world task'
  have kept {now next : Traffic} {event : Event} (invariant : Invariant now)
      (went : now.step? event = some next) : Invariant next := by
    obtain ⟨orderly, task', present, holds⟩ := invariant
    refine ⟨(orderly.step went).1, ?_⟩
    have keeps := orderly.keepsListings went
    obtain ⟨owners, ordered⟩ := orderly
    have there := ordered.engines _ (List.mem_of_getElem? present)
    rcases step?_task went present with same | ⟨outcome, turn, moved, later⟩ | resumed
    · exact ⟨task', same, abides.keeps keeps holds⟩
    · rw [moved] at keeps ⊢
      exact ⟨outcome.2, later, abides.turns there turn keeps holds⟩
    · exact ⟨task'.resume, resumed, abides.keeps keeps (abides.resumes holds)⟩
  exact (run?_invariant kept ⟨orderly, task, present, holds⟩ ran).2

end Traffic

/-! ## Calls for the library -/

namespace Lookup

/-- A listing that a lookup has returned is that of the engine. -/
def Lists (engine : Nat) (world : World) : Lookup → Prop
  | .returned (.ok entries) => (world.library engine).value = some entries
  | _ => True

variable {lookup : Lookup} {outcome : World × Lookup}

theorem Lists.keep (lists : lookup.Lists engine world) (keeps : world.KeepsListings after) :
    lookup.Lists engine after := by
  cases lookup with
  | returned result =>
    cases result with
    | ok entries => exact keeps.listing lists
    | error error => trivial
  | arriving | queued call | fetching pending => trivial

theorem Turn.lists (turn : Turn engine world lookup outcome)
    (there : engine < world.libraries.length) : outcome.2.Lists engine outcome.1 := by
  cases turn with
  | @arrive cell standing entry =>
    cases entry with
    | @found entries known =>
      have same : (World.setLibrary { world with nextCall := world.nextCall + 1 } engine
          (world.library engine)).library engine = world.library engine :=
        World.Orderly.library_setLibrary_self there
      exact (congrArg Cell.value same).trans known
    | queued empty held => trivial
    | holding empty free => trivial
  | receive known => exact known
  | takeOver empty held => trivial
  | deliver ended good => exact congrArg Cell.value (World.Orderly.library_setLibrary_self there)
  | fail ended bad => trivial

end Lookup

namespace Task

/-- A task is about the library, and whatever it has come to is what the listing says. -/
def Browses (engine : Nat) (goal : LibraryGoal) (world : World) : Task → Prop
  | .looking lookup wanted => wanted = goal ∧ lookup.Lists engine world
  | .finished reply => ∃ result, reply = libraryReply world.config goal result ∧
      (Lookup.returned result).Lists engine world
  | _ => False

theorem abides_browses (goal : LibraryGoal) : Abides engine (Browses engine goal) where
  keeps {world after task} keeps browses := by
    cases task with
    | looking lookup wanted => exact ⟨browses.1, browses.2.keep keeps⟩
    | finished reply =>
      obtain ⟨result, replied, lists⟩ := browses
      exact ⟨result, keeps.config ▸ replied, lists.keep keeps⟩
    | updating | walking | awaiting | resolving | loading | keying => exact browses.elim
  turns there turn keeps browses := by
    cases turn with
    | looked =>
      obtain ⟨rfl, lists⟩ := browses
      exact ⟨_, rfl, lists⟩
    | lookup turn => exact ⟨browses.1, turn.lists there⟩
    | updated | update | pursue | woken | inclusion | pass | resolved | loaded | failed | load
    | keyed | keying | next | listed => exact browses.elim
  resumes {world task} browses := by
    cases task <;> exact browses

end Task

namespace Traffic

variable {state after : Traffic} {events : List Event}

/-- A task that is asked for is the next one. -/
theorem run?_ask_eq_some {command : Command}
    (ran : state.run? (.ask engine command :: events) = some after) (orderly : state.Orderly) :
    ∃ next : Traffic, next.Orderly ∧ state.world.KeepsListings next.world ∧
      next.tasks[state.tasks.length]? = some (engine, (Task.begin state.world command).2) ∧
      next.run? events = some after := by
  obtain ⟨next, went, ran⟩ := run?_cons_eq_some_iff.mp ran
  refine ⟨next, (orderly.step went).1, orderly.keepsListings went, ?_, ran⟩
  obtain ⟨-, rfl⟩ := step?_ask_eq_some_iff.mp went
  exact List.getElem?_concat_length

/-- What is answered about the library is said by the listing, which is known from then on. -/
theorem listing_of_library {goal : LibraryGoal} {reply : Reply} (orderly : state.Orderly)
    (ran : state.run? (.ask engine (.library goal) :: events) = some after)
    (answered : after.reply? state.tasks.length = some reply) :
    ∃ result, reply = Task.libraryReply after.world.config goal result ∧
      ∀ entries, result = .ok entries → (after.world.library engine).value = some entries := by
  obtain ⟨next, orderly', -, present, ran⟩ := run?_ask_eq_some ran orderly
  have begun : (Task.looking .arriving goal).Browses engine goal next.world := ⟨rfl, trivial⟩
  obtain ⟨task, present', browses⟩ :=
    run?_abides (Task.abides_browses goal) orderly' present begun ran
  obtain ⟨engine', finished⟩ := reply?_eq_some_iff.mp answered
  cases present'.symm.trans finished
  obtain ⟨result, replied, lists⟩ := browses
  refine ⟨result, replied, ?_⟩
  rintro entries rfl
  exact lists

end Traffic

end DiagramAssist
