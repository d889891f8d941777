import DiagramAssist.Proofs.Engine.Origin

/-! # Everything stored has an origin

Documents come in by two ways, as content that is given for a key and by a fetch under a key, and
trees move from one document to another. Whatever the engines do, in any order and however much of
it fails, a document that is stored under a key shows a text that came in for this key; and a list
of includes that is known was resolved from the includes of its document, in their order, at the
keys to which they led at the time (`Traffic.provenance_of_run`).
-/

namespace DiagramAssist

variable {past later : Past} {owners : List String} {others : Attendance}
  {world after : World} {engine : Nat} {target context : ContextId} {goal : Goal}

/-- If the goal is to replace the tree of a document with a key, then by one that is explained. -/
def Goal.Explained (past : Past) (key? : Option String) (goal : Goal) : Prop :=
  ∀ root key, goal = .replace root → key? = some key → past.Explains key root

theorem Goal.Explained.mono {key? : Option String} (explained : goal.Explained past key?)
    (more : past.Extends later) : goal.Explained later key? :=
  fun root key replaces keyed => more.explains (explained root key replaces keyed)

namespace Task

/-- What a task owes to the past: the tree by which it replaces another one, the includes that it
resolves, and what it loads. -/
def Traced (past : Past) (engine : Nat) (world : World) : Task → Prop
  | .updating update goal => goal.Explained past (update.documentKey? world)
  | .walking context goal => goal.Explained past (world.store.context context).key
  | .awaiting _ _ context goal => goal.Explained past (world.store.context context).key
  | .resolving target passed rest context goal =>
    goal.Explained past (world.store.context context).key ∧
      ∃ table, (world.store.context target).symbols = some table ∧
        List.Forall₂ (fun content inclusion => inclusion.Traced past engine target world content)
          table.includes (passed ++ rest)
  | .loading load => ∃ key, load.Traced past world key
  | _ => True

variable {task : Task}

theorem Traced.mono (traced : task.Traced past engine world) (sound : task.Sound owners world)
    (more : past.Extends later) (grows : world.store.Grows after.store) :
    task.Traced later engine after := by
  have walks {context : ContextId} {goal : Goal} (there : context < world.store.length)
      (explained : goal.Explained past (world.store.context context).key) :
      goal.Explained later (after.store.context context).key := by
    rw [(grows.context there).key]
    exact explained.mono more
  cases task with
  | updating update goal =>
    have explained : goal.Explained later (update.documentKey? world) := traced.mono more
    rwa [← Update.documentKey?_mono sound grows] at explained
  | walking context goal => exact walks sound traced
  | awaiting call target context goal => exact walks sound.1 traced
  | resolving target passed rest context goal =>
    obtain ⟨explained, table, extracted, traced⟩ := traced
    exact ⟨walks sound.1 explained, table, grows.symbols extracted,
      traced.imp fun _ _ traced => traced.mono more grows⟩
  | loading load =>
    obtain ⟨key, traced⟩ := traced
    exact ⟨key, traced.mono more grows⟩
  | looking lookup goal => trivial
  | keying base settled current rest => trivial
  | finished reply => trivial

theorem traced_resume (traced : task.Traced past engine world) :
    task.resume.Traced past engine world := by
  cases task <;> exact traced

/-! ## Walks -/

section Reading

variable {α : Type} (read : Context → α)
  (extracted : ∀ context, read context.extracted = read context)
  (linked : ∀ context includes, read { context with includes } = read context)
include extracted linked

theorem read_needIncludes (world : World) (target context : ContextId) (goal : Goal)
    (id : ContextId) :
    read ((needIncludes world target context goal).1.store.context id) =
      read (world.store.context id) := by
  simp only [needIncludes]
  split
  · exact (Store.read_update read (fun _ => linked _ _) _ _ _).trans
      (Store.read_update read extracted _ _ _)
  · rfl

theorem read_afterWalk {β : Type} (reply : β → Reply) (walked : Store × Store.Result β)
    (id : ContextId) :
    read ((afterWalk world context goal reply walked).1.store.context id) =
      read (walked.1.context id) := by
  obtain ⟨store, value | target⟩ := walked
  · rfl
  · exact read_needIncludes read extracted linked ..

/-- Whatever of a document neither depends on its symbols nor on its includes is kept by walks. -/
theorem read_pursue (world : World) (context : ContextId) (keeps : ∀ root, goal ≠ .replace root)
    (id : ContextId) :
    read ((pursue world context goal).1.store.context id) = read (world.store.context id) := by
  have walked (entered : List ContextId) : read ((world.store.extractAll entered).context id) =
      read (world.store.context id) := Store.read_extractAll read extracted _ _ _
  cases goal with
  | context => rfl
  | symbols => exact Store.read_update read extracted _ _ _
  | replace root => exact (keeps root rfl).elim
  | includes => exact read_afterWalk read extracted linked ..
  | suggestions range filter =>
    refine (read_afterWalk read extracted linked ..).trans ?_
    simp only [Store.suggestions]
    split <;> exact walked _
  | arguments name range =>
    refine (read_afterWalk read extracted linked ..).trans ?_
    simp only [Store.findCallable]
    split <;> exact walked _
  | callable name =>
    refine (read_afterWalk read extracted linked ..).trans ?_
    simp only [Store.findCallable]
    split <;> exact walked _

end Reading

/-- A task that needs includes does not know them yet. -/
theorem value_needIncludes (world : World) (there : target < world.store.length)
    (unknown : (world.store.context target).includes.value = none) (id : ContextId) :
    ((needIncludes world target context goal).1.store.context id).includes.value =
      (world.store.context id).includes.value := by
  obtain ⟨-, needed⟩ | ⟨-, needed⟩ := needIncludes_cases world unknown context goal
  · rw [needed]
  · rw [needed]
    have extracted := world.store.sameLinks_extract target
    by_cases here : id = target
    · subst here
      rw [Store.context_update_self (extracted.length.symm ▸ there)]
    · rw [Store.context_update_of_ne here, extracted.includes]

/-- A task that needs includes begins to resolve them as the symbols of the document have them. -/
theorem needIncludes_traced (engine : Nat) (world : World) (there : target < world.store.length)
    (unknown : (world.store.context target).includes.value = none)
    (explained : goal.Explained past (world.store.context context).key) :
    (needIncludes world target context goal).2.Traced past engine
      (needIncludes world target context goal).1 := by
  have key := read_needIncludes Context.key (fun _ => rfl) (fun _ _ => rfl) world target context
    goal context
  rw [← key] at explained
  obtain ⟨-, needed⟩ | ⟨-, needed⟩ := needIncludes_cases world unknown context goal
  · rw [needed] at explained ⊢
    exact explained
  · rw [needed] at explained ⊢
    have extracted := world.store.sameLinks_extract target
    refine ⟨explained, (world.store.context target).table, ?_, ?_⟩
    · rw [Store.context_update_self (extracted.length.symm ▸ there), Store.extract,
        Store.context_update_self there]
      rfl
    · rw [List.nil_append, inclusions, List.forall₂_map_right_iff, List.forall₂_same]
      exact fun _ _ => rfl

/-- Pursuing a goal keeps everything explained. -/
theorem pursue_traced (engine : Nat) (explained : world.store.Explained past)
    (orderly : world.Orderly owners others) (there : context < world.store.length)
    (mine : goal.Explained past (world.store.context context).key) :
    (pursue world context goal).1.store.Explained past ∧
      (pursue world context goal).2.Traced past engine (pursue world context goal).1 := by
  by_cases replaces : ∃ root, goal = .replace root
  · obtain ⟨root, rfl⟩ := replaces
    exact ⟨explained.replace orderly.linked (mine root _ rfl), trivial⟩
  · have keeps (root : Root) : goal ≠ .replace root := fun same => replaces ⟨root, same⟩
    have keys := read_pursue Context.key (fun _ => rfl) (fun _ _ => rfl) world context keeps
    have roots := read_pursue Context.root (fun _ => rfl) (fun _ _ => rfl) world context keeps
    have grows := (pursue_leads engine orderly there goal).1.onward.store
    obtain ⟨store, same, ⟨reply, answered⟩ | ⟨target, known, unknown, needed⟩⟩ :=
      pursue_cases orderly.linked there goal
    · rw [answered] at keys roots grows ⊢
      exact ⟨explained.keep orderly.linked grows keys roots fun id => by rw [same.includes],
        trivial⟩
    · have key : (store.context context).key = (world.store.context context).key :=
        (same.context context).key
      rw [← key] at mine
      rw [needed] at keys roots grows ⊢
      refine ⟨explained.keep orderly.linked grows keys roots fun id => ?_,
        needIncludes_traced engine { world with store } known unknown mine⟩
      rw [value_needIncludes { world with store } known unknown, same.includes]

/-- When all includes of a document are settled, the documents found are their list. -/
theorem lists_of_settled {table : SymbolTable} {found : List (Option ContextId)}
    (extracted : (world.store.context target).symbols = some table)
    (traced : List.Forall₂ (fun content inclusion =>
      Inclusion.Traced past engine target world content inclusion)
      table.includes (found.map .settled)) :
    past.Lists world.store target found.reduceOption := by
  rw [List.forall₂_map_right_iff] at traced
  suffices ∃ (keys : List (Option String)) (listed : List String),
      List.Forall₂ (past.Gave engine target) table.includes keys ∧
      (found.reduceOption.map fun id => (world.store.context id).key) = listed.map some ∧
        listed.Sublist keys.reduceOption by
    obtain ⟨keys, listed, gave, keyed, among⟩ := this
    exact ⟨table, engine, keys, listed, extracted, gave, keyed, among⟩
  clear extracted
  generalize table.includes = contents at traced
  induction traced with
  | nil => exact ⟨[], [], .nil, rfl, .slnil⟩
  | @cons content context contents found here others ih =>
    obtain ⟨keys, listed, gave, keyed, among⟩ := ih
    obtain ⟨key?, given, found⟩ := here
    cases context with
    | none =>
      refine ⟨key? :: keys, listed, .cons given gave, keyed, ?_⟩
      cases key? with
      | none => exact among
      | some key => exact among.cons key
    | some id =>
      obtain ⟨own, present⟩ := found id rfl
      obtain ⟨key, rfl⟩ := Option.ne_none_iff_exists'.mp present
      refine ⟨some key :: keys, key :: listed, .cons given gave, ?_, among.cons_cons key⟩
      rw [List.reduceOption_cons_of_some, List.map_cons, own, keyed, List.map_cons]

/-- A task that resolves the includes of a document does so while they are being resolved. -/
theorem resolves_of_orderly (orderly : world.Orderly owners others) (target : ContextId)
    (working : (.includes target, .working) ∈ others) : world.Resolves target := by
  have empty := Cell.value_shape_eq_none.mp (orderly.staffed.empty_of_working working)
  refine ⟨empty, ?_⟩
  have taken := (orderly.staffed (.includes target)).taken (mem_clientsAt.mpr working)
  exact taken.resolve_left fun filled => filled (Cell.value_shape_eq_none.mpr empty)

/-- Whatever a task does next keeps everything explained. -/
theorem Turn.traced {task : Task} {outcome : World × Task}
    (turn : Turn engine world task outcome) (step : past.Step later world outcome.1)
    (orderly : world.Orderly owners (task.clients engine + others))
    (known : engine < world.libraries.length) (sound : task.Sound owners world)
    (explained : world.store.Explained past) (traced : task.Traced past engine world) :
    outcome.1.store.Explained later ∧ outcome.2.Traced later engine outcome.1 := by
  obtain ⟨owners', leads, -⟩ := turn.leads orderly known sound
  have grows := leads.onward.store
  have same := explained.mono step.toExtends orderly.linked
  have still := traced.mono sound step.toExtends grows
  cases turn with
  | updated => exact ⟨same, still⟩
  | update turn =>
    obtain ⟨explained, key⟩ := turn.explained orderly sound same
    refine ⟨explained, ?_⟩
    rw [Traced, key]
    exact Goal.Explained.mono traced step.toExtends
  | pursue =>
    exact pursue_traced engine same orderly sound (Goal.Explained.mono traced step.toExtends)
  | woken filled => exact ⟨same, still⟩
  | @inclusion target context passed rest inclusion outcome goal turn =>
    obtain ⟨-, -, sound⟩ := sound
    obtain ⟨explains, -⟩ := still
    obtain ⟨-, table, extracted, traced⟩ := traced
    have resolves := resolves_of_orderly orderly target (by simp [clients])
    obtain ⟨content, here, replaced⟩ := Traffic.exists_forall₂_replace traced
    obtain ⟨explained, here⟩ := turn.traced step orderly known (sound inclusion (by simp))
      resolves explained here
    exact ⟨explained, explains, table, grows.symbols extracted,
      replaced (fun _ _ traced => traced.mono step.toExtends grows) here⟩
  | @pass target context passed rest inclusion goal stuck =>
    obtain ⟨explains, table, extracted, traced⟩ := still
    exact ⟨same, explains, table, extracted, List.append_cons passed inclusion rest ▸ traced⟩
  | @resolved target context found goal =>
    obtain ⟨unknown, -⟩ := resolves_of_orderly orderly target (by simp [clients])
    obtain ⟨-, table, extracted, traced⟩ := traced
    rw [List.append_nil] at traced
    have listed := lists_of_settled extracted
      (traced.imp fun _ _ traced => traced.mono step.toExtends (.refl world.store))
    exact ⟨same.resolve orderly.linked sound.2.1 unknown listed, still.1⟩
  | looked => exact ⟨same, trivial⟩
  | lookup turn =>
    refine ⟨?_, trivial⟩
    rwa [turn.store_eq]
  | loaded => exact ⟨same, trivial⟩
  | failed => exact ⟨same, trivial⟩
  | load turn =>
    obtain ⟨key, traced⟩ := traced
    obtain ⟨explained, traced⟩ := turn.traced step orderly sound explained traced
    exact ⟨explained, key, traced⟩
  | keyed => exact ⟨same, trivial⟩
  | keying turn =>
    refine ⟨?_, trivial⟩
    rwa [turn.store_eq]
  | next => exact ⟨same, trivial⟩
  | listed => exact ⟨same, trivial⟩

end Task

/-! ## Commands -/

/-- A command gives a text for a key: as the content of a document, or as what a tree that replaces
another one was parsed from. -/
inductive Command.Supplies : Command → (key text : String) → Prop where
  | content {key text : String} {goal : Goal} :
      Supplies (.document ⟨some key, some text⟩ goal) key text
  | tree {key text : String} {content? : Option String} {root : Root}
      (parsed : parse text = .ok root) :
      Supplies (.document ⟨some key, content?⟩ (.replace root)) key text

/-- The tree of a command has been parsed from a text. Only a command that replaces a tree has one;
all others bring texts at most. -/
def Command.IsParsed : Command → Prop
  | .document _ (.replace root) => ∃ text, parse text = .ok root
  | _ => True

namespace Task

theorem parse_of_parseContent {content : String} {root : Root}
    (parsed : parseContent content = .ok root) : parse content = .ok root := by
  simp only [parseContent] at parsed
  split at parsed
  · next found =>
    cases parsed
    exact found
  · cases parsed

/-- A goal of a command is explained for the key of its document. -/
theorem goal_explained {key : String} {content? : Option String}
    (parsed : (Command.document ⟨some key, content?⟩ goal).IsParsed)
    (supplied : ∀ key' text, (Command.document ⟨some key, content?⟩ goal).Supplies key' text →
      past.texts key' text) : goal.Explained past (some key) := by
  rintro root key' rfl same
  cases same
  obtain ⟨text, parsed⟩ := parsed
  exact ⟨text, supplied key text (.tree parsed), parsed⟩

/-- What a command begins is explained by the texts that the command gives. -/
theorem begin_traced (engine : Nat) {command : Command} (parsed : command.IsParsed)
    (supplied : ∀ key text, command.Supplies key text → past.texts key text)
    (orderly : world.Orderly owners others) (explained : world.store.Explained past) :
    (begin world command).1.store.Explained past ∧
      (begin world command).2.Traced past engine (begin world command).1 := by
  cases command with
  | document reference goal =>
    obtain ⟨key | key, content | content⟩ := reference
    · exact ⟨explained, trivial⟩
    · simp only [begin, locate]
      split
      · exact ⟨explained, trivial⟩
      · next root found =>
        refine ⟨explained.add orderly.linked none root (by simp), fun other key _ keyed => ?_⟩
        have unkeyed : ((world.store.add (.fresh none root)).1.context world.store.length).key =
            none := congrArg Context.key (Store.context_add_self ..)
        cases unkeyed.symm.trans keyed
    · simp only [begin, locate]
      split
      · next id stored =>
        refine ⟨explained, ?_⟩
        rw [Traced, orderly.key_of_get? stored]
        exact goal_explained parsed supplied
      · exact ⟨explained, trivial⟩
    · simp only [begin, locate]
      split
      · exact ⟨explained, trivial⟩
      · next root found =>
        refine ⟨explained.add orderly.linked (some key) root fun same => ?_,
          goal_explained parsed supplied⟩
        cases same
        exact ⟨content, supplied key content .content, parse_of_parseContent found⟩
  | library goal => exact ⟨explained, trivial⟩
  | load key => exact ⟨explained, key, rfl⟩
  | resolveKeys base includes => exact ⟨explained, trivial⟩
  | changeDocument url supply => exact ⟨explained, trivial⟩
  | changeListing listing => exact ⟨explained, trivial⟩

end Task

/-! ## Runs -/

/-- A fetch is begun that is going to bring a text for a key. -/
def World.Fetches (world after : World) (key text : String) : Prop :=
  after.log = key :: world.log ∧ after.attempts = world.attempts ∧
    ∃ payload, (world.fetchDocument key).2.outcome = .ok payload ∧ payload.decode key = .ok text

namespace Traffic

/-- What has happened in a run: the texts that were given by commands or fetched, and the worlds
that the run has passed through. -/
def history (start : Traffic) (events : List Event) : Past where
  texts key text := (∃ command ∈ asked events, command.Supplies key text) ∨
    ∃ earlier event later before after, events = earlier ++ event :: later ∧
      start.run? earlier = some before ∧ before.step? event = some after ∧
      before.world.Fetches after.world key text
  passed world := ∃ earlier later state, events = earlier ++ later ∧
    start.run? earlier = some state ∧ state.world = world

/-- Everything in a state is explained by the past. -/
structure Traced (past : Past) (state : Traffic) : Prop where
  documents : state.world.store.Explained past
  tasks : ∀ entry ∈ state.tasks, entry.2.Traced past entry.1 state.world

variable {config : Config} {source : Source} {engines : Nat} {start state next : Traffic}
  {event : Event} {events : List Event}

theorem traced_initial (past : Past) : (initial config source engines).Traced past where
  documents := .empty past
  tasks _ listed := (List.not_mem_nil listed).elim

/-- One more step of a run. -/
theorem past_step (orderly : start.Orderly) (ran : start.run? events = some state)
    (went : state.step? event = some next) :
    Past.Step (start.history events) (start.history (events ++ [event])) state.world
      next.world where
  texts known := by
    rcases known with ⟨command, listed, supplies⟩ |
      ⟨earlier, fetch, later, before, after, rfl, begun⟩
    · rw [history, asked_append]
      exact .inl ⟨command, List.mem_append_left _ listed, supplies⟩
    · exact .inr ⟨earlier, fetch, later ++ [event], before, after, by simp, begun⟩
  passed := by
    rintro world ⟨earlier, later, reached, rfl, passed⟩
    exact ⟨earlier, later ++ [event], reached, by simp, passed⟩
  config := by
    rintro moment ⟨earlier, later, reached, split, passed, rfl⟩
    rw [(orderly.run passed).2.config, (orderly.run ran).2.config]
  before := ⟨events, [event], state, rfl, ran, rfl⟩
  behind := by
    refine ⟨events ++ [event], [], next, by simp, ?_, rfl⟩
    exact run?_append_eq_some_iff.mpr ⟨state, ran, run?_cons_eq_some_iff.mpr ⟨next, went, rfl⟩⟩
  begun {key text payload} log attempts brought decoded :=
    .inr ⟨events, event, [], state, next, rfl, ran, went, log, attempts, payload, brought, decoded⟩

/-- Whatever happens next, everything stays explained. -/
theorem Traced.step {past later : Past} (traced : state.Traced past) (orderly : state.Orderly)
    (step : past.Step later state.world next.world)
    (asks : ∀ engine command, event = .ask engine command → command.IsParsed ∧
      ∀ key text, command.Supplies key text → later.texts key text)
    (went : state.step? event = some next) : next.Traced later := by
  have grows := (orderly.step went).2.store
  obtain ⟨owners, ordered⟩ := orderly
  have documents := traced.documents.mono step.toExtends ordered.world.linked
  have kept : ∀ entry ∈ state.tasks, entry.2.Traced later entry.1 next.world :=
    fun entry listed => (traced.tasks entry listed).mono (ordered.sound entry listed)
      step.toExtends grows
  cases event with
  | ask engine command =>
    obtain ⟨-, rfl⟩ := step?_ask_eq_some_iff.mp went
    obtain ⟨parsed, supplied⟩ := asks engine command rfl
    obtain ⟨documents, begun⟩ := Task.begin_traced engine parsed supplied ordered.world
      documents
    refine ⟨documents, fun entry listed => ?_⟩
    rcases List.mem_append.mp listed with before | here
    · exact kept entry before
    · rw [List.mem_singleton.mp here]
      exact begun
  | proceed index =>
    obtain ⟨engine, task, present, outcome, moved, rfl⟩ := step?_proceed_eq_some_iff.mp went
    have listed := List.mem_of_getElem? present
    obtain ⟨others, whole, -⟩ := exists_others present
    obtain ⟨documents, goes⟩ := (Task.step_turn moved).traced step (whole ▸ ordered.world)
      (ordered.engines _ listed) (ordered.sound _ listed) traced.documents (traced.tasks _ listed)
    refine ⟨documents, fun entry member => ?_⟩
    rcases List.mem_or_eq_of_mem_set member with before | rfl
    · exact kept entry before
    · exact goes
  | resume index =>
    obtain ⟨engine, task, present, rfl⟩ := step?_resume_eq_some_iff.mp went
    refine ⟨documents, fun entry member => ?_⟩
    rcases List.mem_or_eq_of_mem_set member with before | rfl
    · exact kept entry before
    · exact Task.traced_resume (kept _ (List.mem_of_getElem? present))
  | wait moment =>
    cases went
    exact ⟨documents, kept⟩
  | number =>
    cases went
    exact ⟨documents, kept⟩
  | change source =>
    cases went
    exact ⟨documents, kept⟩

/-- Through a whole run everything is explained by what has happened. -/
theorem traced_of_run (parsed : ∀ command ∈ asked events, command.IsParsed)
    (ran : (initial config source engines).run? events = some state) :
    state.Traced ((initial config source engines).history events) := by
  have orderly := orderly_initial config source engines
  induction events using List.reverseRecOn generalizing state with
  | nil =>
    cases ran
    exact traced_initial _
  | append_singleton events event ih =>
    rw [asked_append] at parsed
    obtain ⟨before, ran, went⟩ := run?_append_eq_some_iff.mp ran
    obtain ⟨next, went, same⟩ := run?_cons_eq_some_iff.mp went
    cases same
    have traced := ih (fun command listed => parsed command (List.mem_append_left _ listed)) ran
    refine traced.step (orderly.run ran).1 (past_step orderly ran went) ?_ went
    rintro engine command rfl
    refine ⟨parsed command (by simp [asked]), fun key text supplies => ?_⟩
    exact .inl ⟨command, by simp [asked], supplies⟩

/-- Whatever the engines have been asked and whatever the source has brought, a document that is
stored under a key has this key, and its tree is that of a text that was given for the key by a
command or fetched and decoded for it; and a list of includes that is known was resolved from the
includes of the symbols of its document: it has the keys to which these led while the list was being
resolved, in their order, without those that were left out. -/
theorem provenance_of_run (parsed : ∀ command ∈ asked events, command.IsParsed)
    (ran : (initial config source engines).run? events = some state) :
    (∀ key id, state.world.registry.get? key = some id →
      (state.world.store.context id).key = some key ∧
        ((initial config source engines).history events).Explains key
          (state.world.store.context id).root) ∧
    ∀ id ids, (state.world.store.context id).includes.value = some ids →
      ((initial config source engines).history events).Lists state.world.store id ids := by
  have traced := traced_of_run parsed ran
  obtain ⟨owners, ordered⟩ := ((orderly_initial config source engines).run ran).1
  refine ⟨fun key id stored => ?_, fun id ids known => traced.documents.lists known⟩
  have keyed := ordered.world.key_of_get? stored
  exact ⟨keyed, traced.documents.roots keyed⟩

def oneSource : Source :=
  Source.none.withDocument "mem:b" ⟨0, .ok ⟨"!$b = 1\n", .utf8⟩⟩

/-- The includes of a document are wanted that includes one that there is not, and that document. -/
def asksIncludes : List Event :=
  .ask 0 (.document ⟨some "mem:a", some "!includeurl mem:gone\n!includeurl mem:b\n"⟩ .includes) ::
    List.replicate 17 (.proceed 0)

theorem provenance_of_run_with_missing_include :
    ∃ state, (initial .standard oneSource 1).run? asksIncludes = some state ∧
      (state.world.store.context 1).key = some "mem:b" ∧
      ((initial .standard oneSource 1).history asksIncludes).Explains "mem:b"
        (state.world.store.context 1).root ∧
      ((initial .standard oneSource 1).history asksIncludes).Lists state.world.store 0 [1] := by
  have shown : ((initial .standard oneSource 1).run? asksIncludes).map (fun state =>
      (state.world.registry.get? "mem:b", (state.world.store.context 0).includes.value)) =
        some (some 1, some [1]) := by
    decide +kernel
  obtain ⟨state, ran, found⟩ := Option.map_eq_some_iff.mp shown
  obtain ⟨stored, known⟩ := Prod.mk.inj found
  have parsed : ∀ command ∈ asked asksIncludes, command.IsParsed := by
    simp [asked, asksIncludes, List.replicate, Command.IsParsed]
  obtain ⟨documents, lists⟩ := provenance_of_run parsed ran
  obtain ⟨keyed, explained⟩ := documents "mem:b" 1 stored
  exact ⟨state, ran, keyed, explained, lists 0 [1] known⟩

end Traffic

end DiagramAssist
