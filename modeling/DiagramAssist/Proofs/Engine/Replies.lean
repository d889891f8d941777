import DiagramAssist.Proofs.Engine.Faithful

/-! # Queries about buffers are answered as provided

While engines carry out nothing but queries about buffers that are not stored, and the source
provides the same, every state is faithful to what is provided, and every query that has been
answered has been answered as its trail on the chart of the source says (`Traffic.Faithful.run`).
This holds for any interleaving, and however the delays change. It also holds of queries about one
document with a key, once the document is stored (`Inquiry`).
-/

namespace DiagramAssist

/-- A query about a document with some content, which is stored under a key or not stored. -/
structure Inquiry where
  key? : Option String
  content : String
  query : Query

namespace Inquiry

/-- What an engine is asked. -/
def command (wanted : Inquiry) : Command :=
  .document ⟨wanted.key?, some wanted.content⟩ wanted.query.goal

theorem command_injective : Function.Injective command := by
  rintro ⟨key?, content, query⟩ ⟨key?', content', query'⟩ same
  simp only [command, Command.document.injEq, DocumentRef.mk.injEq, Option.some.injEq] at same
  obtain ⟨⟨rfl, rfl⟩, same⟩ := same
  congr
  cases query <;> cases query' <;> cases same <;> rfl

/-- What a query is to be answered with. -/
def Expects (provision : Provision) (wanted : Inquiry) (reply : Reply) : Prop :=
  match Task.parseContent wanted.content with
  | .ok root => provision.Answers wanted.query (Context.fresh wanted.key? root).page reply
  | .error error => reply = .failed error

theorem Expects.unique {provision : Provision} {wanted : Inquiry} {reply reply' : Reply}
    (expected : wanted.Expects provision reply) (expected' : wanted.Expects provision reply') :
    reply = reply' := by
  unfold Expects at expected expected'
  cases parsed : Task.parseContent wanted.content with
  | ok root =>
    rw [parsed] at expected expected'
    exact expected.unique expected'
  | error error =>
    rw [parsed] at expected expected'
    exact expected.trans expected'.symm

/-- A document shows the content of a query. -/
def Shows (wanted : Inquiry) (store : Store) (context : ContextId) : Prop :=
  context < store.length ∧ ∃ root, Task.parseContent wanted.content = .ok root ∧
    store.page context = (Context.fresh wanted.key? root).page

end Inquiry

/-- A query about a buffer that is not stored under any key. -/
structure BufferQuery where
  content : String
  query : Query

namespace BufferQuery

/-- What an engine is asked. -/
def command (wanted : BufferQuery) : Command :=
  .document ⟨none, some wanted.content⟩ wanted.query.goal

/-- The query about a document that is not stored. -/
def inquiry (wanted : BufferQuery) : Inquiry :=
  ⟨none, wanted.content, wanted.query⟩

end BufferQuery

variable {provision : Provision} {own : Option String} {owners : List String}
  {clients : Attendance} {world after : World} {engine : Nat} {wanted : Inquiry}

namespace Inquiry

theorem Shows.mono {store later : Store} {context : ContextId} (shows : wanted.Shows store context)
    (pages : store.KeepsPages later) : wanted.Shows later context := by
  obtain ⟨there, root, parsed, page⟩ := shows
  exact ⟨Nat.lt_of_lt_of_le there pages.length, root, parsed, (pages.page there).trans page⟩

/-- What is to be answered about the document of a query. -/
theorem Shows.expects {store : Store} {context : ContextId} {reply : Reply}
    (shows : wanted.Shows store context) :
    wanted.Expects provision reply ↔
      provision.Answers wanted.query (store.page context) reply := by
  obtain ⟨-, root, parsed, page⟩ := shows
  rw [Expects, parsed, page]

end Inquiry

/-! ## Tasks -/

/-- The pages of the documents known so far make up a part of the chart of what is provided. -/
theorem World.Faithful.copies (faithful : world.Faithful provision own)
    (linked : world.store.Linked) :
    Chart.Copies (· < world.store.length) world.store.page world.store.chart provision.chart where
  key _ := rfl
  links _ known := congrArg some (faithful.links known).symm
  closed _ known next listed := Store.lt_length_of_key (linked known next listed)

namespace Inclusion

/-- The includes of a page are being resolved, each by what is listed at its place. -/
def AllHonest (provision : Provision) (own : Option String) (world : World) (page : Page)
    (inclusions : List Inclusion) : Prop :=
  List.Forall₂ (fun content inclusion => inclusion.Honest provision own page.key world content)
    page.table.includes inclusions

variable {page : Page} {inclusions passed rest : List Inclusion}

theorem AllHonest.mono (honest : AllHonest provision own world page inclusions)
    (pages : world.store.KeepsPages after.store) : AllHonest provision own after page inclusions :=
  honest.imp fun _ _ honest => honest.mono pages

theorem allHonest_inclusions (page : Page) :
    AllHonest provision own world page (Task.inclusions page.table) := by
  rw [AllHonest, Task.inclusions, List.forall₂_map_right_iff, List.forall₂_same]
  exact fun _ _ => rfl

/-- One include goes on; the others are only affected by what is added to the store. -/
theorem AllHonest.turn {inclusion : Inclusion} {outcome : World × Inclusion}
    (honest : AllHonest provision own world page (passed ++ inclusion :: rest))
    (turn : Turn engine page.key world inclusion outcome)
    (orderly : world.Orderly owners clients) (faithful : world.Faithful provision own)
    (stores : world.Stores own) (known : engine < world.libraries.length)
    (sound : inclusion.Sound owners world) :
    world.Upholds provision own outcome.1 ∧
      AllHonest provision own outcome.1 page (passed ++ outcome.2 :: rest) := by
  obtain ⟨content, here, replaced⟩ := Traffic.exists_forall₂_replace honest
  obtain ⟨upholds, here⟩ := turn.honest orderly faithful stores known sound here
  exact ⟨upholds, replaced (fun _ _ honest => honest.mono upholds.pages) here⟩

/-- When all includes are settled, the documents found show what the page links to. -/
theorem AllHonest.links {found : List (Option ContextId)}
    (honest : AllHonest provision own world page (found.map .settled)) :
    found.reduceOption.map world.store.page = provision.links page := by
  unfold AllHonest at honest
  rw [Provision.links]
  generalize page.table.includes = contents at honest ⊢
  rw [List.forall₂_map_right_iff] at honest
  induction honest with
  | nil => rfl
  | @cons content context contents found here others ih =>
    have target : provision.target? page.key content = context.map world.store.page := here
    cases context with
    | none =>
      rw [List.reduceOption_cons_of_none, List.filterMap_cons_none target, ih]
    | some id =>
      rw [List.reduceOption_cons_of_some, List.filterMap_cons_some target, List.map_cons, ih]

end Inclusion

namespace Task

/-- A task carries out a query about a buffer: whatever it has resolved is as provided, and so is
its reply. -/
def Honest (provision : Provision) (own : Option String) (wanted : Inquiry) (world : World) :
    Task → Prop
  | .walking context goal => goal = wanted.query.goal ∧ wanted.Shows world.store context
  | .awaiting _ _ context goal => goal = wanted.query.goal ∧ wanted.Shows world.store context
  | .resolving target passed rest context goal =>
    goal = wanted.query.goal ∧ wanted.Shows world.store context ∧
      Inclusion.AllHonest provision own world (world.store.page target) (passed ++ rest)
  | .finished reply => wanted.Expects provision reply
  | _ => False

variable {task : Task}

theorem Honest.mono (honest : task.Honest provision own wanted world)
    (sound : task.Sound owners world) (pages : world.store.KeepsPages after.store) :
    task.Honest provision own wanted after := by
  cases task with
  | walking context goal => exact ⟨honest.1, honest.2.mono pages⟩
  | awaiting call target context goal => exact ⟨honest.1, honest.2.mono pages⟩
  | resolving target passed rest context goal =>
    obtain ⟨wanted, shows, honest⟩ := honest
    refine ⟨wanted, shows.mono pages, ?_⟩
    rw [pages.page sound.2.1]
    exact honest.mono pages
  | finished reply => exact honest
  | updating update goal => exact honest
  | looking lookup goal => exact honest
  | loading load => exact honest
  | keying base settled current rest => exact honest

theorem honest_resume (honest : task.Honest provision own wanted world) :
    task.resume.Honest provision own wanted world := by
  cases task <;> exact honest

/-- A query about a buffer begins. -/
theorem begin_honest (wanted : BufferQuery) (faithful : world.Faithful provision own)
    (linked : world.store.Linked) :
    world.Upholds provision own (begin world wanted.command).1 ∧
      (begin world wanted.command).2.Honest provision own wanted.inquiry
        (begin world wanted.command).1 := by
  simp only [begin, locate, BufferQuery.command]
  cases parsed : parseContent wanted.content with
  | error error =>
    refine ⟨.refl faithful, ?_⟩
    rw [Honest, Inquiry.Expects, BufferQuery.inquiry, parsed]
  | ok root =>
    refine ⟨faithful.addContext linked none root (by simp), rfl, ?_, root, parsed, ?_⟩
    · simp [World.addContext, Store.add]
    · exact congrArg Context.page (Store.context_add_self world.store (.fresh none root))

/-- A task that needs includes begins to resolve them as they are written. -/
theorem needIncludes_honest (faithful : world.Faithful provision own) {target context : ContextId}
    (known : target < world.store.length)
    (unknown : (world.store.context target).includes.value = none)
    (shows : wanted.Shows world.store context) :
    world.Upholds provision own (needIncludes world target context wanted.query.goal).1 ∧
      (needIncludes world target context wanted.query.goal).2.Honest provision own wanted
        (needIncludes world target context wanted.query.goal).1 := by
  obtain ⟨-, needed⟩ | ⟨-, needed⟩ := needIncludes_cases world unknown context wanted.query.goal
  · rw [needed]
    exact ⟨faithful.later faithful.brings rfl rfl, rfl, shows⟩
  · rw [needed]
    have extracted := world.store.sameLinks_extract target
    have upholds : world.Upholds provision own { world with
        store := (world.store.extract target).update target fun context =>
          { context with
            includes := { (world.store.context target).includes with
              holder := some world.nextCall } }
        nextCall := world.nextCall + 1 } := by
      refine faithful.change faithful.brings ?_ ?_ (fun id => ?_) rfl
      · simp [Store.extract, Store.update]
      · funext id
        refine (Store.read_update Context.page ?_ _ _ _).trans
          (Store.read_update Context.page ?_ world.store target id)
        · exact fun _ => rfl
        · exact fun _ => rfl
      · by_cases here : id = target
        · subst here
          rw [Store.context_update_self (extracted.length.symm ▸ known)]
        · rw [Store.context_update_of_ne here, extracted.includes]
    refine ⟨upholds, rfl, shows.mono upholds.pages, ?_⟩
    rw [upholds.pages.page known]
    exact Inclusion.allHonest_inclusions _

/-- Pursuing a query leads on towards what is to be answered, or answers it. -/
theorem pursue_honest (faithful : world.Faithful provision own) (linked : world.store.Linked)
    {context : ContextId} (shows : wanted.Shows world.store context) :
    world.Upholds provision own (pursue world context wanted.query.goal).1 ∧
      (pursue world context wanted.query.goal).2.Honest provision own wanted
        (pursue world context wanted.query.goal).1 := by
  have there : ∀ id ∈ [context], id < world.store.length := by simpa using shows.1
  obtain ⟨final, finish, trail,
    ⟨ended, answered⟩ | ⟨target, before, entered, -, unknown, needed⟩⟩ :=
      wanted.query.pursue_eq linked context
  · rw [answered]
    refine ⟨faithful.extractAll final, shows.expects.mpr ⟨_, finish, ?_, rfl⟩⟩
    exact trail.map (faithful.copies linked) (fun _ _ => rfl) nofun there ended
  · rw [needed]
    have extracted := faithful.extractAll final
    have inside : target < world.store.length :=
      trail.inside (faithful.copies linked).closed nofun there target (by simp [entered])
    obtain ⟨upholds, honest⟩ := needIncludes_honest extracted.faithful
      (Nat.lt_of_lt_of_le inside extracted.pages.length) unknown (shows.mono extracted.pages)
    exact ⟨extracted.trans upholds, honest⟩

/-- Whatever a task does next towards a query about a buffer, it is as provided. -/
theorem Turn.honest {outcome : World × Task} (turn : Turn engine world task outcome)
    (orderly : world.Orderly owners clients) (faithful : world.Faithful provision own)
    (stores : world.Stores own) (known : engine < world.libraries.length)
    (sound : task.Sound owners world) (honest : task.Honest provision own wanted world) :
    world.Upholds provision own outcome.1 ∧ outcome.2.Honest provision own wanted outcome.1 := by
  cases turn with
  | pursue =>
    obtain ⟨rfl, shows⟩ := honest
    exact pursue_honest faithful orderly.linked shows
  | woken filled => exact ⟨.refl faithful, honest⟩
  | inclusion turn =>
    obtain ⟨goal, shows, honest⟩ := honest
    obtain ⟨-, there, sound⟩ := sound
    obtain ⟨upholds, honest⟩ := honest.turn turn orderly faithful stores known (sound _ (by simp))
    refine ⟨upholds, goal, shows.mono upholds.pages, ?_⟩
    rw [upholds.pages.page there]
    exact honest
  | pass stuck =>
    obtain ⟨goal, shows, honest⟩ := honest
    refine ⟨.refl faithful, goal, shows, ?_⟩
    rw [← List.append_cons]
    exact honest
  | resolved =>
    obtain ⟨goal, shows, honest⟩ := honest
    rw [List.append_nil] at honest
    have upholds := faithful.resolve sound.2.1 honest.links
    exact ⟨upholds, goal, shows.mono upholds.pages⟩
  | updated => exact honest.elim
  | update turn => exact honest.elim
  | looked => exact honest.elim
  | lookup turn => exact honest.elim
  | loaded => exact honest.elim
  | failed => exact honest.elim
  | load turn => exact honest.elim
  | keyed => exact honest.elim
  | keying turn => exact honest.elim
  | next => exact honest.elim
  | listed => exact honest.elim

end Task

/-! ## Runs -/

namespace Traffic

/-- What may happen while engines only carry out queries about buffers: the source changes at most
how long it takes. -/
inductive Event.Allowed (config : Config) (provision : Provision) : Event → Prop where
  | ask (engine : Nat) (wanted : BufferQuery) :
      Allowed config provision (.ask engine wanted.command)
  | proceed (index : Nat) : Allowed config provision (.proceed index)
  | resume (index : Nat) : Allowed config provision (.resume index)
  | wait (moment : Nat) : Allowed config provision (.wait moment)
  | number : Allowed config provision .number
  | change {source : Source} (provides : source.Provides config provision) :
      Allowed config provision (.change source)

/-- A task carries out a command, which is a query about a document with some content. -/
def Carries (provision : Provision) (own : Option String) (world : World) (command : Command)
    (task : Task) : Prop :=
  ∃ wanted : Inquiry, command = wanted.command ∧ task.Honest provision own wanted world

/-- A state in which everything is as provided, also what the tasks have come to. -/
structure Faithful (config : Config) (provision : Provision) (own : Option String)
    (commands : List Command) (state : Traffic) : Prop where
  config : state.world.config = config
  world : state.world.Faithful provision own
  stores : state.world.Stores own
  tasks : state.Follows (Carries provision own) 0 commands

variable {config : Config} {commands : List Command} {state after : Traffic} {event : Event}
  {events : List Event} {index : Nat}

theorem faithful_of_brings {source : Source} (brings : source.Brings config provision none)
    (engines : Nat) : (initial config source engines).Faithful config provision none [] where
  config := rfl
  stores := nofun
  world := .initial brings engines
  tasks := follows_nil (Carries provision none) (initial config source engines)

theorem faithful_initial {source : Source} (provides : source.Provides config provision)
    (engines : Nat) : (initial config source engines).Faithful config provision none [] :=
  faithful_of_brings (provides.brings none) engines

/-- Whatever happens next, everything stays as provided, and documents keep their pages. -/
theorem Faithful.step (faithful : state.Faithful config provision own commands)
    (orderly : state.Orderly) (allowed : event.Allowed config provision)
    (went : state.step? event = some after) :
    after.Faithful config provision own (commands ++ asked [event]) ∧
      state.world.store.KeepsPages after.world.store := by
  obtain ⟨-, onward⟩ := orderly.step went
  obtain ⟨owners, ordered⟩ := orderly
  have config' := onward.config.trans faithful.config
  have stores : after.world.Stores own := fun {key} same missing => by
    obtain ⟨id, stored⟩ := Option.ne_none_iff_exists'.mp (faithful.stores same)
    exact nomatch (onward.get? stored).symm.trans missing
  have kept {world : World} (upholds : state.world.Upholds provision own world) :
      ∀ entry ∈ state.tasks, ∀ command, Carries provision own state.world command entry.2 →
        Carries provision own world command entry.2 := by
    rintro entry listed command ⟨wanted, rfl, honest⟩
    exact ⟨wanted, rfl, honest.mono (ordered.sound entry listed) upholds.pages⟩
  -- Neither documents nor listings change, and no task goes on.
  have passes {world : World} (config' : world.config = config) (stores : world.Stores own)
      (upholds : state.world.Upholds provision own world) :
      Faithful config provision own (commands ++ []) ⟨world, state.tasks⟩ ∧
        state.world.store.KeepsPages world.store := by
    rw [List.append_nil]
    exact ⟨⟨config', upholds.faithful, stores, faithful.tasks.keep (kept upholds)⟩, upholds.pages⟩
  cases allowed with
  | ask engine wanted =>
    obtain ⟨-, rfl⟩ := step?_ask_eq_some_iff.mp went
    obtain ⟨upholds, honest⟩ := Task.begin_honest wanted faithful.world ordered.world.linked
    exact ⟨⟨config', upholds.faithful, stores,
      faithful.tasks.concat (kept upholds) ⟨wanted.inquiry, rfl, honest⟩⟩, upholds.pages⟩
  | proceed index =>
    obtain ⟨engine, task, present, outcome, moved, rfl⟩ := step?_proceed_eq_some_iff.mp went
    have listed := List.mem_of_getElem? present
    have turn {wanted : Inquiry} (honest : task.Honest provision own wanted state.world) :
        state.world.Upholds provision own outcome.1 ∧
          outcome.2.Honest provision own wanted outcome.1 :=
      (Task.step_turn moved).honest ordered.world faithful.world faithful.stores
        (ordered.engines _ listed) (ordered.sound _ listed) honest
    obtain ⟨command, -, wanted, -, honest⟩ := faithful.tasks.held present
    obtain ⟨upholds, -⟩ := turn honest
    rw [asked, List.filterMap_cons, List.filterMap_nil, List.append_nil]
    refine ⟨⟨config', upholds.faithful, stores, ?_⟩, upholds.pages⟩
    refine faithful.tasks.replace (kept upholds) present ?_
    rintro command ⟨wanted, rfl, honest⟩
    exact ⟨wanted, rfl, (turn honest).2⟩
  | resume index =>
    obtain ⟨engine, task, present, rfl⟩ := step?_resume_eq_some_iff.mp went
    rw [asked, List.filterMap_cons, List.filterMap_nil, List.append_nil]
    refine ⟨⟨config', faithful.world, stores, ?_⟩, .refl _⟩
    refine faithful.tasks.replace (kept (.refl faithful.world)) present ?_
    rintro command ⟨wanted, rfl, honest⟩
    exact ⟨wanted, rfl, Task.honest_resume honest⟩
  | wait moment =>
    cases went
    exact passes config' stores (faithful.world.later faithful.world.brings rfl rfl)
  | number =>
    cases went
    exact passes config' stores (faithful.world.later faithful.world.brings rfl rfl)
  | change provides =>
    cases went
    have brings := provides.brings own
    exact passes config' stores (faithful.world.later (faithful.config ▸ brings) rfl rfl)

/-- Through a whole run everything stays as provided, and documents keep their pages. -/
theorem Faithful.run (faithful : state.Faithful config provision own commands)
    (orderly : state.Orderly) (allowed : ∀ event ∈ events, event.Allowed config provision)
    (ran : state.run? events = some after) :
    after.Faithful config provision own (commands ++ asked events) ∧
      state.world.store.KeepsPages after.world.store := by
  induction events generalizing state commands with
  | nil =>
    cases ran
    rw [asked, List.filterMap_nil, List.append_nil]
    exact ⟨faithful, .refl _⟩
  | cons event rest ih =>
    obtain ⟨next, went, ran⟩ := run?_cons_eq_some_iff.mp ran
    obtain ⟨first, allowed⟩ := List.forall_mem_cons.mp allowed
    obtain ⟨faithful, pages⟩ := faithful.step orderly first went
    obtain ⟨faithful, pages'⟩ := ih faithful (orderly.step went).1 allowed ran
    rw [← List.singleton_append, asked_append, ← List.append_assoc]
    exact ⟨faithful, pages.trans pages'⟩

end Traffic

end DiagramAssist
