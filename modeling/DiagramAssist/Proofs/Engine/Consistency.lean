import DiagramAssist.Proofs.Engine.Traffic
import DiagramAssist.Proofs.Registry.Sharing

/-! # Stored documents answer consistently

A query about a stored document has extracted the symbols of every document it has entered and
knows what each of them includes. All of that stays known, whatever becomes of the trees and of the
source; and the key keeps its document. Hence the same query is answered with the same for good
(`Query.Settled.unique`), and after suggestions for a key nothing is fetched for it any more.
-/

namespace DiagramAssist

/-! ## Settled queries -/

namespace Query

/-- What settles a query about a document: everything on its trail is known, and the answer follows
from the pages there. -/
def Settled (query : Query) (store : Store) (context : ContextId) (reply : Reply) : Prop :=
  ∃ final finish,
    store.chart.Trail (fun id => query.stops (store.page id)) [] [context] final finish ∧
    finish ≠ .blocked ∧
    (∀ id ∈ final, id < store.length ∧ (store.context id).symbols ≠ none) ∧
    reply = query.answer finish (final.map store.page)

variable {query : Query} {store later : Store} {context : ContextId} {reply reply' : Reply}

/-- A trail that has ended is still the same when more is known. -/
theorem trail_grows {stops stops' : ContextId → Bool} {final : List ContextId} {finish : Finish}
    (trail : store.chart.Trail stops [] [context] final finish) (ended : finish ≠ .blocked)
    (linked : store.Linked) (known : context < store.length) (grows : store.Grows later)
    (same : ∀ id ∈ final, stops' id = stops id) :
    later.chart.Trail stops' [] [context] final finish := by
  have copied := trail.map (grows.copies linked) same nofun (by simpa using known) ended
  simpa using copied

theorem Settled.mono (settled : query.Settled store context reply) (linked : store.Linked)
    (known : context < store.length) (grows : store.Grows later) :
    query.Settled later context reply := by
  obtain ⟨final, finish, trail, ended, extracted, rfl⟩ := settled
  have pages : ∀ id ∈ final, later.page id = store.page id := fun id listed =>
    grows.page (extracted id listed).1 (extracted id listed).2
  refine ⟨final, finish, ?_, ended, fun id listed => ?_, ?_⟩
  · exact trail_grows trail ended linked known grows fun id listed => by rw [pages id listed]
  · obtain ⟨there, symbols⟩ := extracted id listed
    obtain ⟨table, symbols⟩ := Option.ne_none_iff_exists'.mp symbols
    exact ⟨grows.lt_length there, by simp [grows.symbols symbols]⟩
  · rw [List.map_congr_left pages]

theorem Settled.unique (settled : query.Settled store context reply)
    (settled' : query.Settled store context reply') : reply' = reply := by
  obtain ⟨final, finish, trail, -, -, rfl⟩ := settled
  obtain ⟨final', finish', trail', -, -, rfl⟩ := settled'
  obtain ⟨rfl, rfl⟩ := trail.unique trail'
  rfl

/-- A query that has been answered is settled. -/
theorem settled_of_trail (query : Query) {final : List ContextId} {finish : Finish}
    (trail : store.chart.Trail (fun id => query.stops (store.page id)) [] [context] final finish)
    (ended : finish ≠ .blocked) (linked : store.Linked) (known : context < store.length) :
    query.Settled (store.extractAll final) context
      (query.answer finish (final.map store.page)) := by
  have same := store.sameLinks_extractAll final
  have inside : ∀ id ∈ final, id < store.length := trail.inside
    (fun _ links next listed => Store.lt_length_of_key (linked links next listed)) nofun
    (by simpa using known)
  rw [← store.page_extractAll final] at trail ⊢
  refine ⟨final, finish, ?_, ended, fun id listed => ⟨?_, ?_⟩, rfl⟩
  · exact trail_grows trail ended linked known same.grows fun _ _ => rfl
  · exact same.grows.lt_length (inside id listed)
  · rw [Store.symbols_extractAll listed (inside id listed)]
    exact Option.some_ne_none _

end Query

/-! ## Tasks about a key -/

/-- An update stores a tree under a key, or has returned the document there. -/
def Update.Concerns (key : String) (world : World) : Update → Prop
  | .arriving other _ => other = key
  | .queued other _ _ _ => other = key
  | .returned context => world.registry.get? key = some context

namespace Update

variable {world after : World} {update : Update} {outcome : World × Update} {key : String}

theorem Concerns.mono (concerns : update.Concerns key world) (onward : world.Onward after) :
    update.Concerns key after := by
  cases update with
  | arriving other fresh => exact concerns
  | queued other fresh call slot => exact concerns
  | returned context => exact onward.get? concerns

/-- What an update returns is stored under its key. -/
private theorem settle_concerns {fresh stored : ContextId} {slot : SlotId}
    (filled : (world.registry.cell slot).value = some stored) :
    (settle world key fresh slot stored).2.Concerns key (settle world key fresh slot stored).1 := by
  by_cases current : world.registry.slot? key = some slot
  · rw [settle_of_current world fresh stored current]
    exact Registry.get?_eq_some_iff.mpr ⟨slot, current, filled⟩
  · rw [settle_of_lost world fresh stored current]
    rfl

theorem Turn.concerns {owners : List String} {clients : Attendance}
    (turn : Turn world update outcome) (orderly : world.Orderly owners clients)
    (sound : update.Sound owners world) (concerns : update.Concerns key world) :
    outcome.2.Concerns key outcome.1 := by
  have filled {registry : Registry} {slot : SlotId} (known : slot < registry.slots.length)
      (fresh : ContextId) : ((registry.succeed slot fresh).cell slot).value = some fresh := by
    rw [Registry.cell_succeed known, if_pos rfl]
  cases turn with
  | @arrive other fresh registry slot standing arrival =>
    cases concerns
    obtain ⟨owners', leads, owner⟩ := orderly.arrive arrival
    have known : slot < registry.slots.length := by
      rw [← leads.orderly.owned]
      exact (List.getElem?_eq_some_iff.mp owner).1
    cases standing with
    | found stored =>
      cases arrival with
      | found shown => exact settle_concerns shown.2
    | queued => rfl
    | holding => exact settle_concerns (filled known fresh)
  | receive stored =>
    cases concerns
    exact settle_concerns stored
  | takeOver empty held =>
    cases concerns
    have known := (List.getElem?_eq_some_iff.mp sound.2).1
    exact settle_concerns (filled (orderly.owned ▸ known) _)

end Update

namespace Task

/-- A task carries out a query about the document under a key. -/
def Concerns (key : String) (query : Query) (world : World) : Task → Prop
  | .updating update goal => goal = query.goal ∧ update.Concerns key world
  | .walking context goal => goal = query.goal ∧ world.registry.get? key = some context
  | .awaiting _ _ context goal => goal = query.goal ∧ world.registry.get? key = some context
  | .resolving _ _ _ context goal => goal = query.goal ∧ world.registry.get? key = some context
  | .finished reply => (∃ error, reply = .failed error) ∨
      ∃ context, world.registry.get? key = some context ∧ query.Settled world.store context reply
  | _ => False

variable {world after : World} {task : Task} {key : String} {query : Query}
  {owners : List String} {clients : Attendance}

/-- The document of a task about a key stays the document of the key. -/
theorem Concerns.mono (concerns : task.Concerns key query world)
    (orderly : world.Orderly owners clients) (onward : world.Onward after) :
    task.Concerns key query after := by
  cases task with
  | updating update goal => exact ⟨concerns.1, concerns.2.mono onward⟩
  | walking context goal => exact ⟨concerns.1, onward.get? concerns.2⟩
  | awaiting call target context goal => exact ⟨concerns.1, onward.get? concerns.2⟩
  | resolving target passed rest context goal => exact ⟨concerns.1, onward.get? concerns.2⟩
  | finished reply =>
    refine concerns.imp id ?_
    rintro ⟨context, stored, settled⟩
    have known := Store.lt_length_of_key (orderly.keyed_of_get? stored)
    exact ⟨context, onward.get? stored, settled.mono orderly.linked known onward.store⟩
  | looking lookup goal => exact concerns
  | loading load => exact concerns
  | keying base settled current rest => exact concerns

theorem begin_concerns (world : World) (key : String) (content : Option String) (query : Query) :
    (begin world (.document ⟨some key, content⟩ query.goal)).2.Concerns key query
      (begin world (.document ⟨some key, content⟩ query.goal)).1 := by
  cases content with
  | none =>
    simp only [begin, locate]
    cases stored : world.registry.get? key with
    | none => exact .inl ⟨_, rfl⟩
    | some context => exact ⟨rfl, stored⟩
  | some text =>
    simp only [begin, locate]
    cases parseContent text with
    | error error => exact .inl ⟨_, rfl⟩
    | ok root => exact ⟨rfl, rfl⟩

/-- A task that carries out a query about a stored document goes on to do so. -/
theorem Turn.concerns {engine : Nat} {outcome : World × Task}
    (turn : Turn engine world task outcome) (orderly : world.Orderly owners clients)
    (sound : task.Sound owners world) (onward : world.Onward outcome.1)
    (concerns : task.Concerns key query world) : outcome.2.Concerns key query outcome.1 := by
  cases turn with
  | updated => exact concerns
  | update turn => exact ⟨concerns.1, turn.concerns orderly sound concerns.2⟩
  | @pursue context goal =>
    obtain ⟨rfl, stored⟩ := concerns
    obtain ⟨final, finish, trail, ⟨ended, answered⟩ | ⟨target, -, -, -, unknown, needed⟩⟩ :=
      query.pursue_eq orderly.linked context
    · rw [answered]
      exact .inr ⟨context, stored, query.settled_of_trail trail ended orderly.linked sound⟩
    · rw [needed]
      obtain ⟨-, waits⟩ | ⟨-, resolves⟩ := needIncludes_cases
        { world with store := world.store.extractAll final } unknown context query.goal
      · rw [waits]
        exact ⟨rfl, stored⟩
      · rw [resolves]
        exact ⟨rfl, stored⟩
  | woken filled => exact concerns
  | inclusion turn => exact ⟨concerns.1, onward.get? concerns.2⟩
  | pass stuck => exact concerns
  | resolved => exact concerns
  | looked => exact concerns.elim
  | lookup turn => exact concerns.elim
  | loaded => exact concerns.elim
  | failed => exact concerns.elim
  | load turn => exact concerns.elim
  | keyed => exact concerns.elim
  | keying turn => exact concerns.elim
  | next => exact concerns.elim
  | listed => exact concerns.elim

end Task

namespace Traffic

/-- Tasks about stored documents are about them to the end. -/
theorem lasting_concerns (base : World) (key : String) (query : Query) :
    Lasting base fun world command task =>
      (∃ content, command = .document ⟨some key, content⟩ query.goal) →
        task.Concerns key query world where
  begins {world} command _ := by
    rintro ⟨content, rfl⟩
    exact Task.begin_concerns world key content query
  onward orderly onward held asked := (held asked).mono orderly onward
  turns _ orderly sound turn onward held asked := turn.concerns orderly sound onward (held asked)
  resumes {world command task} held asked := by
    have concerns := held asked
    cases task <;> exact concerns

end Traffic

/-! ## Nothing is fetched again -/

namespace Store

/-- A walk through everything below a document meets only includes that are known. -/
def Explored (store : Store) (context : ContextId) : Prop :=
  ∃ final finish, store.chart.Trail (fun _ => false) [] [context] final finish ∧
    finish ≠ .blocked

theorem Explored.includes {store : Store} {context : ContextId}
    (explored : store.Explored context) :
    ∃ ids, (store.context context).includes.value = some ids := by
  obtain ⟨final, finish, trail, ended⟩ := explored
  cases trail with
  | skip seen => exact (seen fun _ => nofun).elim
  | stop new stop => cases stop
  | block => exact (ended rfl).elim
  | enter new goes known => exact ⟨_, known⟩

theorem Explored.mono {store later : Store} {context : ContextId}
    (explored : store.Explored context) (linked : store.Linked) (grows : store.Grows later) :
    later.Explored context := by
  obtain ⟨ids, known⟩ := explored.includes
  have there : context < store.length := lt_length_of_includes (.inl (by simp [known]))
  obtain ⟨final, finish, trail, ended⟩ := explored
  exact ⟨final, finish, Query.trail_grows trail ended linked there grows fun _ _ => rfl, ended⟩

end Store

namespace Task

variable {world : World} {task : Task} {key : String} {context : ContextId} {owners : List String}
  {clients : Attendance}

/-- A task about the document under a key that neither waits for includes nor resolves any. -/
def Calm (key : String) (context : ContextId) (world : World) : Task → Prop
  | .updating update _ => update.Concerns key world
  | .walking other _ => other = context
  | .finished _ => True
  | _ => False

/-- Whatever is wanted of an explored document is answered at once. -/
theorem pursue_explored (linked : world.store.Linked) (explored : world.store.Explored context)
    (goal : Goal) :
    ∃ store reply, pursue world context goal = ({ world with store }, .finished reply) := by
  have query (query : Query) : ∃ store reply,
      pursue world context query.goal = ({ world with store }, .finished reply) := by
    obtain ⟨final, finish, trail, ⟨-, answered⟩ | ⟨target, before, -, blocked, -⟩⟩ :=
      query.pursue_eq linked context
    · exact ⟨_, _, answered⟩
    · obtain ⟨_, _, through, ended⟩ := explored
      exact (through.not_blocked ended trail blocked).elim
  cases goal with
  | context => exact ⟨_, _, rfl⟩
  | symbols => exact ⟨_, _, rfl⟩
  | replace root => exact ⟨_, _, rfl⟩
  | includes =>
    obtain ⟨ids, known⟩ := explored.includes
    simp only [pursue, Store.includesOf, known]
    exact ⟨_, _, rfl⟩
  | suggestions range filter => exact query (.suggestions range filter)
  | arguments name range => exact query (.arguments name range)
  | callable name => exact query (.callable name)

/-- A calm task fetches nothing and stays calm. -/
theorem Turn.calm {engine : Nat} {outcome : World × Task}
    (turn : Turn engine world task outcome) (orderly : world.Orderly owners clients)
    (sound : task.Sound owners world) (stored : world.registry.get? key = some context)
    (explored : world.store.Explored context) (calm : task.Calm key context world) :
    outcome.2.Calm key context outcome.1 ∧ outcome.1.log = world.log := by
  cases turn with
  | updated => exact ⟨Option.some.inj (calm.symm.trans stored), rfl⟩
  | update turn => exact ⟨turn.concerns orderly sound calm, turn.log⟩
  | @pursue other goal =>
    obtain rfl : other = context := calm
    obtain ⟨store, reply, answered⟩ := pursue_explored orderly.linked explored goal
    rw [answered]
    exact ⟨trivial, rfl⟩
  | woken filled => exact calm.elim
  | inclusion turn => exact calm.elim
  | pass stuck => exact calm.elim
  | resolved => exact calm.elim
  | looked => exact calm.elim
  | lookup turn => exact calm.elim
  | loaded => exact calm.elim
  | failed => exact calm.elim
  | load turn => exact calm.elim
  | keyed => exact calm.elim
  | keying turn => exact calm.elim
  | next => exact calm.elim
  | listed => exact calm.elim

theorem begin_calm (world : World) (content : Option String) (goal : Goal)
    (stored : world.registry.get? key = some context) :
    (begin world (.document ⟨some key, content⟩ goal)).2.Calm key context
      (begin world (.document ⟨some key, content⟩ goal)).1 := by
  cases content with
  | none =>
    simp only [begin, locate, stored]
    rfl
  | some text =>
    simp only [begin, locate]
    cases parseContent text with
    | error error => trivial
    | ok root => rfl

end Task

namespace Traffic

variable {config : Config} {source : Source} {engines : Nat} {state after : Traffic}
  {events later : List Event} {key : String} {context : ContextId}

/-- Tasks about an explored document are calm. -/
theorem lasting_calm {base : World} {owners : List String} {clients : Attendance}
    (orderly : base.Orderly owners clients) (stored : base.registry.get? key = some context)
    (explored : base.store.Explored context) :
    Lasting base fun world command task =>
      (∃ content goal, command = .document ⟨some key, content⟩ goal) →
        task.Calm key context world where
  begins {world} command behind := by
    rintro ⟨content, goal, rfl⟩
    exact Task.begin_calm world content goal (behind.get? stored)
  onward {world after command task _ _} _ onward held asked := by
    have calm := held asked
    cases task with
    | updating update goal => exact Update.Concerns.mono calm onward
    | _ => exact calm
  turns behind orderly' sound turn _ held asked :=
    (turn.calm orderly' sound (behind.get? stored)
      (explored.mono orderly.linked behind.store) (held asked)).1
  resumes {world command task} held asked := by
    have calm := held asked
    cases task <;> exact calm

/-- What a task that has answered a query about a stored document has left behind. -/
theorem settled_of_reply (ran : (initial config source engines).run? events = some state)
    (query : Query) {index : Nat} {content : Option String} {reply : Reply}
    (wanted : (asked events)[index]? = some (.document ⟨some key, content⟩ query.goal))
    (answered : state.reply? index = some reply) (good : ∀ error, reply ≠ .failed error) :
    ∃ context, state.world.registry.get? key = some context ∧
      query.Settled state.world.store context reply := by
  have lasting := lasting_concerns (World.initial config source engines) key query
  have orderly := orderly_initial config source engines
  have followed := (follows_nil _ (initial config source engines)).run lasting (.refl _) orderly ran
  obtain ⟨engine, present⟩ := reply?_eq_some_iff.mp answered
  have concerns := followed.holds wanted ((Nat.zero_add index).symm ▸ present) ⟨content, rfl⟩
  rcases concerns with ⟨error, failed⟩ | settled
  · exact (good error failed).elim
  · exact settled

/-- Once suggestions for a stored document have been answered, whatever happens later: the same
suggestions for the key are answered with the same items; every document that the walk has entered
keeps its symbols and its includes; and no step of a later task about the key fetches anything. -/
theorem suggestions_stay (ran : (initial config source engines).run? events = some state)
    {index : Nat} {content : Option String} {range : Range} {filter : Filter} {items : List Item}
    (wanted : (asked events)[index]? =
      some (.document ⟨some key, content⟩ (.suggestions range filter)))
    (answered : state.reply? index = some (.items items)) :
    ∃ context, state.world.registry.get? key = some context ∧
      ∀ {later : List Event} {after : Traffic}, state.run? later = some after →
        (∀ {again : Nat} {content' : Option String} {items' : List Item},
          (asked (events ++ later))[again]? =
            some (.document ⟨some key, content'⟩ (.suggestions range filter)) →
          after.reply? again = some (.items items') → items' = items) ∧
        (∀ id ∈ (state.world.store.walk (fun _ => false) context).entered, ∃ table ids,
          (state.world.store.context id).symbols = some table ∧
            (after.world.store.context id).symbols = some table ∧
          (state.world.store.context id).includes.value = some ids ∧
            (after.world.store.context id).includes.value = some ids) ∧
        ∀ {again : Nat} {content' : Option String} {goal : Goal} {next : Traffic},
          (asked later)[again]? = some (.document ⟨some key, content'⟩ goal) →
          after.step? (.proceed (state.tasks.length + again)) = some next →
            next.world.log = after.world.log := by
  obtain ⟨orderly, -⟩ := (orderly_initial config source engines).run ran
  obtain ⟨owners, ordered⟩ := orderly
  have linked : state.world.store.Linked := ordered.world.linked
  obtain ⟨context, stored, settled⟩ :=
    settled_of_reply ran (.suggestions range filter) wanted answered nofun
  have there := Store.lt_length_of_key (ordered.world.keyed_of_get? stored)
  refine ⟨context, stored, fun {later after} ran' => ?_⟩
  obtain ⟨-, onward⟩ := Orderly.run ⟨owners, ordered⟩ ran'
  have whole : (initial config source engines).run? (events ++ later) = some after :=
    run?_append_eq_some_iff.mpr ⟨state, ran, ran'⟩
  refine ⟨fun wanted' answered' => ?_, fun id entered => ?_, fun wanted' went => ?_⟩
  · obtain ⟨context', stored', settled'⟩ :=
      settled_of_reply whole (.suggestions range filter) wanted' answered' nofun
    obtain rfl : context = context' := Option.some.inj ((onward.get? stored).symm.trans stored')
    have same := (settled.mono linked there onward.store).unique settled'
    exact Reply.items.inj same
  · obtain ⟨final, finish, trail, ended, extracted, -⟩ := settled
    obtain ⟨finish', trail', -⟩ := Store.walk_trail (fun _ => false) linked context
    obtain ⟨rfl, rfl⟩ := trail.unique trail'
    have links := (trail.links_known ended nofun id entered).resolve_right Bool.false_ne_true
    obtain ⟨table, symbols⟩ := Option.ne_none_iff_exists'.mp (extracted id entered).2
    obtain ⟨ids, links⟩ := Option.ne_none_iff_exists'.mp links
    exact ⟨table, ids, symbols, onward.store.symbols symbols, links, onward.store.includes links⟩
  · have explored : state.world.store.Explored context := by
      obtain ⟨final, finish, trail, ended, -⟩ := settled
      exact ⟨final, finish, trail, ended⟩
    have lasting := lasting_calm ordered.world stored explored
    have followed := (follows_nil _ state).run lasting (.refl _) ⟨owners, ordered⟩ ran'
    obtain ⟨⟨owners', ordered'⟩, -⟩ := Orderly.run ⟨owners, ordered⟩ ran'
    obtain ⟨engine, task, present, outcome, moved, rfl⟩ := step?_proceed_eq_some_iff.mp went
    have calm := followed.holds wanted' present ⟨_, _, rfl⟩
    exact ((Task.step_turn moved).calm ordered'.world
      (ordered'.sound _ (List.mem_of_getElem? present)) (onward.get? stored)
      (explored.mono linked onward.store) calm).2

/-- A document that declares a name and includes `mem:b`. -/
def includer : Root :=
  ⟨[.define ⟨"A", default⟩ none none default,
    .inclusion ⟨.includeUrl, ⟨"mem:b", default⟩, .url, none, default⟩], default⟩

/-- The document under `mem:a` is loaded and gets a tree that includes `mem:b`; suggestions are
asked for it, for which `mem:b` is fetched. -/
def walked : List Event :=
  [.ask 0 (.load "mem:a"), .proceed 0, .proceed 0, .proceed 0,
    .ask 0 (.document ⟨some "mem:a", none⟩ (.replace includer)), .proceed 1,
    .ask 0 (.document ⟨some "mem:a", none⟩ (.suggestions default .all))] ++
    List.replicate 11 (.proceed 2)

/-- The source loses everything, the included document gets another tree, and the same suggestions
are asked for `mem:a` with new, empty content. -/
def changed : List Event :=
  [.change .none, .ask 0 (.document ⟨some "mem:b", none⟩ (.replace includer)), .proceed 3,
    .ask 0 (.document ⟨some "mem:a", some ""⟩ (.suggestions default .all)), .proceed 4, .proceed 4,
    .proceed 4]

theorem suggestions_stay_after_changes : ∃ (state after : Traffic) (items : List Item),
    (initial .standard ((Source.none.withDocument "mem:a" ⟨0, .ok ⟨"", .utf8⟩⟩).withDocument "mem:b"
      ⟨0, .ok ⟨"", .utf8⟩⟩) 1).run? walked = some state ∧
    state.reply? 2 = some (.items items) ∧ items ≠ [] ∧
    state.run? changed = some after ∧ after.reply? 4 = some (.items items) := by
  obtain ⟨state, ran, items, answered, some, after, ran', items', answered'⟩ :
      ∃ state : Traffic, (initial .standard ((Source.none.withDocument "mem:a"
          ⟨0, .ok ⟨"", .utf8⟩⟩).withDocument "mem:b" ⟨0, .ok ⟨"", .utf8⟩⟩) 1).run? walked =
            some state ∧
        ∃ items, state.reply? 2 = some (.items items) ∧ items ≠ [] ∧
        ∃ after, state.run? changed = some after ∧
        ∃ items, after.reply? 4 = some (.items items) :=
    ⟨_, rfl, _, rfl, List.cons_ne_nil _ _, _, rfl, _, rfl⟩
  obtain ⟨context, stored, stay⟩ := suggestions_stay ran rfl answered
  have same := (stay ran').1 rfl answered'
  exact ⟨state, after, items, ran, answered, some, ran', same ▸ answered'⟩

end Traffic

end DiagramAssist
