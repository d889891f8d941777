import DiagramAssist.Proofs.Engine.Traffic

/-! # Where documents and lists of includes come from

A document with a key has been parsed from a text that was given for the key or fetched under it,
and a list of includes has been resolved while its document was waiting for it. What a state owes to
its past is said here relative to the texts that have come up and the worlds that have been passed
through (`Past`). Calls carry this along: a fetch knows the text that it is going to bring, and the
key of an include is known to have been given at some moment of its resolution.
-/

namespace DiagramAssist

/-- What has happened: the texts that have come up for keys, and the worlds passed through. -/
structure Past where
  texts : (key text : String) → Prop
  passed : World → Prop

/-- The includes of a document are being resolved. -/
def World.Resolves (world : World) (target : ContextId) : Prop :=
  (world.store.context target).includes.value = none ∧
    (world.store.context target).includes.holder ≠ none

/-- The key to which an include in a document with the key `base` leads, as an engine finds it. A
module of the library leads to none where the listing is not known and fails to be fetched. -/
inductive Include.Gives (content : Include) (engine : Nat) (base : Option String) (world : World) :
    Option String → Prop where
  | url (kind : content.kind = .url) : Gives content engine base world (some content.target.value)
  | path (kind : content.kind = .path) :
      Gives content engine base world (resolvePath? base content.target.value)
  | listed {entries : List LibraryEntry} (kind : content.kind = .standard)
      (known : (world.library engine).value = some entries) :
      Gives content engine base world
        (LibraryEntry.resolve? entries world.config.extension content.target.value)
  | unlisted {error : FetchError} (kind : content.kind = .standard)
      (unknown : (world.library engine).value = none)
      (failed : world.fetchListing.2.outcome = .error error) :
      Gives content engine base world none

namespace Past

/-- The tree is that of a text that has come up for the key. -/
def Explains (past : Past) (key : String) (root : Root) : Prop :=
  ∃ text, past.texts key text ∧ parse text = .ok root

/-- An include of a document has led to a key at some moment at which the includes of the document
were being resolved. -/
def Gave (past : Past) (engine : Nat) (target : ContextId) (content : Include)
    (key : Option String) : Prop :=
  ∃ world, past.passed world ∧ world.Resolves target ∧
    content.Gives engine (world.store.context target).key world key

/-- The documents have been resolved as the includes of a document: in the order of its includes,
each has the key to which its include led. Some includes may have been left out, and those that led
to no key have been. -/
def Lists (past : Past) (store : Store) (target : ContextId) (ids : List ContextId) : Prop :=
  ∃ (table : SymbolTable) (engine : Nat) (keys : List (Option String)) (found : List String),
    (store.context target).symbols = some table ∧
    List.Forall₂ (past.Gave engine target) table.includes keys ∧
    (ids.map fun id => (store.context id).key) = found.map some ∧ found.Sublist keys.reduceOption

/-- More has happened. -/
structure Extends (past later : Past) : Prop where
  texts : ∀ {key text : String}, past.texts key text → later.texts key text
  passed : ∀ {world : World}, past.passed world → later.passed world

variable {past later : Past} {engine : Nat} {target : ContextId} {content : Include}
  {key? : Option String} {key : String} {root : Root}

theorem Extends.explains (more : past.Extends later) (explains : past.Explains key root) :
    later.Explains key root := by
  obtain ⟨text, known, parsed⟩ := explains
  exact ⟨text, more.texts known, parsed⟩

theorem Extends.gave (more : past.Extends later) (gave : past.Gave engine target content key?) :
    later.Gave engine target content key? := by
  obtain ⟨world, passed, resolves, gives⟩ := gave
  exact ⟨world, more.passed passed, resolves, gives⟩

/-- What has happened after a step from one world to another: both have been passed through, and if
the step begins a fetch, then the text it is going to bring has come up. -/
structure Step (past later : Past) (world after : World) : Prop extends Extends past later where
  config : ∀ {moment : World}, later.passed moment → moment.config = world.config
  before : later.passed world
  behind : later.passed after
  begun : ∀ {key text : String} {payload : Payload}, after.log = key :: world.log →
    after.attempts = world.attempts → (world.fetchDocument key).2.outcome = .ok payload →
    payload.decode key = .ok text → later.texts key text

end Past

/-- Every document with a key is explained, and so is every list of includes. -/
structure Store.Explained (store : Store) (past : Past) : Prop where
  roots : ∀ {id : ContextId} {key : String}, (store.context id).key = some key →
    past.Explains key (store.context id).root
  lists : ∀ {id : ContextId} {ids : List ContextId},
    (store.context id).includes.value = some ids → past.Lists store id ids

variable {past later : Past} {owners : List String} {clients : Attendance}
  {world after : World} {store : Store} {engine : Nat} {target : ContextId}

namespace Store.Explained

/-- Where there are no documents, there is nothing to explain. -/
theorem empty (past : Past) : Explained [] past where
  roots keyed := by cases keyed
  lists known := by cases known

/-- Every document that is new or has changed is explained, and so is every list that is new. -/
theorem grow (explained : store.Explained past) (more : past.Extends later)
    (linked : store.Linked) {grown : Store} (grows : store.Grows grown)
    (roots : ∀ {id : ContextId} {key : String}, (grown.context id).key = some key →
      ((store.context id).key = some key ∧ (grown.context id).root = (store.context id).root) ∨
        later.Explains key (grown.context id).root)
    (lists : ∀ {id : ContextId} {ids : List ContextId},
      (grown.context id).includes.value = some ids →
      (store.context id).includes.value = some ids ∨ later.Lists grown id ids) :
    grown.Explained later where
  roots {id key} keyed := by
    rcases roots keyed with ⟨keyed, same⟩ | new
    · rw [same]
      exact more.explains (explained.roots keyed)
    · exact new
  lists {id ids} known := by
    rcases lists known with known | new
    · obtain ⟨table, engine, keys, found, extracted, gave, keyed, among⟩ := explained.lists known
      have same : (ids.map fun id => (grown.context id).key) =
          ids.map fun id => (store.context id).key :=
        List.map_congr_left fun other listed => grows.key (linked known other listed)
      exact ⟨table, engine, keys, found, grows.symbols extracted,
        gave.imp fun _ _ gave => more.gave gave, same.trans keyed, among⟩
    · exact new

/-- More happens, and nothing to the documents. -/
theorem mono (explained : store.Explained past) (more : past.Extends later)
    (linked : store.Linked) : store.Explained later :=
  explained.grow more linked (.refl store) (fun keyed => .inl ⟨keyed, rfl⟩) .inl

/-- Neither trees nor keys nor lists change. -/
theorem keep (explained : store.Explained past) (linked : store.Linked) {same : Store}
    (grows : store.Grows same) (keys : ∀ id, (same.context id).key = (store.context id).key)
    (roots : ∀ id, (same.context id).root = (store.context id).root)
    (includes : ∀ id, (same.context id).includes.value = (store.context id).includes.value) :
    same.Explained past :=
  explained.grow ⟨id, id⟩ linked grows
    (fun {id _} keyed => .inl ⟨(keys id).symm.trans keyed, roots id⟩)
    fun {id _} known => .inl ((includes id).symm.trans known)

/-- A document is added that has no key or is explained. -/
theorem add (explained : store.Explained past) (linked : store.Linked) (key? : Option String)
    (root : Root) (explains : ∀ {key : String}, key? = some key → past.Explains key root) :
    (store.add (.fresh key? root)).1.Explained past := by
  refine explained.grow ⟨id, id⟩ linked (store.grows_add _) (fun {id key} keyed => ?_)
    fun {id ids} known => ?_
  · have there : id < (store.add (.fresh key? root)).1.length :=
      Store.lt_length_of_key (by simp [keyed])
    rcases Store.context_add_cases there with ⟨-, same⟩ | ⟨-, same⟩
    · rw [same] at keyed ⊢
      exact .inl ⟨keyed, rfl⟩
    · rw [same] at keyed ⊢
      exact .inr (explains keyed)
  · have there : id < (store.add (.fresh key? root)).1.length :=
      Store.lt_length_of_includes (.inl (by simp [known]))
    rcases Store.context_add_cases there with ⟨-, same⟩ | ⟨-, same⟩
    · rw [same] at known
      exact .inl known
    · rw [same] at known
      cases known

/-- The tree of a document is replaced by one that is explained for its key. -/
theorem replace (explained : store.Explained past) (linked : store.Linked) {root : Root}
    (explains : ∀ {key : String}, (store.context target).key = some key → past.Explains key root) :
    (store.update target fun context => { context with root }).Explained past := by
  have same := store.sameLinks_root target root
  have keys (id : ContextId) : ((store.update target fun context =>
      { context with root }).context id).key = (store.context id).key := by
    apply Store.read_update Context.key
    exact fun _ => rfl
  refine explained.grow ⟨id, id⟩ linked same.grows (fun {id key} keyed => ?_)
    fun {id ids} known => ?_
  · rw [keys] at keyed
    by_cases here : id = target
    · subst here
      rw [Store.context_update_self (Store.lt_length_of_key (by simp [keyed]))]
      exact .inr (explains keyed)
    · rw [Store.context_update_of_ne here]
      exact .inl ⟨keyed, rfl⟩
  · rw [same.includes] at known
    exact .inl known

/-- The includes of a document are resolved. -/
theorem resolve (explained : store.Explained past) (linked : store.Linked)
    (there : target < store.length) (unknown : (store.context target).includes.value = none)
    {ids : List ContextId} (listed : past.Lists store target ids) :
    (store.resolve target ids).Explained past := by
  have grows : store.Grows (store.resolve target ids) :=
    Store.grows_update (.withIncludes unknown (Cell.isTaken_fill _ _))
  have read {α : Type} (read : Context → α)
      (kept : ∀ context : Context, read { context with
        includes := context.includes.fill ids } = read context) (id : ContextId) :
      read ((store.resolve target ids).context id) = read (store.context id) :=
    Store.read_update read kept _ _ _
  refine explained.grow ⟨id, id⟩ linked grows (fun {id key} keyed => ?_) fun {id others} known => ?_
  · exact .inl ⟨(read Context.key (fun _ => rfl) id).symm.trans keyed,
      read Context.root (fun _ => rfl) id⟩
  · by_cases here : id = target
    · subst here
      rw [Store.resolve, Store.context_update_self there] at known
      cases known
      obtain ⟨table, engine, keys, found, extracted, gave, keyed, among⟩ := listed
      refine .inr ⟨table, engine, keys, found,
        (read Context.symbols (fun _ => rfl) id).trans extracted, gave, ?_, among⟩
      simpa only [read Context.key (fun _ => rfl)] using keyed
    · rw [Store.resolve, Store.context_update_of_ne here] at known
      exact .inl known

end Store.Explained

/-! ## Calls -/

namespace Lookup

/-- The listing with which a lookup returns was known, and the one that it fetches is fetched, at
some moment at which the includes of a document were being resolved. -/
def Traced (past : Past) (engine : Nat) (target : ContextId) : Lookup → Prop
  | .arriving => True
  | .queued _ => True
  | .fetching pending => ∃ moment, past.passed moment ∧ moment.Resolves target ∧
      (moment.library engine).value = none ∧ moment.fetchListing.2.outcome = pending.outcome
  | .returned (.ok entries) => ∃ moment, past.passed moment ∧ moment.Resolves target ∧
      (moment.library engine).value = some entries
  | .returned (.error error) => ∃ moment, past.passed moment ∧ moment.Resolves target ∧
      (moment.library engine).value = none ∧ moment.fetchListing.2.outcome = .error error

theorem Traced.mono {lookup : Lookup} (traced : lookup.Traced past engine target)
    (more : past.Extends later) : lookup.Traced later engine target := by
  cases lookup with
  | arriving => trivial
  | queued call => trivial
  | fetching pending =>
    obtain ⟨moment, passed, known⟩ := traced
    exact ⟨moment, more.passed passed, known⟩
  | returned result =>
    cases result <;>
    · obtain ⟨moment, passed, known⟩ := traced
      exact ⟨moment, more.passed passed, known⟩

/-- A lookup does nothing to documents. -/
theorem Turn.store_eq {lookup : Lookup} {outcome : World × Lookup}
    (turn : Turn engine world lookup outcome) : outcome.1.store = world.store := by
  cases turn with
  | @arrive cell standing entry => cases standing <;> rfl
  | receive filled => rfl
  | takeOver empty held => rfl
  | deliver ended good => rfl
  | fail ended bad => rfl

theorem Turn.traced {lookup : Lookup} {outcome : World × Lookup}
    (turn : Turn engine world lookup outcome) (step : past.Step later world outcome.1)
    (known : engine < world.libraries.length) (resolves : world.Resolves target)
    (traced : lookup.Traced past engine target) : outcome.2.Traced later engine target := by
  have resolves' : outcome.1.Resolves target := by
    rwa [World.Resolves, turn.store_eq]
  cases turn with
  | @arrive cell standing entry =>
    cases entry with
    | found listed => exact ⟨world, step.before, resolves, listed⟩
    | queued empty held => trivial
    | holding empty free => exact ⟨world, step.before, resolves, empty, rfl⟩
  | receive filled => exact ⟨world, step.before, resolves, filled⟩
  | takeOver empty held => exact ⟨world, step.before, resolves, empty, rfl⟩
  | deliver ended good =>
    exact ⟨_, step.behind, resolves',
      congrArg Cell.value (World.Orderly.library_setLibrary_self known)⟩
  | fail ended bad =>
    obtain ⟨moment, passed, resolved, unknown, failed⟩ := traced
    exact ⟨moment, step.passed passed, resolved, unknown, failed.trans bad⟩

end Lookup

namespace Load

/-- A load is for a key: what it fetches are texts that have come up for the key, and the document
that it returns has the key. -/
def Traced (past : Past) (world : World) (key : String) : Load → Prop
  | .arriving asked => asked = key
  | .queued asked _ _ => asked = key
  | .fetching asked _ pending => asked = key ∧ ∀ payload text, pending.outcome = .ok payload →
      payload.decode key = .ok text → past.texts key text
  | .returned (.ok id) => (world.store.context id).key = some key
  | .returned (.error _) => True

theorem Traced.mono {key : String} {load : Load} (traced : load.Traced past world key)
    (more : past.Extends later) (grows : world.store.Grows after.store) :
    load.Traced later after key := by
  cases load with
  | arriving asked => exact traced
  | queued asked call slot => exact traced
  | fetching asked slot pending =>
    exact ⟨traced.1, fun payload text brought decoded =>
      more.texts (traced.2 payload text brought decoded)⟩
  | returned result =>
    cases result with
    | ok id =>
      have keyed : (world.store.context id).key = some key := traced
      exact (grows.key (by simp [keyed])).trans keyed
    | error error => trivial

theorem Turn.traced {key : String} {load : Load} {outcome : World × Load}
    (turn : Turn world load outcome) (step : past.Step later world outcome.1)
    (orderly : world.Orderly owners clients) (sound : load.Sound owners world)
    (explained : world.store.Explained past) (traced : load.Traced past world key) :
    outcome.1.store.Explained later ∧ outcome.2.Traced later outcome.1 key := by
  have explained := explained.mono step.toExtends orderly.linked
  -- What is stored in a slot of the key has the key.
  have stored {slot : SlotId} {id : ContextId} (owner : owners[slot]? = some key)
      (filled : (world.registry.cell slot).value = some id) :
      (world.store.context id).key = some key := (orderly.stored filled).trans owner
  cases turn with
  | arrive arrival =>
    cases traced
    cases arrival with
    | found shown => exact ⟨explained, stored (orderly.current shown.1) shown.2⟩
    | queued current empty held => exact ⟨explained, rfl⟩
    | holding current empty free =>
      exact ⟨explained, rfl, fun payload text brought => step.begun rfl rfl brought⟩
    | claimed missing =>
      exact ⟨explained, rfl, fun payload text brought => step.begun rfl rfl brought⟩
  | receive filled =>
    cases traced
    exact ⟨explained, stored sound filled⟩
  | takeOver empty held =>
    cases traced
    exact ⟨explained, rfl, fun payload text brought => step.begun rfl rfl brought⟩
  | @deliver asked slot pending context ended good =>
    obtain ⟨rfl, known⟩ := traced
    obtain ⟨payload, text, root, brought, decoded, parsed, rfl⟩ := text_of_loaded good
    refine ⟨explained.add orderly.linked (some asked) root fun same => ?_, ?_⟩
    · cases same
      exact ⟨text, step.texts (known payload text brought decoded), parsed⟩
    · exact congrArg Context.key (Store.context_add_self world.store _)
  | fail ended bad => exact ⟨explained, trivial⟩

end Load

namespace Update

/-- The key of the document in which the tree of an update ends up. -/
def documentKey? (world : World) : Update → Option String
  | .arriving key _ => some key
  | .queued key _ _ _ => some key
  | .returned id => (world.store.context id).key

/-- Settling keeps everything explained, and the key. -/
theorem settle_explained {key : String} {fresh stored : ContextId} {slot : SlotId}
    (explained : world.store.Explained past) (linked : world.store.Linked)
    (mine : (world.store.context fresh).key = some key)
    (other : (world.store.context stored).key = some key) :
    (settle world key fresh slot stored).1.store.Explained past ∧
      (settle world key fresh slot stored).2.documentKey? (settle world key fresh slot stored).1 =
        some key := by
  by_cases current : world.registry.slot? key = some slot
  · rw [settle_of_current world fresh stored current]
    by_cases own : stored = fresh
    · simp only [if_pos own]
      exact ⟨explained, other⟩
    · simp only [if_neg own]
      refine ⟨explained.replace linked fun same => ?_, ?_⟩
      · cases same.symm.trans other
        exact explained.roots mine
      · refine Eq.trans ?_ other
        apply Store.read_update Context.key
        exact fun _ => rfl
  · rw [settle_of_lost world fresh stored current]
    exact ⟨explained, rfl⟩

theorem documentKey?_mono {update : Update} (sound : update.Sound owners world)
    (grows : world.store.Grows after.store) :
    update.documentKey? after = update.documentKey? world := by
  cases update with
  | arriving key fresh => rfl
  | queued key fresh call slot => rfl
  | returned id => exact grows.key sound

theorem Turn.explained {update : Update} {outcome : World × Update}
    (turn : Turn world update outcome) (orderly : world.Orderly owners clients)
    (sound : update.Sound owners world) (explained : world.store.Explained past) :
    outcome.1.store.Explained past ∧
      outcome.2.documentKey? outcome.1 = update.documentKey? world := by
  cases turn with
  | @arrive key fresh registry slot standing arrival =>
    have mine : (world.store.context fresh).key = some key := sound
    cases arrival with
    | @found slot stored shown =>
      exact settle_explained explained orderly.linked mine
        ((orderly.stored shown.2).trans (orderly.current shown.1))
    | queued current empty held => exact ⟨explained, rfl⟩
    | holding current empty free => exact settle_explained explained orderly.linked mine mine
    | claimed missing => exact settle_explained explained orderly.linked mine mine
  | receive filled =>
    exact settle_explained explained orderly.linked sound.1
      ((orderly.stored filled).trans sound.2)
  | takeOver empty held => exact settle_explained explained orderly.linked sound.1 sound.1

end Update

/-! ## Includes -/

namespace Keying

/-- The key of an include of a document is being found as the include says. -/
def Traced (past : Past) (engine : Nat) (target : ContextId) (content : Include) : Keying → Prop
  | .pending asked => asked = content
  | .looking path lookup =>
    content.kind = .standard ∧ path = content.target.value ∧ lookup.Traced past engine target
  | .settled key => past.Gave engine target content key

variable {content : Include} {keying : Keying}

theorem Traced.mono (traced : keying.Traced past engine target content)
    (more : past.Extends later) : keying.Traced later engine target content := by
  cases keying with
  | pending asked => exact traced
  | looking path lookup => exact ⟨traced.1, traced.2.1, traced.2.2.mono more⟩
  | settled key => exact more.gave traced

/-- Finding a key does nothing to documents. -/
theorem Turn.store_eq {base : Option String} {outcome : World × Keying}
    (turn : Turn engine base world keying outcome) : outcome.1.store = world.store := by
  cases turn with
  | lookup turn => exact turn.store_eq
  | look kind => rfl
  | url kind => rfl
  | path kind => rfl
  | listed => rfl
  | unlisted => rfl

theorem Turn.traced {outcome : World × Keying}
    (turn : Turn engine (world.store.context target).key world keying outcome)
    (step : past.Step later world outcome.1) (known : engine < world.libraries.length)
    (resolves : world.Resolves target) (traced : keying.Traced past engine target content) :
    outcome.2.Traced later engine target content := by
  cases turn with
  | look kind =>
    cases traced
    exact ⟨kind, rfl, trivial⟩
  | url kind =>
    cases traced
    exact ⟨world, step.before, resolves, .url kind⟩
  | path kind =>
    cases traced
    exact ⟨world, step.before, resolves, .path kind⟩
  | lookup turn =>
    obtain ⟨kind, path, traced⟩ := traced
    exact ⟨kind, path, turn.traced step known resolves traced⟩
  | listed =>
    obtain ⟨kind, rfl, moment, passed, resolved, listed⟩ := traced
    refine ⟨moment, step.passed passed, resolved, ?_⟩
    rw [← step.config (step.passed passed)]
    exact .listed kind listed
  | unlisted =>
    obtain ⟨kind, rfl, moment, passed, resolved, unknown, failed⟩ := traced
    exact ⟨moment, step.passed passed, resolved, .unlisted kind unknown failed⟩

end Keying

namespace Inclusion

/-- An include of a document is being resolved: a document is loaded under the key to which the
include has led, and the document found has this key. -/
def Traced (past : Past) (engine : Nat) (target : ContextId) (world : World) (content : Include) :
    Inclusion → Prop
  | .keying state => state.Traced past engine target content
  | .loading load => ∃ key, past.Gave engine target content (some key) ∧ load.Traced past world key
  | .settled found => ∃ key?, past.Gave engine target content key? ∧
      ∀ id, found = some id → (world.store.context id).key = key? ∧ key? ≠ none

variable {content : Include} {inclusion : Inclusion}

theorem Traced.mono (traced : inclusion.Traced past engine target world content)
    (more : past.Extends later) (grows : world.store.Grows after.store) :
    inclusion.Traced later engine target after content := by
  cases inclusion with
  | keying state => exact Keying.Traced.mono traced more
  | loading load =>
    obtain ⟨key, gave, traced⟩ := traced
    exact ⟨key, more.gave gave, traced.mono more grows⟩
  | settled found =>
    obtain ⟨key?, gave, keyed⟩ := traced
    refine ⟨key?, more.gave gave, fun id same => ?_⟩
    obtain ⟨keyed, present⟩ := keyed id same
    exact ⟨(grows.key (keyed ▸ present)).trans keyed, present⟩

theorem Turn.traced {outcome : World × Inclusion}
    (turn : Turn engine (world.store.context target).key world inclusion outcome)
    (step : past.Step later world outcome.1) (orderly : world.Orderly owners clients)
    (known : engine < world.libraries.length) (sound : inclusion.Sound owners world)
    (resolves : world.Resolves target) (explained : world.store.Explained past)
    (traced : inclusion.Traced past engine target world content) :
    outcome.1.store.Explained later ∧
      outcome.2.Traced later engine target outcome.1 content := by
  have same := explained.mono step.toExtends orderly.linked
  cases turn with
  | unresolved => exact ⟨same, none, step.gave traced, nofun⟩
  | @resolved key => exact ⟨same, key, step.gave traced, rfl⟩
  | keying turn =>
    refine ⟨?_, turn.traced step known resolves traced⟩
    rwa [turn.store_eq]
  | load turn =>
    obtain ⟨key, gave, traced⟩ := traced
    obtain ⟨explained, traced⟩ := turn.traced step orderly sound explained traced
    exact ⟨explained, key, step.gave gave, traced⟩
  | loaded =>
    obtain ⟨key, gave, keyed⟩ := traced
    refine ⟨same, some key, step.gave gave, fun id found => ?_⟩
    cases found
    exact ⟨keyed, Option.some_ne_none _⟩
  | failed =>
    obtain ⟨key, gave, -⟩ := traced
    exact ⟨same, some key, step.gave gave, nofun⟩

end Inclusion

end DiagramAssist
