import DiagramAssist.Proofs.Engine.Provision

/-! # Engines stay faithful to what is provided

Queries about unsaved buffers share documents, symbols, lists of includes and the library listing,
and loads that fail take slots away while others wait. None of this shows in the documents: as long
as the source provides the same, every document with a key has the page that is provided for the
key, every list of includes that is known leads to the pages that are provided, in their order
(`World.Faithful`), and a task only gets on towards the answer that is to be given (`Task.Honest`).

One document may be stored under a key of its own before anything is asked about it. Then nothing is
fetched for that key, so the source need not have the document that is provided for it.
-/

namespace DiagramAssist

/-- Documents are added, and those that were there keep their pages. -/
structure Store.KeepsPages (before after : Store) : Prop where
  length : before.length ≤ after.length
  page : ∀ {id : ContextId}, id < before.length → after.page id = before.page id

namespace Store.KeepsPages

theorem refl (store : Store) : KeepsPages store store :=
  ⟨Nat.le_refl _, fun _ => rfl⟩

theorem trans {first second third : Store} (left : KeepsPages first second)
    (right : KeepsPages second third) : KeepsPages first third where
  length := Nat.le_trans left.length right.length
  page known := (right.page (Nat.lt_of_lt_of_le known left.length)).trans (left.page known)

end Store.KeepsPages

/-- What the engines know is what is provided. -/
structure World.Faithful (provision : Provision) (own : Option String) (world : World) : Prop where
  brings : world.source.Brings world.config provision own
  pages : ∀ {id : ContextId} {key : String}, (world.store.context id).key = some key →
    provision.page? key = some (world.store.page id)
  links : ∀ {id : ContextId} {ids : List ContextId},
    (world.store.context id).includes.value = some ids →
    ids.map world.store.page = provision.links (world.store.page id)
  libraries : ∀ {engine : Nat} {entries : List LibraryEntry},
    (world.library engine).value = some entries → provision.listing = .ok entries

/-- Something is done that is faithful to what is provided. -/
structure World.Upholds (provision : Provision) (own : Option String) (world after : World) :
    Prop where
  faithful : after.Faithful provision own
  pages : world.store.KeepsPages after.store

variable {provision : Provision} {own : Option String} {owners : List String}
  {clients : Attendance} {world after : World} {engine : Nat}

/-- The document under the key `own` is stored, if there is such a key. -/
def World.Stores (world : World) (own : Option String) : Prop :=
  ∀ {key : String}, own = some key → world.registry.get? key ≠ none

namespace World

/-- A key without a document is another one. -/
theorem Stores.ne (stores : world.Stores own) {key : String}
    (missing : world.registry.get? key = none) : own ≠ some key :=
  fun same => stores same missing

theorem Upholds.refl (faithful : world.Faithful provision own) :
    world.Upholds provision own world :=
  ⟨faithful, .refl _⟩

/-- What is done next. -/
theorem Upholds.trans {next : World} (first : world.Upholds provision own next)
    (second : next.Upholds provision own after) : world.Upholds provision own after :=
  ⟨second.faithful, first.pages.trans second.pages⟩

namespace Faithful

/-- Engines that know nothing are faithful to what their source brings. -/
theorem initial {config : Config} {source : Source} (brings : source.Brings config provision own)
    (engines : Nat) : (World.initial config source engines).Faithful provision own where
  brings := brings
  pages := nofun
  links := nofun
  libraries {engine entries} known := by
    rw [World.library_initial] at known
    cases known

/-- A document is fetched as it is provided. -/
theorem fetchDocument (faithful : world.Faithful provision own) {key : String}
    (other : own ≠ some key) :
    (world.fetchDocument key).2.outcome = provision.documents key :=
  faithful.brings.document other

/-- The listing is fetched as it is provided. -/
theorem fetchListing (faithful : world.Faithful provision own) :
    world.fetchListing.2.outcome = provision.listing :=
  faithful.brings.listing world.attempts

/-- Neither a page changes nor what is known of includes and listings. -/
theorem change (faithful : world.Faithful provision own)
    (brings : after.source.Brings after.config provision own)
    (length : after.store.length = world.store.length)
    (pages : after.store.page = world.store.page)
    (includes : ∀ id, (after.store.context id).includes.value =
      (world.store.context id).includes.value)
    (libraries : after.libraries = world.libraries) : world.Upholds provision own after := by
  refine ⟨⟨brings, fun {id key} keyed => ?_, fun {id ids} known => ?_,
    fun {engine entries} known => ?_⟩, Nat.le_of_eq length.symm, fun _ => congrFun pages _⟩
  · rw [congrFun pages id]
    exact faithful.pages ((congrArg Page.key (congrFun pages id)).symm.trans keyed)
  · rw [pages]
    exact faithful.links ((includes id).symm.trans known)
  · rw [library, libraries] at known
    exact faithful.libraries known

/-- Nothing is done to documents and listings. -/
theorem later (faithful : world.Faithful provision own)
    (brings : after.source.Brings after.config provision own) (store : after.store = world.store)
    (libraries : after.libraries = world.libraries) : world.Upholds provision own after :=
  faithful.change brings (by rw [store]) (by rw [store]) (fun _ => by rw [store]) libraries

/-- More symbols are extracted. -/
theorem extractAll (faithful : world.Faithful provision own) (entered : List ContextId) :
    world.Upholds provision own { world with store := world.store.extractAll entered } :=
  have same := world.store.sameLinks_extractAll entered
  faithful.change faithful.brings same.length (world.store.page_extractAll entered)
    (fun id => by rw [same.includes]) rfl

/-- A document is added of which nothing has been resolved and which is as it is provided. -/
theorem addContext (faithful : world.Faithful provision own) (linked : world.store.Linked)
    (key? : Option String) (root : Root)
    (provided : ∀ {key : String}, key? = some key →
      provision.page? key = some (Context.fresh key? root).page) :
    world.Upholds provision own (world.addContext (.fresh key? root)).1 := by
  have pages : world.store.KeepsPages (world.store.add (.fresh key? root)).1 :=
    ⟨(world.store.grows_add _).length, fun known => by
      rw [Store.page, Store.context_add_of_lt known, Store.page]⟩
  refine ⟨⟨faithful.brings, fun {id key} keyed => ?_, fun {id ids} known => ?_,
    faithful.libraries⟩, pages⟩
  · have keyed : ((world.store.add (.fresh key? root)).1.context id).key = some key := keyed
    have there : id < (world.store.add (.fresh key? root)).1.length :=
      Store.lt_length_of_key (by simp [keyed])
    rcases Store.context_add_cases there with ⟨older, same⟩ | ⟨rfl, same⟩
    · rw [same] at keyed
      exact (faithful.pages keyed).trans (congrArg some (pages.page older).symm)
    · rw [same] at keyed
      exact (provided keyed).trans (congrArg (some ∘ Context.page) same.symm)
  · have known : ((world.store.add (.fresh key? root)).1.context id).includes.value = some ids :=
      known
    have there : id < (world.store.add (.fresh key? root)).1.length :=
      Store.lt_length_of_includes (.inl (by simp [known]))
    rcases Store.context_add_cases there with ⟨older, same⟩ | ⟨-, same⟩
    · rw [same] at known
      refine Eq.trans ?_ ((faithful.links known).trans
        (congrArg provision.links (pages.page older).symm))
      refine List.map_congr_left fun other listed => ?_
      exact pages.page (Store.lt_length_of_key (linked known other listed))
    · rw [same] at known
      cases known

/-- The includes of a document become known as they are provided. -/
theorem resolve (faithful : world.Faithful provision own) {target : ContextId}
    {ids : List ContextId} (known : target < world.store.length)
    (provided : ids.map world.store.page = provision.links (world.store.page target)) :
    world.Upholds provision own { world with store := world.store.resolve target ids } := by
  have pages : (world.store.resolve target ids).page = world.store.page := by
    funext id
    apply Store.read_update Context.page
    exact fun _ => rfl
  refine ⟨⟨faithful.brings, fun {id key} keyed => ?_, fun {id others} value => ?_,
    faithful.libraries⟩, by simp [Store.resolve, Store.update], fun _ => congrFun pages _⟩
  · rw [pages]
    refine faithful.pages (Eq.trans ?_ keyed)
    exact (congrArg Page.key (congrFun pages id)).symm
  · rw [pages]
    by_cases here : id = target
    · subst here
      simp only [Store.resolve] at value
      rw [Store.context_update_self known] at value
      cases value
      exact provided
    · simp only [Store.resolve] at value
      rw [Store.context_update_of_ne here] at value
      exact faithful.links value

/-- Something is done to a listing that is not known, perhaps with a new number. -/
theorem setLibrary (faithful : world.Faithful provision own) (cell : Cell (List LibraryEntry))
    (nextCall : Nat) (known : engine < world.libraries.length)
    (provided : ∀ {entries : List LibraryEntry}, cell.value = some entries →
      provision.listing = .ok entries) :
    world.Upholds provision own (World.setLibrary { world with nextCall } engine cell) := by
  refine ⟨⟨faithful.brings, faithful.pages, faithful.links, fun {other entries} value => ?_⟩,
    .refl _⟩
  by_cases here : other = engine
  · subst here
    have same : (World.setLibrary { world with nextCall } other cell).library other = cell :=
      Orderly.library_setLibrary_self known
    rw [same] at value
    exact provided value
  · have same : (World.setLibrary { world with nextCall } engine cell).library other =
        world.library other := Orderly.library_setLibrary_of_ne here
    rw [same] at value
    exact faithful.libraries value

end Faithful

end World

/-! ## Calls -/

namespace Lookup

/-- A lookup brings the listing that is provided. -/
def Honest (provision : Provision) : Lookup → Prop
  | .arriving => True
  | .queued _ => True
  | .fetching pending => pending.outcome = provision.listing
  | .returned result => provision.listing = result

theorem proceed_honest (faithful : world.Faithful provision own) (call : Nat)
    (standing : Cell.Standing (List LibraryEntry))
    (found : ∀ {entries : List LibraryEntry}, standing = .found entries →
      provision.listing = .ok entries) :
    world.Upholds provision own (proceed world call standing).1 ∧
      (proceed world call standing).2.Honest provision := by
  cases standing with
  | found entries => exact ⟨.refl faithful, found rfl⟩
  | queued => exact ⟨.refl faithful, trivial⟩
  | holding =>
    exact ⟨faithful.later faithful.brings rfl rfl, faithful.fetchListing⟩

theorem Turn.honest {lookup : Lookup} {outcome : World × Lookup}
    (turn : Turn engine world lookup outcome) (faithful : world.Faithful provision own)
    (known : engine < world.libraries.length) (honest : lookup.Honest provision) :
    world.Upholds provision own outcome.1 ∧ outcome.2.Honest provision := by
  cases turn with
  | @arrive cell standing entry =>
    have same : cell.value = (world.library engine).value := by cases entry <;> rfl
    have entered := faithful.setLibrary cell (world.nextCall + 1) known
      fun value => faithful.libraries (same ▸ value)
    obtain ⟨proceeded, honest⟩ := proceed_honest entered.faithful world.nextCall standing
      fun found => by
        cases entry with
        | found value =>
          cases found
          exact faithful.libraries value
        | queued empty held => cases found
        | holding empty free => cases found
    exact ⟨entered.trans proceeded, honest⟩
  | receive filled => exact ⟨.refl faithful, faithful.libraries filled⟩
  | takeOver empty held =>
    exact ⟨faithful.later faithful.brings rfl rfl, faithful.fetchListing⟩
  | @deliver pending entries ended good =>
    have provided : provision.listing = .ok entries := honest.symm.trans good
    refine ⟨faithful.setLibrary _ _ known fun value => ?_, provided⟩
    cases value
    exact provided
  | @fail pending error ended bad =>
    have provided : provision.listing = .error error := honest.symm.trans bad
    refine ⟨faithful.setLibrary _ _ known fun value => ?_, provided⟩
    rw [Cell.value_release] at value
    exact faithful.libraries value

end Lookup

namespace Load

/-- A load brings the page that is provided for a key. Nobody queues for the document under the key
`own`, which is stored. -/
def Honest (provision : Provision) (own : Option String) (key : String) (world : World) :
    Load → Prop
  | .arriving asked => asked = key
  | .queued asked _ _ => asked = key ∧ own ≠ some key
  | .fetching asked _ pending => asked = key ∧ pending.outcome = provision.documents key
  | .returned (.ok id) => provision.page? key = some (world.store.page id)
  | .returned (.error _) => provision.page? key = none

/-- A document with a page that is provided is there. -/
theorem known_of_page {key : String} {id : ContextId}
    (provided : provision.page? key = some (world.store.page id)) : id < world.store.length := by
  have keyed : (world.store.context id).key = some key := Provision.key_of_page? provided
  exact Store.lt_length_of_key (by simp [keyed])

theorem Honest.mono {key : String} {load : Load} (honest : load.Honest provision own key world)
    (pages : world.store.KeepsPages after.store) : load.Honest provision own key after := by
  cases load with
  | arriving asked => exact honest
  | queued asked call slot => exact honest
  | fetching asked slot pending => exact honest
  | returned result =>
    cases result with
    | ok id =>
      rw [Honest, pages.page (known_of_page honest)]
      exact honest
    | error error => exact honest

theorem Turn.honest {key : String} {load : Load} {outcome : World × Load}
    (turn : Turn world load outcome) (orderly : world.Orderly owners clients)
    (faithful : world.Faithful provision own) (stores : world.Stores own)
    (sound : load.Sound owners world) (honest : load.Honest provision own key world) :
    world.Upholds provision own outcome.1 ∧ outcome.2.Honest provision own key outcome.1 := by
  -- What is stored in a slot of the key has the page of the key.
  have stored {slot : SlotId} {id : ContextId} (owner : owners[slot]? = some key)
      (filled : (world.registry.cell slot).value = some id) :
      provision.page? key = some (world.store.page id) :=
    faithful.pages ((orderly.stored filled).trans owner)
  cases turn with
  | arrive arrival =>
    cases honest
    have entered {registry : Registry} : world.Upholds provision own
        { world with registry, nextCall := world.nextCall + 1 } :=
      faithful.later faithful.brings rfl rfl
    have fetching {registry : Registry} : world.Upholds provision own
        (World.fetchDocument { world with registry, nextCall := world.nextCall + 1 } key).1 :=
      faithful.later faithful.brings rfl rfl
    cases arrival with
    | found shown => exact ⟨entered, stored (orderly.current shown.1) shown.2⟩
    | queued current empty held =>
      exact ⟨entered, rfl, stores.ne (Registry.get?_of_empty current empty)⟩
    | holding current empty free =>
      have other := stores.ne (Registry.get?_of_empty current empty)
      exact ⟨fetching, rfl, entered.faithful.fetchDocument other⟩
    | claimed missing =>
      have other := stores.ne (Registry.get?_of_missing missing)
      exact ⟨fetching, rfl, entered.faithful.fetchDocument other⟩
  | receive filled =>
    obtain ⟨rfl, -⟩ := honest
    exact ⟨.refl faithful, stored sound filled⟩
  | takeOver empty held =>
    obtain ⟨rfl, other⟩ := honest
    exact ⟨faithful.later faithful.brings rfl rfl, rfl, faithful.fetchDocument other⟩
  | @deliver asked slot pending context ended good =>
    obtain ⟨rfl, brought⟩ := honest
    rw [brought] at good
    obtain ⟨root, rfl⟩ := fresh_of_loaded good
    have provided := Provision.page?_of_loaded good
    have added := faithful.addContext orderly.linked (some asked) root
      fun same => by
        cases same
        exact provided
    have filled : world.Upholds provision own
        { (world.addContext (.fresh (some asked) root)).1 with
          registry := world.registry.succeed slot world.store.length } :=
      added.trans (added.faithful.later faithful.brings rfl rfl)
    refine ⟨filled, provided.trans (congrArg some ?_)⟩
    exact (congrArg Context.page (Store.context_add_self world.store _)).symm
  | @fail asked slot pending error ended bad =>
    obtain ⟨rfl, brought⟩ := honest
    rw [brought] at bad
    exact ⟨faithful.later faithful.brings rfl rfl, Provision.page?_of_failed bad⟩

end Load

/-! ## Includes -/

namespace Keying

/-- An include of a document with the key `base` is resolved to the key that is provided. -/
def Honest (provision : Provision) (base : Option String) (content : Include) : Keying → Prop
  | .pending asked => asked = content
  | .looking path lookup =>
    content.kind = .standard ∧ path = content.target.value ∧ lookup.Honest provision
  | .settled key => provision.key? base content = key

theorem Turn.honest {base : Option String} {content : Include} {keying : Keying}
    {outcome : World × Keying} (turn : Turn engine base world keying outcome)
    (faithful : world.Faithful provision own) (known : engine < world.libraries.length)
    (honest : keying.Honest provision base content) :
    world.Upholds provision own outcome.1 ∧ outcome.2.Honest provision base content := by
  cases turn with
  | look kind =>
    cases honest
    exact ⟨.refl faithful, kind, rfl, trivial⟩
  | url kind =>
    cases honest
    exact ⟨.refl faithful, by simp only [Honest, Provision.key?, kind]⟩
  | path kind =>
    cases honest
    exact ⟨.refl faithful, by simp only [Honest, Provision.key?, kind]⟩
  | lookup turn =>
    obtain ⟨kind, path, honest⟩ := honest
    obtain ⟨upholds, honest⟩ := turn.honest faithful known honest
    exact ⟨upholds, kind, path, honest⟩
  | listed =>
    obtain ⟨kind, rfl, listed⟩ := honest
    have listed : provision.listing = .ok _ := listed
    refine ⟨.refl faithful, ?_⟩
    simp only [Honest, Provision.key?, kind, listed, faithful.brings.extension]
  | unlisted =>
    obtain ⟨kind, rfl, unlisted⟩ := honest
    have unlisted : provision.listing = .error _ := unlisted
    refine ⟨.refl faithful, ?_⟩
    simp only [Honest, Provision.key?, kind, unlisted]

end Keying

namespace Inclusion

/-- An include of a document with the key `base` is resolved to a document with the page to which it
leads. -/
def Honest (provision : Provision) (own base : Option String) (world : World) (content : Include) :
    Inclusion → Prop
  | .keying state => state.Honest provision base content
  | .loading load => ∃ key, provision.key? base content = some key ∧
      load.Honest provision own key world
  | .settled found => provision.target? base content = found.map world.store.page

variable {base : Option String} {content : Include} {inclusion : Inclusion}

theorem Honest.mono (honest : inclusion.Honest provision own base world content)
    (pages : world.store.KeepsPages after.store) :
    inclusion.Honest provision own base after content := by
  cases inclusion with
  | keying state => exact honest
  | loading load =>
    obtain ⟨key, keyed, honest⟩ := honest
    exact ⟨key, keyed, honest.mono pages⟩
  | settled found =>
    cases found with
    | none => exact honest
    | some id =>
      have provided : provision.target? base content = some (world.store.page id) := honest
      obtain ⟨key, keyed, loaded⟩ := Option.bind_eq_some_iff.mp provided
      rw [Honest, Option.map_some, pages.page (Load.known_of_page loaded)]
      exact provided

theorem Turn.honest {outcome : World × Inclusion} (turn : Turn engine base world inclusion outcome)
    (orderly : world.Orderly owners clients) (faithful : world.Faithful provision own)
    (stores : world.Stores own) (known : engine < world.libraries.length)
    (sound : inclusion.Sound owners world)
    (honest : inclusion.Honest provision own base world content) :
    world.Upholds provision own outcome.1 ∧
      outcome.2.Honest provision own base outcome.1 content := by
  cases turn with
  | unresolved =>
    have keyless : provision.key? base content = none := honest
    exact ⟨.refl faithful, by simp [Honest, Provision.target?, keyless]⟩
  | resolved => exact ⟨.refl faithful, _, honest, rfl⟩
  | keying turn =>
    obtain ⟨upholds, honest⟩ := turn.honest faithful known honest
    exact ⟨upholds, honest⟩
  | load turn =>
    obtain ⟨key, keyed, honest⟩ := honest
    obtain ⟨upholds, honest⟩ := turn.honest orderly faithful stores sound honest
    exact ⟨upholds, key, keyed, honest⟩
  | loaded =>
    obtain ⟨key, keyed, honest⟩ := honest
    have provided : provision.page? key = some (world.store.page _) := honest
    exact ⟨.refl faithful, by simp [Honest, Provision.target?, keyed, provided]⟩
  | failed =>
    obtain ⟨key, keyed, honest⟩ := honest
    have missing : provision.page? key = none := honest
    exact ⟨.refl faithful, by simp [Honest, Provision.target?, keyed, missing]⟩

end Inclusion

end DiagramAssist
