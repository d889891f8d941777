import DiagramAssist.Proofs.Engine.Traffic

/-! # What a source provides

As long as a source provides the same for every address and the same listing, whatever the delays,
the documents behind the addresses make up a chart, which no engine has to explore: a page links to
the pages of its includes, in the order in which they are written, without those that cannot be
resolved or loaded. A query is to be answered as its trail on this chart says (`Provision.Answers`).
-/

namespace DiagramAssist

/-- What a source brings for every address and as its listing, in the end and without regard to
delays; and the extension that paths of the listing may lack. -/
structure Provision where
  documents : String → Except FetchError Payload
  listing : Except FetchError (List LibraryEntry)
  extension : String

/-- A source provides something to engines with a configuration: its outcomes are fixed, and it
never takes longer than allowed. -/
structure Source.Provides (source : Source) (config : Config) (provision : Provision) : Prop where
  extension : config.extension = provision.extension
  document : ∀ url, (source.document url).outcome = provision.documents url
  documentInTime : ∀ {limit : Nat}, config.timeout? = some limit →
    ∀ url, (source.document url).delay ≤ limit
  listing : ∀ attempt, (source.listing attempt).outcome = provision.listing
  listingInTime : ∀ {limit : Nat}, config.timeout? = some limit →
    ∀ attempt, (source.listing attempt).delay ≤ limit

/-- A source brings what is provided, time limits considered. The document under the key `own` may
be another one: it is stored, and nobody fetches it. -/
structure Source.Brings (source : Source) (config : Config) (provision : Provision)
    (own : Option String) : Prop where
  extension : config.extension = provision.extension
  document : ∀ {url : String}, own ≠ some url →
    ((source.document url).limited url config.timeout?).outcome = provision.documents url
  listing : ∀ attempt,
    ((source.listing attempt).limited World.listingName config.timeout?).outcome =
      provision.listing

/-- What a source brings at first. -/
def Source.provision (source : Source) (config : Config) : Provision :=
  ⟨fun url => (source.document url).outcome, (source.listing 0).outcome, config.extension⟩

/-- A supply that comes in time is not cut off. -/
theorem Supply.limited_of_le {α : Type} {supply : Supply α} {limit? : Option Nat}
    (inTime : ∀ {limit : Nat}, limit? = some limit → supply.delay ≤ limit) (name : String) :
    supply.limited name limit? = supply := by
  cases limit? with
  | none => rfl
  | some limit => rw [Supply.limited, if_neg (Nat.not_lt.mpr (inTime rfl))]

/-- A source that never takes too long brings what it provides. -/
theorem Source.Provides.brings {source : Source} {config : Config} {provision : Provision}
    (provides : source.Provides config provision) (own : Option String) :
    source.Brings config provision own where
  extension := provides.extension
  document {url} _ := by
    rw [Supply.limited_of_le fun limit => provides.documentInTime limit url]
    exact provides.document url
  listing attempt := by
    rw [Supply.limited_of_le fun limit => provides.listingInTime limit attempt]
    exact provides.listing attempt

namespace Provision

variable (provision : Provision)

/-- The page of the document behind a key, if it can be loaded. -/
def page? (key : String) : Option Page :=
  match loaded key (provision.documents key) with
  | .ok context => some context.page
  | .error _ => none

/-- The key of an include of a document with the key `base`. -/
def key? (base : Option String) (content : Include) : Option String :=
  match content.kind with
  | .standard =>
    match provision.listing with
    | .ok entries => LibraryEntry.resolve? entries provision.extension content.target.value
    | .error _ => none
  | .url => some content.target.value
  | .path => resolvePath? base content.target.value

/-- The page that an include of a document with the key `base` leads to, if there is one. -/
def target? (base : Option String) (content : Include) : Option Page :=
  (provision.key? base content).bind provision.page?

/-- The pages that a page includes, in the order in which they are written. -/
def links (page : Page) : List Page :=
  page.table.includes.filterMap (provision.target? page.key)

/-- All that can be reached. -/
def chart : Chart Page where
  key := Page.key
  links page := some (provision.links page)

/-- What a query about a page is to be answered with. -/
def Answers (query : Query) (page : Page) (reply : Reply) : Prop :=
  ∃ final finish, provision.chart.Trail query.stops [] [page] final finish ∧
    reply = query.answer finish final

variable {provision}

theorem Answers.unique {query : Query} {page : Page} {reply reply' : Reply}
    (answers : provision.Answers query page reply)
    (answers' : provision.Answers query page reply') : reply = reply' := by
  obtain ⟨final, finish, trail, rfl⟩ := answers
  obtain ⟨final', finish', trail', rfl⟩ := answers'
  obtain ⟨rfl, rfl⟩ := trail.unique trail'
  rfl

theorem page?_of_loaded {key : String} {context : Context}
    (good : loaded key (provision.documents key) = .ok context) :
    provision.page? key = some context.page := by
  rw [page?, good]

theorem page?_of_failed {key : String} {error : LoadError}
    (bad : loaded key (provision.documents key) = .error error) : provision.page? key = none := by
  rw [page?, bad]

/-- The page behind a key has this key. -/
theorem key_of_page? {key : String} {page : Page} (found : provision.page? key = some page) :
    page.key = some key := by
  rw [page?] at found
  split at found
  · next context good =>
    cases found
    obtain ⟨root, rfl⟩ := Load.fresh_of_loaded good
    rfl
  · cases found

end Provision

end DiagramAssist
