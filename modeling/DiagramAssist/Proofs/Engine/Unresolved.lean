import DiagramAssist.Proofs.Engine.Fresh
import DiagramAssist.Proofs.Grammar.Omission
import DiagramAssist.Service

/-! # Includes that lead nowhere

An include whose target has no key, or whose document cannot be fetched, decoded or parsed, might as
well not be written: a fresh engine answers about the document as it does about the document without
the line (`Traffic.answered_alike_without_include`).

Both documents are answered about as their trails say, each on a chart of its own, since a document
with a key is stored under it and may be included by others. But a trail never comes back to the
document at which it has begun, so it does not matter which of the two it is, nor how often it is
included. Apart from that both charts are the same, and so are the links of both documents.
-/

namespace DiagramAssist

/-- What a source brings, time limits considered. -/
def Source.brought (source : Source) (config : Config) : Provision where
  documents url := ((source.document url).limited url config.timeout?).outcome
  listing := ((source.listing 0).limited World.listingName config.timeout?).outcome
  extension := config.extension

/-- A source lists the library at every attempt as it does at first. What it has at an address does
not change anyway. -/
def Source.IsSteady (source : Source) (config : Config) : Prop :=
  ∀ attempt, ((source.listing attempt).limited World.listingName config.timeout?).outcome =
    (source.brought config).listing

theorem Source.IsSteady.brings {source : Source} {config : Config}
    (steady : source.IsSteady config) :
    source.Brings config (source.brought config) Option.none :=
  ⟨rfl, fun _ => rfl, steady⟩

/-- Two replies say the same: they are no errors, they have the same items, and as messages they are
the same. -/
structure Reply.Agrees (reply other : Reply) : Prop where
  items : ∀ {items : List Item}, reply = .items items ↔ other = .items items
  value : ∃ value, reply.value = .ok value ∧ other.value = .ok value

/-! ## Twins -/

namespace Provision

variable {provision : Provision} {own base : Option String} {content : Include}

/-- The page that an include of a document with the key `base` leads to, if it leads to a page that
is not under the key `own`. -/
def elsewhere? (provision : Provision) (own base : Option String) (content : Include) :
    Option Page :=
  (provision.key? base content).bind fun key =>
    if own = some key then none else provision.page? key

/-- An include that leads nowhere leads nowhere else. -/
theorem elsewhere?_of_unresolved (unresolved : provision.target? base content = none) :
    provision.elsewhere? own base content = none := by
  rw [target?, Option.bind_eq_none_iff] at unresolved
  refine Option.bind_eq_none_iff.mpr fun key found => ?_
  rw [unresolved key found, ite_self]

theorem elsewhere?_shift (distance : Nat) (content : Include) :
    provision.elsewhere? own base (content.shift distance) =
      provision.elsewhere? own base content := rfl

def isUnder (own : Option String) (page : Page) : Bool :=
  own.isSome && page.key == own

/-- Whatever document is stored under the key `own`, a page links to the same pages elsewhere. -/
theorem links_storing (text : String) (page : Page) :
    ((provision.storing own text).links page).filter (!isUnder own ·) =
      page.table.includes.filterMap (provision.elsewhere? own page.key) := by
  rw [links, List.filter_filterMap]
  refine congrArg (page.table.includes.filterMap ·) (funext fun content => ?_)
  rw [target?, elsewhere?]
  change Option.filter _ ((provision.key? page.key content).bind _) = _
  cases provision.key? page.key content with
  | none => rfl
  | some key =>
    rw [Option.bind_some, Option.bind_some]
    by_cases here : own = some key
    · rw [if_pos here, Option.filter_eq_none_iff]
      intro found provided
      simp [isUnder, here, key_of_page? provided]
    · rw [if_neg here, page?_storing_of_ne here]
      cases provided : provision.page? key with
      | none => rfl
      | some found =>
        have other : isUnder own found = false := by
          simp [isUnder, key_of_page? provided, Ne.symm here]
        rw [Option.filter_some, other, Bool.not_false, if_pos rfl]

/-- Behind a page under the key `own`, both charts show the same. -/
theorem alike_storing (text text' : String) :
    Chart.Alike (isUnder own) (provision.storing own text).chart
      (provision.storing own text').chart where
  key := rfl
  links {page} _ := by
    simp only [chart, Option.map_some, links_storing]

end Provision

/-- Two documents with the key `own`, or without a key, that tell the same and include the same
elsewhere. -/
structure Page.Twins (provision : Provision) (own : Option String) (page other : Page) : Prop where
  key : page.key = own
  otherKey : other.key = own
  echoes : page.table.Echoes other.table
  includes : page.table.includes.filterMap (provision.elsewhere? own own) =
    other.table.includes.filterMap (provision.elsewhere? own own)

namespace Page.Twins

variable {provision : Provision} {own : Option String} {page other : Page} {query : Query}
  {reply : Reply}

theorem symm (twins : page.Twins provision own other) : other.Twins provision own page :=
  ⟨twins.otherKey, twins.key, twins.echoes.symm, twins.includes.symm⟩

theorem stops (twins : page.Twins provision own other) (query : Query) :
    query.stops other = query.stops page := by
  have found (name : String) :
      (other.table.callable? name).isSome = (page.table.callable? name).isSome := by
    have same := congrArg Option.isSome (twins.echoes.callable? name)
    rwa [Option.isSome_map, Option.isSome_map, eq_comm] at same
  cases query with
  | suggestions range filter => rfl
  | arguments name range => exact found name
  | callable name => exact found name

/-- The callables at which two walks have stopped tell the same, if there are any. -/
theorem found? (twins : page.Twins provision own other) (name : String) (finish : Finish)
    (behind : List Page) :
    (Query.found? name finish (behind ++ [page]) = none ∧
        Query.found? name finish (behind ++ [other]) = none) ∨
      ∃ callable callable' origin, Callable.summary callable = Callable.summary callable' ∧
        Query.found? name finish (behind ++ [page]) = some ⟨callable, origin⟩ ∧
        Query.found? name finish (behind ++ [other]) = some ⟨callable', origin⟩ := by
  cases finish with
  | complete => exact .inl ⟨rfl, rfl⟩
  | blocked => exact .inl ⟨rfl, rfl⟩
  | stopped =>
    cases behind with
    | nil =>
      have same := twins.echoes.callable? name
      simp only [List.nil_append, Query.found?, twins.key, twins.otherKey]
      cases found : page.table.callable? name with
      | none =>
        rw [found, Option.map_none, eq_comm, Option.map_eq_none_iff] at same
        exact .inl ⟨rfl, by rw [same]; rfl⟩
      | some callable =>
        rw [found, Option.map_some, eq_comm, Option.map_eq_some_iff] at same
        obtain ⟨callable', found', same⟩ := same
        exact .inr ⟨callable, callable', own, same.symm, rfl, by rw [found']; rfl⟩
    | cons last behind =>
      simp only [List.cons_append, Query.found?]
      cases last.table.callable? name with
      | none => exact .inl ⟨rfl, rfl⟩
      | some callable => exact .inr ⟨callable, callable, last.key, rfl, rfl, rfl⟩

/-- Walks that differ only in the page at which they have begun are answered alike. -/
theorem agrees (twins : page.Twins provision own other) (query : Query) (finish : Finish)
    (behind : List Page) :
    (query.answer finish (behind ++ [page])).Agrees (query.answer finish (behind ++ [other])) := by
  cases query with
  | suggestions range filter =>
    have same : Query.items range filter (behind ++ [page]).reverse =
        Query.items range filter (behind ++ [other]).reverse := by
      simp only [List.reverse_append, List.reverse_singleton, List.singleton_append, Query.items,
        twins.echoes.items]
    rw [Query.answer, Query.answer, same]
    exact ⟨Iff.rfl, _, rfl, rfl⟩
  | arguments name range =>
    simp only [Query.answer]
    obtain ⟨missing, missing'⟩ | ⟨callable, callable', origin, same, found, found'⟩ :=
      twins.found? name finish behind
    · rw [missing, missing']
      exact ⟨Iff.rfl, _, rfl, rfl⟩
    · rw [found, found', Option.elim_some, Option.elim_some, Callable.argumentItems_eq same]
      exact ⟨Iff.rfl, _, rfl, rfl⟩
  | callable name =>
    simp only [Query.answer]
    refine ⟨by simp, ?_⟩
    obtain ⟨missing, missing'⟩ | ⟨callable, callable', origin, same, found, found'⟩ :=
      twins.found? name finish behind
    · rw [missing, missing']
      exact ⟨_, rfl, rfl⟩
    · rw [found, found']
      exact ⟨_, rfl, congrArg Except.ok (Callable.toJson_eq same origin).symm⟩

/-- Where one page is answered about, its twin is answered about alike. -/
theorem answers (twins : page.Twins provision own other) (text text' : String)
    (answers : (provision.storing own text).Answers query page reply) :
    ∃ reply', (provision.storing own text').Answers query other reply' ∧ reply.Agrees reply' := by
  obtain ⟨final, finish, trail, rfl⟩ := answers
  have new (provision : Provision) (page : Page) : provision.chart.IsNew [] page := nofun
  obtain ⟨behind, rfl, exchanged⟩ : ∃ behind, final = behind ++ [page] ∧
      (provision.storing own text').chart.Trail query.stops [] [other] (behind ++ [other])
        finish := by
    cases trail with
    | skip seen => exact (seen (new _ _)).elim
    | stop _ stop => exact ⟨[], rfl, .stop (new _ _) ((twins.stops query).trans stop)⟩
    | block _ _ unknown => cases unknown
    | enter _ goes known rest =>
      cases known
      have keyed {found : Page} (under : Provision.isUnder own found = true) :
          found.key ≠ none ∧ found.key = page.key := by
        simp only [Provision.isUnder, Bool.and_eq_true, beq_iff_eq] at under
        obtain ⟨some, same⟩ := under
        exact ⟨by rw [same]; exact Option.isSome_iff_ne_none.mp some, same.trans twins.key.symm⟩
      have ahead : ((provision.storing own text').links other ++ []).filter
            (!Provision.isUnder own ·) =
          ((provision.storing own text).links page ++ []).filter (!Provision.isUnder own ·) := by
        rw [List.append_nil, List.append_nil, Provision.links_storing, Provision.links_storing,
          twins.key, twins.otherKey, twins.includes]
      obtain ⟨behind, rfl, trail⟩ := rest.exchange
        (Provision.alike_storing text text') (twins.otherKey.trans twins.key.symm) keyed ahead
      exact ⟨behind, rfl, .enter (new _ _) ((twins.stops query).trans goes) rfl trail⟩
  exact ⟨_, ⟨_, _, exchanged, rfl⟩, twins.agrees query finish behind⟩

end Page.Twins

/-- A document with an include that leads nowhere and the document without the line are twins. -/
theorem IncludeSite.twins {site : IncludeSite} {provision : Provision} {own : Option String}
    {root root' : Root} (parsed : parse site.document = .ok root)
    (parsed' : parse site.remainder = .ok root')
    (unresolved : provision.target? own site.content = none) :
    (Context.fresh own root).page.Twins provision own (Context.fresh own root').page where
  key := rfl
  otherKey := rfl
  echoes := site.echoes parsed parsed'
  includes := site.filterMap_includes parsed parsed' Provision.elsewhere?_shift
    (Provision.elsewhere?_of_unresolved unresolved)

namespace Traffic

/-- A fresh engine answers about a document with an include that leads nowhere just if it answers
about the document without the line, and then it answers the same. -/
theorem answered_alike_without_include (site : IncludeSite) {config : Config} {source : Source}
    (steady : source.IsSteady config) {own : Option String}
    (unresolved : (source.brought config).target? own site.content = none) (query : Query) :
    ((∃ reply, AnsweredAfresh config source ⟨own, site.document, query⟩ reply) ↔
      ∃ reply, AnsweredAfresh config source ⟨own, site.remainder, query⟩ reply) ∧
    ∀ {reply reply' : Reply},
      AnsweredAfresh config source ⟨own, site.document, query⟩ reply →
        AnsweredAfresh config source ⟨own, site.remainder, query⟩ reply' →
          reply.Agrees reply' := by
  obtain ⟨root, root', -, -, -, -, parsed, parsed', -⟩ := site.exists_nodes
  have twins := IncludeSite.twins parsed parsed' unresolved
  -- Both documents parse, so that each is answered about as its trail says.
  simp only [answeredAfresh_iff steady.brings parsed, answeredAfresh_iff steady.brings parsed']
  refine ⟨⟨?_, ?_⟩, fun {reply reply'} answered answered' => ?_⟩
  · rintro ⟨reply, answered⟩
    obtain ⟨reply', answered', -⟩ := twins.answers site.document site.remainder answered
    exact ⟨reply', answered'⟩
  · rintro ⟨reply', answered'⟩
    obtain ⟨reply, answered, -⟩ := twins.symm.answers site.remainder site.document answered'
    exact ⟨reply, answered⟩
  · obtain ⟨found, expected, agrees⟩ :=
      twins.answers site.document site.remainder answered
    rwa [expected.unique answered'] at agrees

/-- A source with one document that parses and one that does not. -/
def halfBroken : Source :=
  (Source.none.withDocument "mem:good" ⟨0, .ok ⟨"!define C", .utf8⟩⟩).withDocument "mem:broken"
    ⟨0, .ok ⟨"!function", .utf8⟩⟩

theorem answered_alike_without_broken_include : ∃ (site : IncludeSite) (reply reply' : Reply),
    site.line = "!includeurl mem:broken\n" ∧
    site.remainder = "!define A\n!includeurl mem:good\n!define B\n" ∧
    halfBroken.IsSteady .standard ∧
    (halfBroken.brought .standard).target? (some "mem:own") site.content = none ∧
    AnsweredAfresh .standard halfBroken
      ⟨some "mem:own", site.document, .suggestions default .all⟩ reply ∧
    AnsweredAfresh .standard halfBroken
      ⟨some "mem:own", site.remainder, .suggestions default .all⟩ reply' ∧
    reply.Agrees reply' ∧ labels reply' = ["A", "B", "C"] := by
  have steady : halfBroken.IsSteady .standard := fun _ => rfl
  have included : (inclusion? "!includeurl mem:broken\n").map
      (fun content => (content.kind, content.target.value)) = some (.url, "mem:broken") := by
    decide +kernel
  obtain ⟨content, single, included⟩ := Option.map_eq_some_iff.mp included
  obtain ⟨kind, target⟩ := Prod.mk.inj included
  have broken : ((halfBroken.brought .standard).page? "mem:broken").isNone = true := by
    decide +kernel
  have leads : (halfBroken.brought .standard).key? (some "mem:own") content =
      some "mem:broken" := by
    simp only [Provision.key?, kind, target]
  have unresolved : (halfBroken.brought .standard).target? (some "mem:own") content = none := by
    rw [Provision.target?, leads, Option.bind_some]
    exact Option.isNone_iff_eq_none.mp broken
  let site : IncludeSite :=
    { before := "!define A\n"
      line := "!includeurl mem:broken\n"
      behind := "!includeurl mem:good\n!define B\n"
      content
      whole := .inr (by decide +kernel)
      closed := by decide +kernel
      ended := by decide +kernel
      single
      parses := by decide +kernel }
  have answers (content : String) (turns : Nat)
      (shown : ((initial .standard halfBroken 1).run?
        (.ask 0 (Inquiry.command ⟨some "mem:own", content, .suggestions default .all⟩) ::
          List.replicate turns (.proceed 0))).bind (fun state => (state.reply? 0).map labels) =
            some ["A", "B", "C"]) :
      ∃ reply, AnsweredAfresh .standard halfBroken
        ⟨some "mem:own", content, .suggestions default .all⟩ reply ∧
          labels reply = ["A", "B", "C"] := by
    obtain ⟨after, ran, shown⟩ := Option.bind_eq_some_iff.mp shown
    obtain ⟨reply, answered, items⟩ := Option.map_eq_some_iff.mp shown
    refine ⟨reply, ⟨_, after, fun event listed => ?_, ran, answered⟩, items⟩
    rw [List.eq_of_mem_replicate listed]
    exact .proceed 0
  have document : site.document =
      "!define A\n!includeurl mem:broken\n!includeurl mem:good\n!define B\n" := by
    change "!define A\n" ++ "!includeurl mem:broken\n" ++ "!includeurl mem:good\n!define B\n" = _
    decide +kernel
  have remainder : site.remainder = "!define A\n!includeurl mem:good\n!define B\n" := by
    change "!define A\n" ++ "!includeurl mem:good\n!define B\n" = _
    decide +kernel
  obtain ⟨reply, answered, -⟩ :=
    answers "!define A\n!includeurl mem:broken\n!includeurl mem:good\n!define B\n" 19
      (by decide +kernel)
  obtain ⟨reply', answered', items⟩ :=
    answers "!define A\n!includeurl mem:good\n!define B\n" 13 (by decide +kernel)
  rw [← document] at answered
  rw [← remainder] at answered'
  have alike := answered_alike_without_include site steady unresolved (.suggestions default .all)
  exact ⟨site, reply, reply', rfl, remainder, steady, unresolved, answered, answered',
    alike.2 answered answered', items⟩

end Traffic

end DiagramAssist
