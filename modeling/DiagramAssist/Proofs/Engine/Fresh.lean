import DiagramAssist.Proofs.Engine.Independence

/-! # Documents on a fresh engine

A fresh engine that is asked about a document with a key stores the document before it walks, so
nothing is ever fetched for this key: what it provides is the document itself, and everything else
is provided by the source. With this the document is answered about as its trail says, like a buffer
(`Traffic.answeredAfresh_iff`).
-/

namespace DiagramAssist

/-- What is provided once a document is stored: its content under its key, if it has one, and
everything else as before. -/
def Provision.storing (provision : Provision) (key? : Option String) (content : String) :
    Provision :=
  { provision with
    documents := fun url =>
      if key? = some url then .ok ⟨content, .utf8⟩ else provision.documents url }

namespace Provision

variable {provision : Provision} {key? : Option String} {content : String}

/-- The page under the key of a stored document is the page of the document. -/
theorem page?_storing_self {key : String} {root : Root}
    (parsed : Task.parseContent content = .ok root) :
    (provision.storing (some key) content).page? key =
      some (Context.fresh (some key) root).page := by
  have good : loaded key ((provision.storing (some key) content).documents key) =
      .ok (.fresh (some key) root) := by
    simp only [storing, if_pos, loaded, Payload.toContext, Payload.decode]
    unfold Task.parseContent at parsed
    split at parsed
    · next read =>
      cases parsed
      rw [read]
    · cases parsed
  exact page?_of_loaded good

/-- The page under any other key is the same as before. -/
theorem page?_storing_of_ne {key : String} (other : key? ≠ some key) :
    (provision.storing key? content).page? key = provision.page? key := by
  simp only [page?, storing, if_neg other]

end Provision

/-- Nobody fetches the document that is stored. -/
theorem Source.Brings.storing {source : Source} {config : Config} {provision : Provision}
    (brings : source.Brings config provision Option.none) (key? : Option String)
    (content : String) :
    source.Brings config (provision.storing key? content) key? where
  extension := brings.extension
  document {url} other := by
    simp only [Provision.storing, if_neg other]
    exact brings.document nofun
  listing := brings.listing

namespace Traffic

variable {config : Config} {source : Source} {provision : Provision} {key : String} {root : Root}
  {goal : Goal} {wanted : Inquiry} {reply : Reply} {state after : Traffic} {event : Event}
  {events : List Event}

theorem getElem?_singleton_eq_some {α : Type} {item other : α} {index : Nat} :
    [item][index]? = some other ↔ index = 0 ∧ item = other := by
  cases index with
  | zero => simp
  | succ index => simp

/-- A query about a document is answered by a fresh engine that carries out nothing else. -/
def AnsweredAfresh (config : Config) (source : Source) (wanted : Inquiry) (reply : Reply) : Prop :=
  ∃ events after, (∀ event ∈ events, event.Internal) ∧
    (initial config source 1).run? (.ask 0 wanted.command :: events) = some after ∧
    after.reply? 0 = some reply

/-- The state of a fresh engine that has a document for a key, at some moment. -/
def freshWorld (config : Config) (source : Source) (key : String) (root : Root)
    (registry : Registry) (clock nextCall : Nat) : World :=
  { World.initial config source 1 with
    clock, nextCall, registry, store := [.fresh (some key) root] }

/-- The registry in which one key has the first document. -/
def singleRegistry (key : String) : Registry :=
  ⟨[⟨some 0, none, []⟩], [(key, 0)]⟩

/-- A fresh engine is about to store a document, or has stored it, before its first walk. -/
inductive Storing (config : Config) (source : Source) (key : String) (root : Root) (goal : Goal) :
    Traffic → Prop where
  | arriving (clock nextCall : Nat) : Storing config source key root goal
      ⟨freshWorld config source key root .empty clock nextCall,
        [(0, .updating (.arriving key 0) goal)]⟩
  | returned (clock nextCall : Nat) : Storing config source key root goal
      ⟨freshWorld config source key root (singleRegistry key) clock nextCall,
        [(0, .updating (.returned 0) goal)]⟩

/-- A fresh engine has stored a document and walks. -/
def Walks (config : Config) (source : Source) (key : String) (root : Root) (goal : Goal)
    (state : Traffic) : Prop :=
  ∃ clock nextCall, state =
    ⟨freshWorld config source key root (singleRegistry key) clock nextCall, [(0, .walking 0 goal)]⟩

/-- Nobody else has asked for the key, so the document is stored at once. -/
theorem step_arriving (clock nextCall : Nat) :
    Task.step 0 (freshWorld config source key root .empty clock nextCall)
        (.updating (.arriving key 0) goal) =
      some (freshWorld config source key root (singleRegistry key) clock (nextCall + 1),
        .updating (.returned 0) goal) := by
  have holds : (singleRegistry key).holds key 0 = true := by
    simp [Registry.holds, Registry.slot?, singleRegistry]
  have settled : Update.settle
      (freshWorld config source key root (singleRegistry key) clock (nextCall + 1)) key 0 0 0 =
        (freshWorld config source key root (singleRegistry key) clock (nextCall + 1),
          .returned 0) := by
    rw [Update.settle, if_neg, if_pos rfl]
    simpa [freshWorld] using holds
  exact congrArg (fun outcome => some (outcome.1, Task.updating outcome.2 goal)) settled

namespace Storing

/-- Until it walks, a fresh engine does nothing but store the document. -/
theorem step (storing : Storing config source key root goal state) (internal : event.Internal)
    (went : state.step? event = some after) :
    Storing config source key root goal after ∨ Walks config source key root goal after := by
  cases internal with
  | proceed index =>
    obtain ⟨engine, task, present, outcome, moved, rfl⟩ := step?_proceed_eq_some_iff.mp went
    cases storing with
    | arriving clock nextCall =>
      obtain ⟨rfl, same⟩ := getElem?_singleton_eq_some.mp present
      cases same
      cases moved.symm.trans (step_arriving clock nextCall)
      exact .inl (.returned clock (nextCall + 1))
    | returned clock nextCall =>
      obtain ⟨rfl, same⟩ := getElem?_singleton_eq_some.mp present
      cases same
      cases moved
      exact .inr ⟨clock, nextCall, rfl⟩
  | resume index =>
    obtain ⟨engine, task, present, rfl⟩ := step?_resume_eq_some_iff.mp went
    cases storing with
    | arriving clock nextCall =>
      obtain ⟨rfl, same⟩ := getElem?_singleton_eq_some.mp present
      cases same
      exact .inl (.arriving clock nextCall)
    | returned clock nextCall =>
      obtain ⟨rfl, same⟩ := getElem?_singleton_eq_some.mp present
      cases same
      exact .inl (.returned clock nextCall)
  | wait moment =>
    cases went
    cases storing with
    | arriving clock nextCall => exact .inl (.arriving (max clock moment) nextCall)
    | returned clock nextCall => exact .inl (.returned (max clock moment) nextCall)
  | number =>
    cases went
    cases storing with
    | arriving clock nextCall => exact .inl (.arriving clock (nextCall + 1))
    | returned clock nextCall => exact .inl (.returned clock (nextCall + 1))

/-- A run from before the document is stored does not get beyond storing it, or it goes on from a
state in which the engine walks. -/
theorem run (storing : Storing config source key root goal state)
    (internal : ∀ event ∈ events, event.Internal) (ran : state.run? events = some after) :
    Storing config source key root goal after ∨
      ∃ middle, Walks config source key root goal middle ∧ state.ComesTo middle ∧
        middle.ComesTo after := by
  induction events generalizing state with
  | nil =>
    cases ran
    exact .inl storing
  | cons event rest ih =>
    obtain ⟨next, went, ran⟩ := run?_cons_eq_some_iff.mp ran
    obtain ⟨here, internal⟩ := List.forall_mem_cons.mp internal
    have comes := ComesTo.step here went
    rcases storing.step here went with storing | walks
    · exact (ih storing internal ran).imp_right fun ⟨middle, walks, before, behind⟩ =>
        ⟨middle, walks, comes.trans before, behind⟩
    · exact .inr ⟨next, walks, comes, rest, internal, ran⟩

/-- A fresh engine comes to walk. -/
theorem comes_to_walk (storing : Storing config source key root goal state) :
    ∃ middle, Walks config source key root goal middle ∧ state.ComesTo middle := by
  have returned (clock nextCall : Nat) :
      ∃ middle, Walks config source key root goal middle ∧
        ComesTo ⟨freshWorld config source key root (singleRegistry key) clock nextCall,
          [(0, .updating (.returned 0) goal)]⟩ middle := by
    refine ⟨_, ⟨clock, nextCall, rfl⟩, .step (.proceed 0) ?_⟩
    exact step?_proceed_eq_some_iff.mpr ⟨0, _, rfl, _, rfl, rfl⟩
  cases storing with
  | arriving clock nextCall =>
    obtain ⟨middle, walks, comes⟩ := returned clock (nextCall + 1)
    refine ⟨middle, walks, ComesTo.trans (.step (.proceed 0) ?_) comes⟩
    exact step?_proceed_eq_some_iff.mpr ⟨0, _, rfl, _, step_arriving clock nextCall, rfl⟩
  | returned clock nextCall => exact returned clock nextCall

end Storing

/-- A fresh engine that walks is faithful to what is provided once the document is stored. -/
theorem Walks.faithful {content : String} {query : Query}
    (walks : Walks config source key root query.goal state)
    (brings : source.Brings config provision none)
    (parsed : Task.parseContent content = .ok root) :
    state.Faithful config (provision.storing (some key) content) (some key)
      [Inquiry.command ⟨some key, content, query⟩] := by
  obtain ⟨clock, nextCall, rfl⟩ := walks
  have page : (provision.storing (some key) content).page? key = _ :=
    Provision.page?_storing_self parsed
  have empty := World.Faithful.initial (brings.storing (some key) content) 1
  have linked : (World.initial config source 1).store.Linked := fun known => by cases known
  have added := (empty.addContext linked (some key) root fun same => by
    cases same
    exact page).faithful
  have world : World.Upholds (provision.storing (some key) content) (some key) _
      (freshWorld config source key root (singleRegistry key) clock nextCall) :=
    added.later added.brings rfl rfl
  have stored : (singleRegistry key).get? key = some 0 := by
    simp [Registry.get?, Registry.slot?, singleRegistry, Registry.cell]
  refine ⟨rfl, world.faithful, fun same missing => ?_, rfl, ?_⟩
  · cases same
    rw [freshWorld, stored] at missing
    cases missing
  · intro index engine command task asked present
    obtain ⟨rfl, rfl⟩ := getElem?_singleton_eq_some.mp asked
    cases present
    exact ⟨⟨some key, content, query⟩, rfl, rfl, Nat.zero_lt_one, root, parsed, rfl⟩

/-- A fresh engine answers about a document that parses with what is to be answered once the
document is stored. -/
theorem answeredAfresh_iff {key? : Option String} {content : String} {query : Query}
    (brings : source.Brings config provision none) (parsed : parse content = .ok root) :
    AnsweredAfresh config source ⟨key?, content, query⟩ reply ↔
      (provision.storing key? content).Answers query (Context.fresh key? root).page reply := by
  have parsed : Task.parseContent content = .ok root := by rw [Task.parseContent, parsed]
  have expects (provision : Provision) : Inquiry.Expects provision ⟨key?, content, query⟩ reply ↔
      provision.Answers query (Context.fresh key? root).page reply := by
    rw [Inquiry.Expects, parsed]
  rw [← expects]
  cases key? with
  | none =>
    let buffer : BufferQuery := ⟨content, query⟩
    have alone : AnsweredAlone config source buffer reply ↔ _ := answeredAlone_iff_of_brings brings
    exact alone
  | some key =>
    have known : 0 < (initial config source 1).world.libraries.length := Nat.zero_lt_one
    have asks : (initial config source 1).step?
        (.ask 0 (Inquiry.command ⟨some key, content, query⟩)) =
          some ⟨freshWorld config source key root .empty 0 0,
            [(0, .updating (.arriving key 0) query.goal)]⟩ := by
      refine step?_ask_eq_some_iff.mpr ⟨known, ?_⟩
      simp only [Inquiry.command, Task.begin, Task.locate, parsed]
      rfl
    have storing : Storing config source key root query.goal _ := .arriving 0 0
    have orderly := ((orderly_initial config source 1).step asks).1
    constructor
    · rintro ⟨events, after, internal, ran, answered⟩
      obtain ⟨next, went, ran⟩ := run?_cons_eq_some_iff.mp ran
      cases asks.symm.trans went
      rcases storing.run internal ran with storing | ⟨middle, walks, comes, later⟩
      · cases storing <;> cases answered
      · have faithful := walks.faithful brings parsed
        exact (later.faithful faithful (comes.orderly orderly).1).1.answers rfl answered
    · intro expected
      obtain ⟨middle, walks, comes⟩ := storing.comes_to_walk
      have faithful := walks.faithful brings parsed
      have asked : [Inquiry.command ⟨some key, content, query⟩][0]? = some _ := rfl
      obtain ⟨after, later, answered⟩ :=
        comes_to_answer faithful (comes.orderly orderly).1 asked expected
      obtain ⟨events, internal, ran⟩ := comes.trans later
      exact ⟨events, after, internal, run?_cons_eq_some_iff.mpr ⟨_, asks, ran⟩, answered⟩

end Traffic

end DiagramAssist
