import DiagramAssist.Proofs.Engine.Traffic

/-! # Refused queries

A query about a document is refused for what it says about the document, and for nothing else: its
content does not parse, or it has none and nothing is stored under its key. It is refused at once,
and then nothing has been done for it (`World.Refuses.begin`). A query that has not been refused
never gets an error for its answer, whatever the source does, whatever else the engines are asked,
and whatever becomes of the includes (`Traffic.failed_iff_refused`).

The state in which the query is asked may be any state. No order of the state is needed, since only
the kind of the answer is at stake: in `Task.Pursues` an include that cannot be resolved, loaded or
parsed has no way to become a reply.
-/

namespace DiagramAssist

/-- Why a query about a document is refused. -/
inductive World.Refuses (world : World) : DocumentRef → QueryError → Prop where
  | parse {key? : Option String} {content : String} {error : ParseError}
      (malformed : DiagramAssist.parse content = .error error) :
      Refuses world ⟨key?, some content⟩ (.parse error content)
  | documentNotFound {key : String} (absent : world.registry.contains key = false) :
      Refuses world ⟨some key, none⟩ (.documentNotFound key)
  | missingContent : Refuses world ⟨none, none⟩ .missingContent

variable {world : World} {reference : DocumentRef} {error : QueryError} {engine : Nat}
  {query : Query}

/-- A refused query has finished when it begins, and nothing has been done for it. -/
theorem World.Refuses.begin (refused : world.Refuses reference error) (goal : Goal) :
    Task.begin world (.document reference goal) = (world, .finished (.failed error)) := by
  cases refused with
  | @parse key? content cause malformed =>
    have failed : Task.parseContent content = .error (.parse cause content) := by
      rw [Task.parseContent, malformed]
    cases key? <;> simp only [Task.begin, Task.locate, failed]
  | documentNotFound absent =>
    have missing := Option.isNone_iff_eq_none.mp (Option.isSome_eq_false_iff.mp absent)
    simp only [Task.begin, Task.locate, missing]
  | missingContent => rfl

/-- A reply is an answer of the kind that a query asks for. An error is none. -/
inductive Query.Admits : Query → Reply → Prop where
  | suggestions {range : Range} {filter : Filter} {items : List Item} :
      Admits (.suggestions range filter) (.items items)
  | arguments {name : String} {range : Range} {items : List Item} :
      Admits (.arguments name range) (.items items)
  | callable {name : String} {found : Option CallableMatch} :
      Admits (.callable name) (.callable found)

namespace Task

/-- A task carries a query out, or it has answered it. -/
def Pursues (query : Query) : Task → Prop
  | .updating _ goal => goal = query.goal
  | .walking _ goal => goal = query.goal
  | .awaiting _ _ _ goal => goal = query.goal
  | .resolving _ _ _ _ goal => goal = query.goal
  | .finished reply => query.Admits reply
  | _ => False

/-- A query is refused when it begins, or it is carried out from then on. -/
theorem begin_refuses_or_pursues (world : World) (reference : DocumentRef) (query : Query) :
    (∃ error, world.Refuses reference error) ∨
      (begin world (.document reference query.goal)).2.Pursues query := by
  obtain ⟨key?, content?⟩ := reference
  cases content? with
  | some content =>
    cases parsed : parse content with
    | error cause => exact .inl ⟨_, .parse parsed⟩
    | ok root =>
      have parsed : parseContent content = .ok root := by rw [parseContent, parsed]
      refine .inr ?_
      cases key? <;> simp only [begin, locate, parsed] <;> rfl
  | none =>
    cases key? with
    | none => exact .inl ⟨_, .missingContent⟩
    | some key =>
      cases found : world.registry.get? key with
      | none => exact .inl ⟨_, .documentNotFound (by rw [Registry.contains, found]; rfl)⟩
      | some context =>
        refine .inr ?_
        simp only [begin, locate, found]
        rfl

/-- A task that needs includes for a query carries it out. -/
theorem needIncludes_pursues (world : World) (target context : ContextId) (query : Query) :
    (needIncludes world target context query.goal).2.Pursues query := by
  simp only [needIncludes]
  split <;> rfl

/-- Pursuing a query answers it, or the query needs includes. -/
theorem pursue_pursues (world : World) (context : ContextId) (query : Query) :
    (pursue world context query.goal).2.Pursues query := by
  cases query with
  | suggestions range filter =>
    simp only [Query.goal, pursue, afterWalk, Store.suggestions]
    cases (world.store.walk (fun _ => false) context).ending with
    | complete => exact .suggestions
    | stopped found => exact .suggestions
    | blocked needed => exact needIncludes_pursues _ needed context (.suggestions range filter)
  | arguments name range =>
    simp only [Query.goal, pursue, afterWalk, Store.findCallable]
    cases (world.store.walk (world.store.defines name) context).ending with
    | complete => exact .arguments
    | stopped found => exact .arguments
    | blocked needed => exact needIncludes_pursues _ needed context (.arguments name range)
  | callable name =>
    simp only [Query.goal, pursue, afterWalk, Store.findCallable]
    cases (world.store.walk (world.store.defines name) context).ending with
    | complete => exact .callable
    | stopped found => exact .callable
    | blocked needed => exact needIncludes_pursues _ needed context (.callable name)

/-- Whatever a task does next towards a query, it does not fail. -/
theorem Turn.pursues {task : Task} {outcome : World × Task}
    (turn : Turn engine world task outcome) (pursues : task.Pursues query) :
    outcome.2.Pursues query := by
  cases turn with
  | pursue =>
    cases pursues
    exact pursue_pursues world _ query
  | updated => exact pursues
  | update turn => exact pursues
  | woken known => exact pursues
  | inclusion turn => exact pursues
  | pass stuck => exact pursues
  | resolved => exact pursues
  | looked => exact pursues.elim
  | lookup turn => exact pursues.elim
  | loaded => exact pursues.elim
  | failed => exact pursues.elim
  | load turn => exact pursues.elim
  | keyed => exact pursues.elim
  | keying turn => exact pursues.elim
  | next => exact pursues.elim
  | listed => exact pursues.elim

theorem pursues_resume {task : Task} (pursues : task.Pursues query) :
    task.resume.Pursues query := by
  cases task <;> exact pursues

end Task

namespace Traffic

variable {state begun after : Traffic} {events : List Event}

/-- Whatever happens after a query has been asked: it fails just with the error for which it was
refused, and then nothing has been done for it; where it does not fail, its answer is of the kind it
asks for. -/
theorem failed_iff_refused
    (asked : state.step? (.ask engine (.document reference query.goal)) = some begun)
    (ran : begun.run? events = some after) :
    (∀ error, after.reply? state.tasks.length = some (.failed error) ↔
      state.world.Refuses reference error) ∧
    (∀ reply, after.reply? state.tasks.length = some reply →
      (∃ error, reply = .failed error) ∨ query.Admits reply) ∧
    ∀ error, after.reply? state.tasks.length = some (.failed error) →
      begun.world = state.world ∧
        begun.tasks = state.tasks ++ [(engine, .finished (.failed error))] := by
  obtain ⟨-, rfl⟩ := step?_ask_eq_some_iff.mp asked
  have present {task : Task} :
      (state.tasks ++ [(engine, task)])[state.tasks.length]? = some (engine, task) := by simp
  -- A refused query has finished, and it stays finished with the same error.
  have refuses {error : QueryError} (refused : state.world.Refuses reference error) :
      after.reply? state.tasks.length = some (.failed error) := by
    rw [refused.begin] at ran
    exact reply?_of_run? (reply?_eq_some_iff.mpr ⟨engine, present⟩) ran
  -- Any other query is carried out to the end.
  have pursues (wanted : (Task.begin state.world (.document reference query.goal)).2.Pursues query)
      {reply : Reply} (answered : after.reply? state.tasks.length = some reply) :
      query.Admits reply := by
    obtain ⟨task, there, holds⟩ :=
      run?_task (fun turn => turn.pursues) Task.pursues_resume present wanted ran
    obtain ⟨engine', finished⟩ := reply?_eq_some_iff.mp answered
    cases there.symm.trans finished
    exact holds
  have failed {error : QueryError} (answered : after.reply? state.tasks.length =
      some (.failed error)) : state.world.Refuses reference error := by
    rcases Task.begin_refuses_or_pursues state.world reference query with ⟨cause, refused⟩ | wanted
    · cases (refuses refused).symm.trans answered
      exact refused
    · cases pursues wanted answered
  refine ⟨fun error => ⟨failed, refuses⟩, fun reply answered => ?_, fun error answered => ?_⟩
  · rcases Task.begin_refuses_or_pursues state.world reference query with ⟨cause, refused⟩ | wanted
    · cases (refuses refused).symm.trans answered
      exact .inl ⟨cause, rfl⟩
    · exact .inr (pursues wanted answered)
  · simp only [(failed answered).begin, and_self]

/-- A source with one document, which does not parse. -/
def brokenSource : Source :=
  Source.none.withDocument "mem:broken" ⟨0, .ok ⟨"!function", .utf8⟩⟩

/-- Everything that can be written where the broken document is included. -/
def wantsBroken : Command :=
  .document ⟨none, some "!includeurl mem:broken\n!$mine = 0\n"⟩
    (Query.suggestions default .all).goal

/-- The same text is refused as the content of a document, and left out as an include. -/
theorem failed_iff_refused_for_broken_text :
    (∃ begun error,
      (initial .standard brokenSource 1).step? (.ask 0
        (.document ⟨some "mem:broken", some "!function"⟩ (Query.callable "f").goal)) =
          some begun ∧
      begun.reply? 0 = some (.failed error) ∧
      begun.world = World.initial .standard brokenSource 1) ∧
    ∃ begun after reply,
      (initial .standard brokenSource 1).step? (.ask 0 wantsBroken) = some begun ∧
      begun.run? (List.replicate 9 (.proceed 0)) = some after ∧
      after.reply? 0 = some reply ∧ (Query.suggestions default .all).Admits reply := by
  have asked (command : Command) : ∃ begun,
      (initial .standard brokenSource 1).step? (.ask 0 command) = some begun :=
    ⟨_, step?_ask_eq_some_iff.mpr ⟨Nat.zero_lt_one, rfl⟩⟩
  constructor
  · obtain ⟨begun, asked⟩ := asked (.document ⟨some "mem:broken", some "!function"⟩
      (Query.callable "f").goal)
    have shown : (parse "!function").isOk = false := by decide +kernel
    cases malformed : parse "!function" with
    | ok root =>
      rw [malformed] at shown
      cases shown
    | error cause =>
      have results := failed_iff_refused asked (show begun.run? [] = some begun from rfl)
      have failed := (results.1 _).mpr (.parse malformed)
      exact ⟨begun, _, asked, failed, (results.2.2 _ failed).1⟩
  · obtain ⟨begun, asked⟩ := asked wantsBroken
    have shown : (((initial .standard brokenSource 1).run? (.ask 0 wantsBroken ::
        List.replicate 9 (.proceed 0))).bind fun state => state.reply? 0).map
          (· matches .items _) = some true := by decide +kernel
    obtain ⟨reply, answered, items⟩ := Option.map_eq_some_iff.mp shown
    obtain ⟨after, ran, answered⟩ := Option.bind_eq_some_iff.mp answered
    obtain ⟨begun', asked', ran⟩ := run?_cons_eq_some_iff.mp ran
    cases asked.symm.trans asked'
    have results := failed_iff_refused asked ran
    refine ⟨begun, after, reply, asked, ran, answered, ?_⟩
    rcases results.2.1 reply answered with ⟨error, rfl⟩ | admitted
    · cases items
    · exact admitted

end Traffic

end DiagramAssist
