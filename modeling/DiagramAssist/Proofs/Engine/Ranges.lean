import DiagramAssist.Proofs.Engine.Traffic
import DiagramAssist.Proofs.Store.Suggestions

/-! # Items replace the range that was asked for

Whatever an engine offers, and whenever it answers, its items replace the range of the command: own
entries and entries of includes, arguments of a callable and modules of the library alike
(`Traffic.replaces_of_run`). Documents that are included have ranges of their own, but those are
never offered.
-/

namespace DiagramAssist

variable {range : Range} {wanted : Option Range}

/-- The range that items about a document are to replace, if items are wanted. -/
def Goal.range? : Goal → Option Range
  | .suggestions range _ => some range
  | .arguments _ range => some range
  | _ => none

/-- The range that items about the library are to replace, if items are wanted. -/
def LibraryGoal.range? : LibraryGoal → Option Range
  | .completions _ range => some range
  | _ => none

/-- The range that the items of a command are to replace, if it asks for items. -/
def Command.range? : Command → Option Range
  | .document _ goal => goal.range?
  | .library goal => goal.range?
  | _ => none

/-- If an answer consists of items, then each of them replaces the range. -/
def Reply.Replaces (wanted : Option Range) (reply : Reply) : Prop :=
  ∀ items, reply = .items items → ∀ item ∈ items, wanted = some item.range

theorem Reply.replaces_items {items : List Item} (each : ∀ item ∈ items, item.range = range) :
    (Reply.items items).Replaces (some range) := by
  intro _ same item listed
  cases same
  rw [each item listed]

/-! ## Stores -/

theorem SymbolTable.range_of_mem_items {table : SymbolTable} {filter : Filter} {item : Item}
    (listed : item ∈ table.items range filter) : item.range = range := by
  cases (mem_items_iff.mp listed).1 <;> rfl

theorem Store.range_of_mem_mergeItems {store : Store} {filter : Filter} {ids : List ContextId}
    {item : Item} (listed : item ∈ store.mergeItems range filter ids) : item.range = range := by
  cases ids with
  | nil => cases listed
  | cons first later =>
    rw [mergeItems_cons] at listed
    have offered := (Item.firstOccurrences_mergeAll _).sublist.subset listed
    rcases List.mem_append.mp offered with own | exported
    · exact SymbolTable.range_of_mem_items own
    · obtain ⟨id, -, exported⟩ := List.mem_flatMap.mp exported
      exact SymbolTable.range_of_mem_items exported

theorem Callable.range_of_mem_argumentItems {callable : Callable} {item : Item}
    (listed : item ∈ callable.argumentItems range) : item.range = range := by
  rw [argumentItems] at listed
  split at listed
  · cases listed
  · obtain ⟨parameter, -, rfl⟩ := List.mem_map.mp listed
    rfl

/-! ## Tasks -/

namespace Task

variable {world : World} {context : ContextId} {goal : Goal} {task : Task}

/-- A task that may end with items is about the range, and items that it has ended with replace
it. -/
def Replaces (wanted : Option Range) : Task → Prop
  | .updating _ goal => goal.range? = wanted
  | .walking _ goal => goal.range? = wanted
  | .awaiting _ _ _ goal => goal.range? = wanted
  | .resolving _ _ _ _ goal => goal.range? = wanted
  | .looking _ goal => goal.range? = wanted
  | .finished reply => reply.Replaces wanted
  | _ => True

theorem replaces_begin (world : World) (command : Command) :
    (begin world command).2.Replaces command.range? := by
  cases command with
  | document reference goal =>
    simp only [begin, locate]
    split
    · split
      · rintro _ ⟨⟩
      · rfl
    · split
      · rfl
      · rintro _ ⟨⟩
    · split
      · rintro _ ⟨⟩
      · rfl
    · rintro _ ⟨⟩
  | library goal => rfl
  | load key => trivial
  | resolveKeys base includes => trivial
  | changeDocument url supply => rintro _ ⟨⟩
  | changeListing listing => rintro _ ⟨⟩

theorem replaces_needIncludes (target : ContextId) (about : goal.range? = wanted) :
    (needIncludes world target context goal).2.Replaces wanted := by
  simp only [needIncludes]
  split <;> exact about

theorem replaces_afterWalk {α : Type} {reply : α → Reply} {walked : Store × Store.Result α}
    (about : goal.range? = wanted)
    (answers : ∀ value, walked.2 = .answer value → (reply value).Replaces wanted) :
    (afterWalk world context goal reply walked).2.Replaces wanted := by
  obtain ⟨store, value | target⟩ := walked
  · exact answers value rfl
  · exact replaces_needIncludes target about

theorem replaces_pursue (world : World) (context : ContextId) (goal : Goal) :
    (pursue world context goal).2.Replaces goal.range? := by
  cases goal with
  | context => rintro _ ⟨⟩
  | symbols => rintro _ ⟨⟩
  | replace root => rintro _ ⟨⟩
  | includes => exact replaces_afterWalk rfl fun _ _ _ same => by cases same
  | suggestions range filter =>
    refine replaces_afterWalk rfl fun items answered => Reply.replaces_items fun item listed => ?_
    simp only [Store.suggestions] at answered
    split at answered
    · cases answered
    · cases answered
      exact Store.range_of_mem_mergeItems listed
  | arguments name range =>
    refine replaces_afterWalk rfl fun found _ => Reply.replaces_items fun item listed => ?_
    cases found with
    | none => cases listed
    | some found => exact Callable.range_of_mem_argumentItems listed
  | callable name => exact replaces_afterWalk rfl fun _ _ _ same => by cases same

theorem replaces_libraryReply (config : Config) (goal : LibraryGoal)
    (result : Except FetchError (List LibraryEntry)) :
    (libraryReply config goal result).Replaces goal.range? := by
  cases goal with
  | paths start => cases result <;> rintro _ ⟨⟩
  | resolve path => cases result <;> rintro _ ⟨⟩
  | completions start range =>
    cases result with
    | error error => rintro _ ⟨⟩
    | ok entries =>
      refine Reply.replaces_items fun item listed => ?_
      obtain ⟨entry, -, rfl⟩ := List.mem_map.mp listed
      rfl

/-- Whatever a task does next, it is still about the range. -/
theorem Turn.replaces {engine : Nat} {outcome : World × Task}
    (turn : Turn engine world task outcome) (replaces : task.Replaces wanted) :
    outcome.2.Replaces wanted := by
  cases turn with
  | updated => exact replaces
  | update turn => exact replaces
  | pursue =>
    cases replaces
    exact replaces_pursue ..
  | woken known => exact replaces
  | inclusion turn => exact replaces
  | pass stuck => exact replaces
  | resolved => exact replaces
  | looked =>
    cases replaces
    exact replaces_libraryReply _ _ _
  | lookup turn => exact replaces
  | loaded => rintro _ ⟨⟩
  | failed => rintro _ ⟨⟩
  | load turn => trivial
  | keyed => trivial
  | keying turn => trivial
  | next => trivial
  | listed => rintro _ ⟨⟩

end Task

/-! ## Runs -/

namespace Traffic

theorem lasting_replaces (base : World) :
    Lasting base fun _ command task => task.Replaces command.range? where
  begins command _ := Task.replaces_begin _ command
  onward _ _ replaces := replaces
  turns _ _ _ turn _ replaces := turn.replaces replaces
  resumes {_ _ task} replaces := by cases task <;> exact replaces

/-- In any run, the items with which a command is answered replace its range. -/
theorem replaces_of_run {config : Config} {source : Source} {engines index : Nat} {state : Traffic}
    {events : List Event} {command : Command} {reply : Reply}
    (ran : (initial config source engines).run? events = some state)
    (wanted : (asked events)[index]? = some command)
    (answered : state.reply? index = some reply) : reply.Replaces command.range? := by
  have follows := (follows_nil _ (initial config source engines)).run
    (lasting_replaces (initial config source engines).world) (.refl _)
    (orderly_initial config source engines) ran
  obtain ⟨engine, present⟩ := reply?_eq_some_iff.mp answered
  exact follows.holds wanted ((Nat.zero_add index).symm ▸ present)

end Traffic

end DiagramAssist
