import DiagramAssist.Proofs.Store.Walk

/-! # Queries that resolve includes on their way

A query that comes to a document whose includes are not known asks for them; they are resolved, and
the query starts over. What has been resolved stays so, hence a query on a finite include graph
comes to an end, whatever was resolved when it began (`IncludeGraph.concludes`).
-/

namespace DiagramAssist.Store

/-- The includes of a document become known, as when a task has settled all of them. -/
def resolve (store : Store) (target : ContextId) (includes : List ContextId) : Store :=
  store.update target fun context => { context with includes := context.includes.fill includes }

/-- A query carried to its end: it is answered, or the includes that it needs are resolved as the
graph says and it starts over. Only includes that are not known are ever resolved. -/
inductive Concludes (graph : ContextId → List ContextId) {α : Type}
    (query : Store → Store × Result α) : Store → α → Prop where
  | answer {store : Store} {value : α} (answered : (query store).2 = .answer value) :
      Concludes graph query store value
  | resolve {store : Store} {target : ContextId} {value : α}
      (needed : (query store).2 = .needs target)
      (unresolved : (store.context target).includes.value = none)
      (later : Concludes graph query ((query store).1.resolve target (graph target)) value) :
      Concludes graph query store value

/-- Two stores with the same documents, of which more or less is known. -/
structure Alike (before after : Store) : Prop where
  length : after.length = before.length
  key : ∀ id, (after.context id).key = (before.context id).key
  table : ∀ id, (after.context id).table = (before.context id).table

namespace Alike

variable {first second third : Store}

theorem refl (store : Store) : Alike store store :=
  ⟨rfl, fun _ => rfl, fun _ => rfl⟩

theorem trans (left : Alike first second) (right : Alike second third) : Alike first third where
  length := right.length.trans left.length
  key id := (right.key id).trans (left.key id)
  table id := (right.table id).trans (left.table id)

theorem isSeen (alike : Alike first second) (seen : List ContextId) (id : ContextId) :
    second.isSeen seen id = first.isSeen seen id := by
  simp only [Store.isSeen, alike.key]

/-- The preorder depends on keys only. -/
theorem preorder (alike : Alike first second) {graph : ContextId → List ContextId}
    {seen ids order : List ContextId} (preorder : Preorder first graph seen ids order) :
    Preorder second graph seen ids order := by
  induction preorder with
  | nil => exact .nil
  | skip known along ih => exact .skip ((alike.isSeen _ _).trans known) ih
  | enter new down along ihDown ihAlong =>
    exact .enter ((alike.isSeen _ _).trans new) ihDown ihAlong

end Alike

theorem alike_extractAll (store : Store) (entered : List ContextId) :
    Alike store (store.extractAll entered) where
  length := by
    induction entered with
    | nil => rfl
    | cons id rest ih => exact (List.length_modify _ _ _).trans ih
  key := store.key_extractAll entered
  table := store.table_extractAll entered

theorem alike_resolve (store : Store) (target : ContextId) (includes : List ContextId) :
    Alike store (store.resolve target includes) where
  length := List.length_modify _ _ _
  key := by
    apply read_update Context.key
    exact fun _ => rfl
  table := by
    apply read_update Context.table
    exact fun _ => rfl

/-- What is known of includes after a pass that extracts symbols and then resolves one document. -/
theorem value_resolve_extractAll {store : Store} {target : ContextId}
    (known : target < store.length) (entered includes : List ContextId) (id : ContextId) :
    (((store.extractAll entered).resolve target includes).context id).includes.value =
      if id = target then some includes else (store.context id).includes.value := by
  rw [← read_extractAll (·.includes.value) (fun _ => rfl) store entered id]
  rw [← (store.alike_extractAll entered).length] at known
  generalize store.extractAll entered = extracted at known
  simp only [resolve, update, context, List.getD_eq_getElem?_getD, List.getElem?_modify]
  by_cases here : id = target
  · subst here
    simp [List.getElem?_eq_getElem known]
  · simp [here, Ne.symm here]

namespace IncludeGraph

variable {store : Store} {start target : ContextId} {graph : ContextId → List ContextId}

/-- Resolving what the graph says keeps the graph. -/
theorem resolve_extractAll (includes : store.IncludeGraph start graph)
    (reached : Reachable graph start target) (entered : List ContextId) :
    ((store.extractAll entered).resolve target (graph target)).IncludeGraph start graph := by
  have alike := (store.alike_extractAll entered).trans (alike_resolve _ target (graph target))
  refine ⟨?_, ?_, ?_, ?_⟩
  · rw [alike.length]
    exact includes.known
  · intro id found reached' known
    rw [value_resolve_extractAll (includes.lt_length reached)] at known
    split at known
    · next here =>
      cases known
      rw [here]
    · exact includes.resolved reached' known
  · intro id other reached' edge
    rw [alike.key]
    exact includes.keyed reached' edge
  · intro id other reached' reached''
    rw [alike.key, alike.key]
    exact includes.once reached' reached''

/-- The documents among some whose includes are not known. -/
private def pending (store : Store) (order : List ContextId) : Finset ContextId :=
  order.toFinset.filter fun id => (store.context id).includes.value = none

private theorem card_pending_lt {order : List ContextId} (known : target < store.length)
    (listed : target ∈ order) (unresolved : (store.context target).includes.value = none)
    (entered includes : List ContextId) :
    (pending ((store.extractAll entered).resolve target includes) order).card <
      (pending store order).card := by
  apply Finset.card_lt_card
  rw [Finset.ssubset_iff_of_subset]
  · refine ⟨target, ?_, ?_⟩
    · simp [pending, unresolved, listed]
    · simp [pending, value_resolve_extractAll known]
  · intro id member
    simp only [pending, Finset.mem_filter, value_resolve_extractAll known] at member ⊢
    obtain ⟨member, unresolved⟩ := member
    split at unresolved
    · cases unresolved
    · exact ⟨member, unresolved⟩

/-- A query that is answered as it should be, or needs includes that are not known, comes to an end
on its graph with an answer as it should be. -/
theorem concludes (includes : store.IncludeGraph start graph) {α : Type}
    {query : Store → Store × Result α} {IsRight : α → Prop}
    (extracts : ∀ now, ∃ entered, (query now).1 = now.extractAll entered)
    (pass : ∀ now, now.IncludeGraph start graph → Alike store now →
      (∃ value, (query now).2 = .answer value ∧ IsRight value) ∨
        ∃ target, Reachable graph start target ∧ (now.context target).includes.value = none ∧
          (query now).2 = .needs target) :
    ∃ value, Concludes graph query store value ∧ IsRight value := by
  obtain ⟨below, -, preorder⟩ := includes.exists_preorder
  generalize start :: below = order at preorder
  suffices ends : ∀ (left : Nat) (now : Store), now.IncludeGraph start graph → Alike store now →
      (pending now order).card < left →
        ∃ value, Concludes graph query now value ∧ IsRight value from
    ends _ store includes (.refl store) (Nat.lt_succ_self _)
  -- Every pass resolves a document of the preorder that was not resolved before.
  intro left
  induction left with
  | zero => exact fun _ _ _ none => (Nat.not_lt_zero _ none).elim
  | succ left ih =>
    intro now graphNow alike fewer
    rcases pass now graphNow alike with
      ⟨value, answered, right⟩ | ⟨target, reached, unresolved, needed⟩
    · exact ⟨value, .answer answered, right⟩
    · obtain ⟨entered, extracted⟩ := extracts now
      have less := card_pending_lt (graphNow.lt_length reached)
        ((includes.mem_preorder_iff preorder).mpr reached) unresolved entered (graph target)
      have alikeNext := (now.alike_extractAll entered).trans (alike_resolve _ target (graph target))
      obtain ⟨value, later, right⟩ := ih _ (graphNow.resolve_extractAll reached entered)
        (alike.trans alikeNext) (by omega)
      rw [← extracted] at later
      exact ⟨value, .resolve needed unresolved later, right⟩

end IncludeGraph

end DiagramAssist.Store
