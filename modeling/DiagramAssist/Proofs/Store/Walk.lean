import DiagramAssist.Proofs.Store.Preorder
import Mathlib.Algebra.BigOperators.Group.Finset.Basic
import Mathlib.Algebra.Order.BigOperators.Group.Finset

/-! # Walks follow the preorder

A walk keeps the documents it still has to visit on one stack and is bounded by the number of known
includes. It nevertheless enters documents just in the depth-first preorder, until it is told to
stop or comes to a document whose includes are not known (`IncludeGraph.walk_course`): no key is
entered twice, so the bound is never reached.
-/

namespace DiagramAssist.Store

/-- A walk that goes on, unless it has ended early. -/
def Walk.andThen (walk : Walk) (next : List ContextId → Walk) : Walk :=
  match walk.ending with
  | .complete => next walk.entered
  | _ => walk

theorem Walk.andThen_assoc (walk : Walk) (next last : List ContextId → Walk) :
    (walk.andThen next).andThen last = walk.andThen fun entered => (next entered).andThen last := by
  rcases walk with ⟨entered, ending⟩
  cases ending <;> rfl

/-- How far a walk gets that enters documents in a given order. -/
def walkAlong (store : Store) (stops : ContextId → Bool) : (entered order : List ContextId) → Walk
  | entered, [] => ⟨entered, .complete⟩
  | entered, id :: rest =>
    if stops id then ⟨id :: entered, .stopped id⟩
    else
      match (store.context id).includes.value with
      | none => ⟨id :: entered, .blocked id⟩
      | some _ => walkAlong store stops (id :: entered) rest

/-- The number of known includes of some documents. -/
def edgesOf (store : Store) (ids : List ContextId) : Nat :=
  (ids.flatMap fun id => (store.context id).includes.value.getD []).length

section Along

variable {store : Store} (stops : ContextId → Bool)

theorem walkAlong_append (entered first second : List ContextId) :
    walkAlong store stops entered (first ++ second) =
      (walkAlong store stops entered first).andThen fun entered =>
        walkAlong store stops entered second := by
  induction first generalizing entered with
  | nil => rfl
  | cons id rest ih =>
    simp only [List.cons_append, walkAlong]
    split
    · rfl
    · split
      · rfl
      · exact ih (id :: entered)

/-- A walk that goes on has entered everything on its way. -/
theorem walkAlong_andThen_congr (entered order : List ContextId) {next last : List ContextId → Walk}
    (same : next (order.reverse ++ entered) = last (order.reverse ++ entered)) :
    (walkAlong store stops entered order).andThen next =
      (walkAlong store stops entered order).andThen last := by
  induction order generalizing entered with
  | nil => exact same
  | cons id rest ih =>
    simp only [walkAlong]
    split
    · rfl
    · split
      · rfl
      · apply ih
        rwa [List.reverse_cons, List.append_assoc] at same

/-- Documents on the stack are visited as the preorder says, and then the walk goes on with the rest
of the stack. Every document that is taken from the stack is an include of one that was entered. -/
theorem walkFrom_append {graph : ContextId → List ContextId} {seen ids order : List ContextId}
    (preorder : Preorder store graph seen ids order)
    (resolved : ∀ id ∈ order, ∀ includes, (store.context id).includes.value = some includes →
      includes = graph id) (bound : Nat) (stack : List ContextId) :
    walkFrom store stops (ids.length + store.edgesOf order + bound) seen (ids ++ stack) =
      (walkAlong store stops seen order).andThen fun entered =>
        walkFrom store stops bound entered stack := by
  induction preorder generalizing bound stack with
  | nil => simp [edgesOf, walkAlong, Walk.andThen]
  | @skip seen rest order id known along ih =>
    have length : (id :: rest).length + store.edgesOf order + bound =
        rest.length + store.edgesOf order + bound + 1 := by
      rw [List.length_cons]
      omega
    rw [length, List.cons_append, walkFrom, if_pos known]
    exact ih resolved bound stack
  | @enter seen rest below order id new down along ihDown ihAlong =>
    have edges : store.edgesOf (id :: (below ++ order)) =
        ((store.context id).includes.value.getD []).length + store.edgesOf below +
          store.edgesOf order := by
      simp [edgesOf, Nat.add_assoc]
    have length : (id :: rest).length + store.edgesOf (id :: (below ++ order)) + bound =
        ((store.context id).includes.value.getD []).length + store.edgesOf below +
          (rest.length + store.edgesOf order + bound) + 1 := by
      rw [List.length_cons, edges]
      omega
    rw [length, List.cons_append, walkFrom, walkAlong, if_neg (Bool.eq_false_iff.mp new)]
    split
    · rfl
    · cases value : (store.context id).includes.value with
      | none => rfl
      | some includes =>
        obtain rfl := resolved id List.mem_cons_self includes value
        have resolvedBelow : ∀ other ∈ below, ∀ known,
            (store.context other).includes.value = some known → known = graph other :=
          fun other member => resolved other (by simp [member])
        have resolvedBehind : ∀ other ∈ order, ∀ known,
            (store.context other).includes.value = some known → known = graph other :=
          fun other member => resolved other (by simp [member])
        simp only [Option.getD_some]
        rw [ihDown resolvedBelow (rest.length + store.edgesOf order + bound) (rest ++ stack),
          walkAlong_append stops, Walk.andThen_assoc]
        apply walkAlong_andThen_congr
        exact ihAlong resolvedBehind bound stack

end Along

/-- Documents that are all different have no more includes than all documents together. -/
theorem edgesOf_le_edgeCount (store : Store) {ids : List ContextId} (distinct : ids.Nodup) :
    store.edgesOf ids ≤ store.edgeCount := by
  have whole : store.edgeCount = store.edgesOf (List.range store.length) := by
    rw [edgeCount, edgesOf, List.length_flatMap, List.length_flatMap]
    congr 1
    apply List.ext_getElem
    · simp
    · intro index known known'
      rw [List.length_map] at known
      rw [List.getElem_map, List.getElem_map, List.getElem_range, context_of_lt known]
  rw [whole, edgesOf, edgesOf, List.length_flatMap, List.length_flatMap,
    ← List.sum_toFinset _ distinct, ← List.sum_toFinset _ List.nodup_range]
  apply Finset.sum_le_sum_of_ne_zero
  intro id _ some
  rw [List.mem_toFinset, List.mem_range]
  -- A document that is not in the store has no includes.
  rcases Nat.lt_or_ge id store.length with known | unknown
  · exact known
  · rw [context_of_le unknown] at some
    exact (some rfl).elim

/-- How a walk along an order can end. -/
inductive Course (store : Store) (stops : ContextId → Bool) (order : List ContextId) : Walk → Prop
    where
  | complete (passed : ∀ id ∈ order, stops id = false ∧ (store.context id).includes.value ≠ none) :
      Course store stops order ⟨order.reverse, .complete⟩
  | stopped {before after : List ContextId} {id : ContextId} (split : order = before ++ id :: after)
      (passed : ∀ id ∈ before, stops id = false ∧ (store.context id).includes.value ≠ none)
      (stop : stops id = true) : Course store stops order ⟨id :: before.reverse, .stopped id⟩
  | blocked {before after : List ContextId} {id : ContextId} (split : order = before ++ id :: after)
      (passed : ∀ id ∈ before, stops id = false ∧ (store.context id).includes.value ≠ none)
      (goes : stops id = false) (unresolved : (store.context id).includes.value = none) :
      Course store stops order ⟨id :: before.reverse, .blocked id⟩

/-- What a walk has entered is an initial segment of its order. -/
theorem Course.entered {store : Store} {stops : ContextId → Bool} {order : List ContextId}
    {walk : Walk} (course : Course store stops order walk) : walk.entered.reverse <+: order := by
  cases course with
  | complete passed => simp
  | stopped split passed stop => simp [split]
  | blocked split passed goes unresolved => simp [split]

theorem walkAlong_course (store : Store) (stops : ContextId → Bool) (passed order : List ContextId)
    (free : ∀ id ∈ passed, stops id = false ∧ (store.context id).includes.value ≠ none) :
    Course store stops (passed ++ order) (walkAlong store stops passed.reverse order) := by
  induction order generalizing passed with
  | nil =>
    rw [List.append_nil]
    exact .complete free
  | cons id rest ih =>
    simp only [walkAlong]
    split
    · next stop => exact .stopped rfl free stop
    · next goes =>
      rw [Bool.not_eq_true] at goes
      split
      · next unresolved => exact .blocked rfl free goes unresolved
      · next includes resolved =>
        have free : ∀ other ∈ passed ++ [id],
            stops other = false ∧ (store.context other).includes.value ≠ none := by
          intro other member
          rcases List.mem_append.mp member with member | member
          · exact free other member
          · rw [List.mem_singleton.mp member, resolved]
            exact ⟨goes, Option.some_ne_none _⟩
        simpa using ih (passed ++ [id]) free

/-- A walk enters documents in the preorder of the include graph. -/
theorem IncludeGraph.walk_course {store : Store} {start : ContextId}
    {graph : ContextId → List ContextId} (includes : store.IncludeGraph start graph)
    {order : List ContextId} (preorder : Preorder store graph [] [start] order)
    (stops : ContextId → Bool) : Course store stops order (store.walk stops start) := by
  have resolved : ∀ id ∈ order, ∀ known, (store.context id).includes.value = some known →
      known = graph id := fun id member known value =>
    includes.resolved ((includes.mem_preorder_iff preorder).mp member) value
  obtain ⟨spare, bound⟩ := Nat.exists_eq_add_of_le
    (store.edgesOf_le_edgeCount (includes.nodup_preorder preorder))
  have enough : store.edgeCount + 1 = [start].length + store.edgesOf order + spare := by
    rw [bound, List.length_singleton]
    omega
  have followed : store.walk stops start = walkAlong store stops [] order := by
    have whole := walkFrom_append stops preorder resolved spare []
    rw [List.append_nil, ← enough] at whole
    rw [walk, whole]
    generalize walkAlong store stops [] order = along
    rcases along with ⟨entered, ending⟩
    cases ending with
    | complete => rw [Walk.andThen, walkFrom]
    | stopped id => rfl
    | blocked id => rfl
  rw [followed]
  exact walkAlong_course store stops [] order nofun

end DiagramAssist.Store
