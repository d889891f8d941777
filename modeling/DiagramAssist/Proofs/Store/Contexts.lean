import DiagramAssist.Store

/-! # Reading documents from a changed store

Documents are added behind those that are there, and a change of one document leaves alone whatever
it keeps of that document. In particular keys never change, and symbols do not change by being
extracted.
-/

namespace DiagramAssist.Store

theorem context_of_lt {store : Store} {id : ContextId} (known : id < store.length) :
    store.context id = store[id] := by
  rw [context, List.getD_eq_getElem?_getD, List.getElem?_eq_getElem known, Option.getD_some]

theorem context_of_le {store : Store} {id : ContextId} (unknown : store.length ≤ id) :
    store.context id = default := by
  rw [context, List.getD_eq_getElem?_getD, List.getElem?_eq_none unknown, Option.getD_none]

theorem context_add_of_lt {store : Store} {id : ContextId} (known : id < store.length)
    (added : Context) : (store.add added).1.context id = store.context id := by
  simp only [add, context, List.getD_eq_getElem?_getD, List.getElem?_append_left known]

theorem context_add_self (store : Store) (added : Context) :
    (store.add added).1.context store.length = added := by
  simp [add, context]

/-- A document of a store to which one has been added is one of the older ones, or the one added. -/
theorem context_add_cases {store : Store} {added : Context} {id : ContextId}
    (known : id < (store.add added).1.length) :
    (id < store.length ∧ (store.add added).1.context id = store.context id) ∨
      (id = store.length ∧ (store.add added).1.context id = added) := by
  have length : (store.add added).1.length = store.length + 1 := List.length_append
  rw [length] at known
  rcases Nat.lt_succ_iff_lt_or_eq.mp known with older | rfl
  · exact .inl ⟨older, context_add_of_lt older added⟩
  · exact .inr ⟨rfl, context_add_self store added⟩

theorem context_update_self {store : Store} {target : ContextId} (known : target < store.length)
    (change : Context → Context) :
    (store.update target change).context target = change (store.context target) := by
  simp only [update, context, List.getD_eq_getElem?_getD, List.getElem?_modify,
    List.getElem?_eq_getElem known, Option.map_eq_map, Option.map_some, Option.getD_some,
    ↓reduceIte]

theorem context_update_of_ne {target id : ContextId} (different : id ≠ target) (store : Store)
    (change : Context → Context) :
    (store.update target change).context id = store.context id := by
  simp only [update, context, List.getD_eq_getElem?_getD, List.getElem?_modify,
    if_neg different.symm, Option.map_eq_map, Option.map_id']

/-- Whatever a change keeps of the document it is made to is kept of all documents. -/
theorem read_update {α : Type} (read : Context → α) {change : Context → Context}
    (kept : ∀ context, read (change context) = read context) (store : Store)
    (target id : ContextId) :
    read ((store.update target change).context id) = read (store.context id) := by
  simp only [update, context, List.getD_eq_getElem?_getD, List.getElem?_modify]
  cases store[id]? with
  | none => rfl
  | some found =>
    simp only [Option.getD_some]
    split
    · exact kept found
    · rfl

/-- Documents are only ever added, and they keep their keys. -/
structure KeepsKeys (before after : Store) : Prop where
  known : ∀ {id : ContextId}, id < before.length → id < after.length
  key : ∀ {id : ContextId}, id < before.length → (after.context id).key = (before.context id).key

theorem KeepsKeys.refl (store : Store) : KeepsKeys store store :=
  ⟨id, fun _ => rfl⟩

theorem keepsKeys_add (store : Store) (added : Context) : KeepsKeys store (store.add added).1 where
  known lt := by simpa [add] using Nat.lt_succ_of_lt lt
  key lt := by rw [context_add_of_lt lt]

theorem keepsKeys_update (store : Store) (target : ContextId) (root : Root) :
    KeepsKeys store (store.update target fun context => { context with root }) where
  known lt := by simpa [update] using lt
  key _ := by
    apply read_update Context.key
    exact fun _ => rfl

/-- Extracting symbols keeps everything that extracting keeps of a single document. -/
theorem read_extractAll {α : Type} (read : Context → α)
    (kept : ∀ context, read context.extracted = read context) (store : Store)
    (entered : List ContextId) (id : ContextId) :
    read ((store.extractAll entered).context id) = read (store.context id) := by
  induction entered with
  | nil => rfl
  | cons first rest ih =>
    rw [← ih]
    exact read_update read kept (store.extractAll rest) first id

theorem table_extractAll (store : Store) (entered : List ContextId) (id : ContextId) :
    ((store.extractAll entered).context id).table = (store.context id).table :=
  read_extractAll Context.table (fun _ => rfl) store entered id

theorem key_extractAll (store : Store) (entered : List ContextId) (id : ContextId) :
    ((store.extractAll entered).context id).key = (store.context id).key :=
  read_extractAll Context.key (fun _ => rfl) store entered id

end DiagramAssist.Store
