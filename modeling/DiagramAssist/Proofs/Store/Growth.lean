import DiagramAssist.Proofs.Store.Preorder

/-! # What stays known of documents

While engines work, documents are added, their trees change, their symbols are extracted and their
includes resolved. Through all this a document keeps its key, and whatever has once been extracted
or resolved stays as it is (`Grows`).
-/

namespace DiagramAssist

namespace Cell

variable {α : Type}

/-- Whether the value is known or some call is to find it. -/
def IsTaken (cell : Cell α) : Prop :=
  cell.value ≠ none ∨ cell.holder ≠ none

theorem isTaken_fill (cell : Cell α) (value : α) : (cell.fill value).IsTaken :=
  .inl (Option.some_ne_none _)

end Cell

/-- A document at two moments: what was known of it still is. -/
structure Context.Grows (before after : Context) : Prop where
  key : after.key = before.key
  symbols : ∀ {table : SymbolTable}, before.symbols = some table → after.symbols = some table
  includes : ∀ {ids : List ContextId}, before.includes.value = some ids →
    after.includes.value = some ids
  taken : before.includes.IsTaken → after.includes.IsTaken

namespace Context.Grows

theorem refl (context : Context) : Grows context context :=
  ⟨rfl, id, id, id⟩

theorem trans {first second third : Context} (left : Grows first second)
    (right : Grows second third) : Grows first third where
  key := right.key.trans left.key
  symbols known := right.symbols (left.symbols known)
  includes known := right.includes (left.includes known)
  taken taken := right.taken (left.taken taken)

/-- The tree may change. -/
theorem root (context : Context) (root : Root) : Grows context { context with root } :=
  ⟨rfl, id, id, id⟩

theorem extracted (context : Context) : Grows context context.extracted :=
  ⟨rfl, fun known => by simp [Context.extracted, Context.table, known], id, id⟩

/-- What is done to includes that are not known. -/
theorem withIncludes {context : Context} (unknown : context.includes.value = none)
    {cell : Cell (List ContextId)} (taken : cell.IsTaken) :
    Grows context { context with includes := cell } where
  key := rfl
  symbols known := known
  includes known := by
    rw [unknown] at known
    cases known
  taken _ := taken

/-- Extracted symbols are the symbols of the document from then on. -/
theorem table {before after : Context} (grows : Grows before after)
    (known : before.symbols ≠ none) : after.table = before.table := by
  obtain ⟨table, known⟩ := Option.ne_none_iff_exists'.mp known
  simp only [Context.table, known, grows.symbols known, Option.getD_some]

end Context.Grows

namespace Store

/-- A store at two moments: documents are only added, and what was known of them still is. -/
structure Grows (before after : Store) : Prop where
  length : before.length ≤ after.length
  context : ∀ {id : ContextId}, id < before.length →
    (before.context id).Grows (after.context id)

/-- Two stores with the same documents, which include the same, and with symbols not forgotten. -/
structure SameLinks (before after : Store) : Prop where
  length : after.length = before.length
  includes : ∀ id, (after.context id).includes = (before.context id).includes
  context : ∀ id, (before.context id).Grows (after.context id)

/-- Whatever is included has a key. -/
def Linked (store : Store) : Prop :=
  ∀ {id : ContextId} {ids : List ContextId}, (store.context id).includes.value = some ids →
    ∀ other ∈ ids, (store.context other).key ≠ none

/-- A document of which something is known is there. -/
theorem lt_length_of_includes {store : Store} {id : ContextId}
    (taken : (store.context id).includes.IsTaken) : id < store.length := by
  rcases Nat.lt_or_ge id store.length with known | unknown
  · exact known
  · rw [context_of_le unknown] at taken
    rcases taken with known | held
    · exact (known rfl).elim
    · exact (held rfl).elim

namespace Grows

variable {first second third : Store} {id : ContextId}

theorem refl (store : Store) : Grows store store :=
  ⟨Nat.le_refl _, fun _ => .refl _⟩

theorem trans (left : Grows first second) (right : Grows second third) : Grows first third where
  length := Nat.le_trans left.length right.length
  context known := (left.context known).trans
    (right.context (Nat.lt_of_lt_of_le known left.length))

theorem lt_length (grows : Grows first second) (known : id < first.length) : id < second.length :=
  Nat.lt_of_lt_of_le known grows.length

theorem key (grows : Grows first second) (keyed : (first.context id).key ≠ none) :
    (second.context id).key = (first.context id).key :=
  (grows.context (lt_length_of_key keyed)).key

theorem key_ne_none (grows : Grows first second) (keyed : (first.context id).key ≠ none) :
    (second.context id).key ≠ none := by
  rwa [grows.key keyed]

theorem symbols (grows : Grows first second) {table : SymbolTable}
    (known : (first.context id).symbols = some table) :
    (second.context id).symbols = some table := by
  rcases Nat.lt_or_ge id first.length with there | missing
  · exact (grows.context there).symbols known
  · rw [context_of_le missing] at known
    cases known

theorem includes (grows : Grows first second) {ids : List ContextId}
    (known : (first.context id).includes.value = some ids) :
    (second.context id).includes.value = some ids := by
  have there : id < first.length := lt_length_of_includes (.inl (by simp [known]))
  exact (grows.context there).includes known

theorem taken (grows : Grows first second) (taken : (first.context id).includes.IsTaken) :
    (second.context id).includes.IsTaken :=
  (grows.context (lt_length_of_includes taken)).taken taken

end Grows

theorem grows_add (store : Store) (added : Context) : Grows store (store.add added).1 where
  length := by simp [add]
  context known := by
    rw [context_add_of_lt known]
    exact .refl _

/-- A change lets a store grow if it lets the document grow to which it is made. -/
theorem grows_update {store : Store} {target : ContextId} {change : Context → Context}
    (grows : (store.context target).Grows (change (store.context target))) :
    Grows store (store.update target change) where
  length := by simp [update]
  context {id} known := by
    by_cases here : id = target
    · subst here
      rwa [context_update_self known]
    · rw [context_update_of_ne here]
      exact .refl _

namespace SameLinks

variable {first second third : Store}

theorem refl (store : Store) : SameLinks store store :=
  ⟨rfl, fun _ => rfl, fun _ => .refl _⟩

theorem trans (left : SameLinks first second) (right : SameLinks second third) :
    SameLinks first third where
  length := right.length.trans left.length
  includes id := (right.includes id).trans (left.includes id)
  context id := (left.context id).trans (right.context id)

theorem grows (same : SameLinks first second) : Grows first second :=
  ⟨Nat.le_of_eq same.length.symm, fun _ => same.context _⟩

end SameLinks

theorem sameLinks_root (store : Store) (target : ContextId) (root : Root) :
    SameLinks store (store.update target fun context => { context with root }) where
  length := by simp [update]
  includes := by
    apply read_update Context.includes
    exact fun _ => rfl
  context id := by
    rcases Nat.lt_or_ge id store.length with known | unknown
    · exact (grows_update (.root _ root)).context known
    · rw [context_of_le unknown, context_of_le (by simpa [update] using unknown)]
      exact .refl _

theorem sameLinks_extract (store : Store) (target : ContextId) :
    SameLinks store (store.extract target) where
  length := by simp [extract, update]
  includes := by
    apply read_update Context.includes
    exact fun _ => rfl
  context id := by
    rcases Nat.lt_or_ge id store.length with known | unknown
    · exact (grows_update (.extracted _)).context known
    · rw [context_of_le unknown, context_of_le (by simpa [extract, update] using unknown)]
      exact .refl _

theorem sameLinks_extractAll (store : Store) (entered : List ContextId) :
    SameLinks store (store.extractAll entered) := by
  induction entered with
  | nil => exact .refl store
  | cons id rest ih => exact ih.trans (sameLinks_extract _ id)

/-- A document whose symbols have been extracted among others. -/
theorem symbols_extractAll {store : Store} {entered : List ContextId} {id : ContextId}
    (listed : id ∈ entered) (known : id < store.length) :
    ((store.extractAll entered).context id).symbols = some (store.context id).table := by
  induction entered with
  | nil => cases listed
  | cons first rest ih =>
    by_cases here : id = first
    · subst here
      have there : id < (store.extractAll rest).length := by
        rwa [(sameLinks_extractAll store rest).length]
      have now : ((store.extractAll (id :: rest)).context id) =
          ((store.extractAll rest).context id).extracted := context_update_self there _
      rw [now, ← table_extractAll store rest id]
      rfl
    · have later := ih ((List.mem_cons.mp listed).resolve_left here)
      exact ((sameLinks_extract _ first).context id).symbols later

end Store

end DiagramAssist
