import DiagramAssist.Proofs.Store.Resolution

/-! # Looking a callable up

A callable is looked up in a document and, if it is not there, in what the document includes. The
answer is the first callable of the name in the depth-first preorder of the include graph. It does
not matter how much of the graph is resolved when the look-up begins.
-/

namespace DiagramAssist.Store

/-- The document defines a callable of exactly this name. -/
def Declares (store : Store) (name : String) (id : ContextId) : Prop :=
  ∃ callable ∈ (store.context id).table.callables, callable.name.value = name

/-- A match is the first callable of the name in the first document that defines one. -/
def IsFirstMatch (store : Store) (name : String) (order : List ContextId) (hit : CallableMatch) :
    Prop :=
  ∃ before id after, order = before ++ id :: after ∧
    (∀ earlier ∈ before, ¬store.Declares name earlier) ∧ hit.origin = (store.context id).key ∧
    ∃ front back, (store.context id).table.callables = front ++ hit.callable :: back ∧
      hit.callable.name.value = name ∧ ∀ callable ∈ front, callable.name.value ≠ name

section Definitions

variable {store : Store} {name : String} {id : ContextId}

theorem defines_iff : store.defines name id = true ↔ store.Declares name id := by
  simp only [defines, SymbolTable.callable?, List.find?_isSome, beq_iff_eq, Declares]

theorem not_declares_of_defines (missing : store.defines name id = false) :
    ¬store.Declares name id := fun declared =>
  Bool.eq_false_iff.mp missing (defines_iff.mpr declared)

/-- Where a document defines a callable, the first one is the match. -/
theorem callableAt?_of_defines {before : List ContextId} (after : List ContextId)
    (passed : ∀ earlier ∈ before, ¬store.Declares name earlier)
    (declared : store.defines name id = true) :
    ∃ hit, store.callableAt? name id = some hit ∧
      store.IsFirstMatch name (before ++ id :: after) hit := by
  obtain ⟨callable, found⟩ := Option.isSome_iff_exists.mp declared
  refine ⟨⟨callable, (store.context id).key⟩, by rw [callableAt?, found]; rfl, ?_⟩
  obtain ⟨named, front, back, split, different⟩ := List.find?_eq_some_iff_append.mp found
  refine ⟨before, id, after, rfl, passed, rfl, front, back, split, ?_, ?_⟩
  · exact beq_iff_eq.mp named
  · intro other member
    simpa using different other member

end Definitions

/-- A look-up, as far as it gets with the includes that are known, is answered with the first match
in the preorder, or it needs includes that are not known. -/
theorem findCallable_pass {store : Store} {start : ContextId} {graph : ContextId → List ContextId}
    (includes : store.IncludeGraph start graph) {order : List ContextId}
    (preorder : Preorder store graph [] [start] order) (name : String) :
    (∃ found, (store.findCallable name start).2 = .answer found ∧
        (found.isSome ↔ ∃ id, Reachable graph start id ∧ store.Declares name id) ∧
        ∀ hit, found = some hit → store.IsFirstMatch name order hit) ∨
      ∃ target, Reachable graph start target ∧ (store.context target).includes.value = none ∧
        (store.findCallable name start).2 = .needs target := by
  have member_iff (id : ContextId) : id ∈ order ↔ Reachable graph start id :=
    includes.mem_preorder_iff preorder
  have passed {before : List ContextId} (free : ∀ id ∈ before, store.defines name id = false ∧
      (store.context id).includes.value ≠ none) : ∀ id ∈ before, ¬store.Declares name id :=
    fun id member => not_declares_of_defines (free id member).1
  have course := includes.walk_course preorder (store.defines name)
  simp only [findCallable]
  generalize store.walk (store.defines name) start = walk at course
  cases course with
  | complete free =>
    refine .inl ⟨none, rfl, ?_, nofun⟩
    simp only [Option.isSome_none, Bool.false_eq_true, false_iff, not_exists, not_and]
    exact fun id reached => passed free id ((member_iff id).mpr reached)
  | @stopped before after id split free stop =>
    subst split
    obtain ⟨hit, found, first⟩ := callableAt?_of_defines after (passed free) stop
    refine .inl ⟨some hit, ?_, ?_, ?_⟩
    · simp only [callableAt?, table_extractAll, key_extractAll]
      exact congrArg Result.answer found
    · have reached := (member_iff id).mp (List.mem_append_right _ List.mem_cons_self)
      exact iff_of_true rfl ⟨id, reached, defines_iff.mp stop⟩
    · intro other same
      cases same
      exact first
  | @blocked before after target split free goes unresolved =>
    refine .inr ⟨target, (member_iff target).mp ?_, unresolved, rfl⟩
    rw [split]
    exact List.mem_append_right _ List.mem_cons_self

/-- A look-up carried to its end finds something just if a document that can be reached defines the
callable, and what it finds is the first match in the preorder of the include graph. In every pass
the documents searched are an initial segment of the preorder, so none is searched twice. -/
theorem findCallable_finds_first {store : Store} {start : ContextId}
    {graph : ContextId → List ContextId} (includes : store.IncludeGraph start graph)
    (name : String) :
    ∃ order : List ContextId,
      (∀ other, Preorder store graph [] [start] other ↔ other = order) ∧ order.Nodup ∧
      (∀ id, id ∈ order ↔ Reachable graph start id) ∧
      (store.walk (store.defines name) start).entered.reverse <+: order ∧
      ∃ found, Concludes graph (fun now => now.findCallable name start) store found ∧
        (found.isSome ↔ ∃ id, Reachable graph start id ∧ store.Declares name id) ∧
        ∀ hit, found = some hit → store.IsFirstMatch name order hit := by
  obtain ⟨below, -, preorder⟩ := includes.exists_preorder
  generalize start :: below = order at preorder
  refine ⟨order, fun other => ⟨?_, ?_⟩, includes.nodup_preorder preorder, fun id =>
    includes.mem_preorder_iff preorder, (includes.walk_course preorder _).entered, ?_⟩
  · exact fun preorder' => preorder'.unique preorder
  · rintro rfl
    exact preorder
  apply includes.concludes
  · intro now
    simp only [findCallable]
    split
    · exact ⟨_, rfl⟩
    · exact ⟨_, rfl⟩
    · exact ⟨_, rfl⟩
  · intro now graphNow alike
    have declares (id : ContextId) : now.Declares name id ↔ store.Declares name id := by
      rw [Declares, Declares, alike.table]
    have first (hit : CallableMatch) :
        now.IsFirstMatch name order hit ↔ store.IsFirstMatch name order hit := by
      simp only [IsFirstMatch, declares, alike.table, alike.key]
    simpa only [declares, first] using findCallable_pass graphNow (alike.preorder preorder) name

/-- In a diamond with cycles a callable that two documents define is found. -/
theorem findCallable_diamond :
    (diamond.IncludeGraph 0 fun id => (diamond.context id).includes.value.getD []) ∧
      ∃ hit order, (diamond.findCallable "f" 0).2 = .answer (some hit) ∧
        diamond.IsFirstMatch "f" order hit := by
  refine ⟨includeGraph_diamond, ?_⟩
  obtain ⟨order, -, -, -, -, found, concluded, reached, first⟩ :=
    findCallable_finds_first includeGraph_diamond "f"
  have defined : found.isSome := by
    rw [reached]
    refine ⟨2, .single ?_, defines_iff.mp ?_⟩
    · decide
    · decide
  obtain ⟨hit, rfl⟩ := Option.isSome_iff_exists.mp defined
  refine ⟨hit, order, ?_, first hit rfl⟩
  -- Everything is resolved, so the first pass gives the answer.
  cases concluded with
  | answer answered => exact answered
  | resolve needed unresolved later =>
    obtain ⟨value, answered⟩ : ∃ value, (diamond.findCallable "f" 0).2 = .answer value := ⟨_, rfl⟩
    rw [answered] at needed
    cases needed

end DiagramAssist.Store
