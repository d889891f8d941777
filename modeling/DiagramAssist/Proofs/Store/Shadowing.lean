import DiagramAssist.Proofs.Store.Agreement

/-! # What hides what is included

The first item of a name is offered, and the own items of a document come first, so an own item
hides whatever is included under its name. Two things follow that are easily missed. The filter is
applied before names are compared: where it rejects all own items of a name, included items of the
name are offered, even if the document defines a callable of the name and every look-up finds that
one (`included_offered_iff_own_rejected`). And a name that the document mentions but does not
declare is an own item too: it is offered as such, whether or not an include declares it
(`field_iff_undeclared_in_document`).
-/

namespace DiagramAssist

namespace SymbolTable

variable {table : SymbolTable} {range : Range} {filter : Filter} {name : String} {item : Item}

/-- A document mentions a name and declares it neither as variable, nor as macro or callable. -/
def IsUndeclared (table : SymbolTable) (name : String) : Prop :=
  (∃ mention ∈ table.mentions, mention.name = name) ∧ table.declares name = false

/-- An item of a document is a field for an undeclared name, or it is for a declared one. -/
theorem kind_of_mem_items (member : item ∈ table.items range filter) :
    (item.kind = .field ∧ table.IsUndeclared item.insertText) ∨
      ((item.kind = .variable ∨ item.kind = .function) ∧
        table.declares item.insertText = true) := by
  have member := List.mem_of_mem_filter member
  rw [List.mem_append, List.mem_append] at member
  rcases member with (declared | defined) | mentioned
  · obtain ⟨declaration, listed, rfl⟩ := List.mem_map.mp declared
    refine .inr ⟨.inl rfl, ?_⟩
    rw [declares, Bool.or_eq_true, List.any_eq_true]
    exact .inl ⟨declaration, List.mem_of_mem_filter listed, beq_self_eq_true _⟩
  · obtain ⟨callable, listed, rfl⟩ := List.mem_map.mp defined
    refine .inr ⟨.inr rfl, ?_⟩
    rw [declares, Bool.or_eq_true, List.any_eq_true, List.any_eq_true]
    exact .inr ⟨callable, listed, beq_self_eq_true _⟩
  · rw [mentionItems] at mentioned
    split at mentioned
    · cases mentioned
    · obtain ⟨mention, listed, rfl⟩ := List.mem_map.mp mentioned
      obtain ⟨listed, new⟩ := List.mem_filter.mp listed
      rw [Bool.not_eq_true'] at new
      exact .inl ⟨rfl, ⟨mention, listed, rfl⟩, new⟩

/-- Asked without restriction, a document offers the names that it mentions and does not declare. -/
theorem mem_insertTexts_of_isUndeclared (undeclared : table.IsUndeclared name) (range : Range) :
    name ∈ (table.items range .all).map Item.insertText := by
  obtain ⟨⟨mention, listed, rfl⟩, new⟩ := undeclared
  have free : (!table.declares mention.name) = true := by rw [new, Bool.not_false]
  have offered : ⟨.field, mention.name, mention.name, range⟩ ∈ table.mentionItems range .all :=
    List.mem_map.mpr ⟨mention, List.mem_filter.mpr ⟨listed, free⟩, rfl⟩
  exact List.mem_map.mpr ⟨_, List.mem_filter.mpr ⟨List.mem_append_right _ offered, rfl⟩, rfl⟩

theorem Exports.kind (visible : table.Exports range item) :
    item.kind = .variable ∨ item.kind = .function := by
  cases visible with
  | globalVariable declared isGlobal => exact .inl rfl
  | define declared isDefine => exact .inl rfl
  | callable defined => exact .inr rfl

end SymbolTable

namespace Store

variable {store : Store} {start : ContextId} {graph : ContextId → List ContextId}

/-- The own entries of a document that a filter lets through hide what is included under their
names, and nothing else does. So if a document defines a callable, which is then what every look-up
of the name finds, an included item of the name is offered just if the filter rejects all own items
of the name and an include exports it; if the filter accepts the callable, none is. An own item of
the name that is a function always has the signature of the callable that is looked up. -/
theorem included_offered_iff_own_rejected (includes : store.IncludeGraph start graph)
    (range : Range) (filter : Filter) {name : String} (declared : store.Declares name start) :
    ∃ hit own further,
      (∀ now : Store, now.IncludeGraph start graph → Alike store now → ∀ found,
        Concludes graph (fun now => now.findCallable name start) now found ↔ found = some hit) ∧
      hit.origin = (store.context start).key ∧
      (∀ other, Concludes graph (fun now => now.suggestions range filter start) store other ↔
        other = own ++ further) ∧
      Item.FirstOccurrences ((store.context start).table.items range filter) own ∧
      (∀ item ∈ further, ∃ id, Reachable graph start id ∧ id ≠ start ∧
        (store.context id).table.Exports range item) ∧
      (∀ item ∈ own, item.insertText = name → item.kind = .function →
        item.label = hit.callable.signature) ∧
      ((∃ item ∈ further, item.insertText = name) ↔
        name ∉ ((store.context start).table.items range filter).map Item.insertText ∧
          ∃ id, Reachable graph start id ∧ id ≠ start ∧
            ∃ item, (store.context id).table.Exports range item ∧ item.insertText = name) ∧
      (filter.accepts ⟨.function, name, hit.callable.signature, range⟩ = true →
        ∀ item ∈ further, item.insertText ≠ name) := by
  obtain ⟨below, -, preorder⟩ := includes.exists_preorder
  have others (id : ContextId) : id ∈ below ↔ Reachable graph start id ∧ id ≠ start :=
    includes.mem_below_iff preorder
  obtain ⟨callable, defined⟩ := Option.isSome_iff_exists.mp (defines_iff.mpr declared)
  obtain ⟨own, further, merged, distinct, firsts, sound, complete⟩ :=
    store.mergeItems_own_then_exports range filter start below
  -- Own items and included ones never have the same name.
  have hidden {item : Item} (member : item ∈ further) : item.insertText ∉
      ((store.context start).table.items range filter).map Item.insertText := by
    rw [← firsts.mem_insertTexts_iff]
    rw [List.map_append, List.nodup_append] at distinct
    exact fun offered => distinct.2.2 _ offered _ (List.mem_map_of_mem member) rfl
  refine ⟨⟨callable, (store.context start).key⟩, own, further, ?_, rfl, ?_, firsts, ?_, ?_, ?_, ?_⟩
  · intro now graphNow alike
    have settled := graphNow.findCallable_settles (alike.preorder preorder) name
    rw [alike.callableAt?, List.findSome?_cons, callableAt?, defined, Option.map_some] at settled
    exact settled.iff
  · rw [← merged]
    exact (includes.suggestions_settle preorder range filter).iff
  · intro item member
    obtain ⟨id, listed, visible⟩ := sound item member
    obtain ⟨reached, different⟩ := (others id).mp listed
    exact ⟨id, reached, different, visible⟩
  · intro item member text isFunction
    obtain ⟨first, found, signature⟩ :=
      SymbolTable.callable?_of_find?_items ((firsts.mem_iff item).mp member) isFunction
    rw [text, defined] at found
    cases found
    exact signature.symm
  · constructor
    · rintro ⟨item, member, rfl⟩
      obtain ⟨id, listed, visible⟩ := sound item member
      obtain ⟨reached, different⟩ := (others id).mp listed
      exact ⟨hidden member, id, reached, different, item, visible, rfl⟩
    · rintro ⟨rejected, id, reached, different, item, visible, rfl⟩
      have offered := complete id ((others id).mpr ⟨reached, different⟩) item visible
      rw [List.map_append, List.mem_append, firsts.mem_insertTexts_iff] at offered
      obtain ⟨other, member, text⟩ := List.mem_map.mp (offered.resolve_left rejected)
      exact ⟨other, member, text⟩
  · rintro accepted item member rfl
    obtain ⟨listed, named⟩ := SymbolTable.mem_callables_of_callable? defined
    refine hidden member (List.mem_map.mpr ⟨_, List.mem_filter.mpr ⟨?_, accepted⟩, rfl⟩)
    refine List.mem_append_left _ (List.mem_append_right _ ?_)
    rw [← named]
    exact List.mem_map_of_mem listed

/-- An unsaved document that defines a callable and mentions a name. Its include defines a callable
of the same name with other parameters and declares the mentioned name. -/
def overridden : Store :=
  let parameter (name : String) : Parameter := ⟨⟨name, default⟩, none, default⟩
  let own : Callable := ⟨.function, ⟨"f", default⟩, [parameter "a"], .text none, default⟩
  let included : Callable :=
    ⟨.function, ⟨"f", default⟩, [parameter "b", parameter "c"], .text none, default⟩
  [⟨none, default, some ⟨[], [own], [⟨"g", default⟩], []⟩, ⟨some [1], none, []⟩⟩,
    ⟨some "a", default, some ⟨[⟨"g", .variable .global, default⟩], [included], [], []⟩,
      ⟨some [], none, []⟩⟩]

theorem includeGraph_overridden :
    overridden.IncludeGraph 0 fun id => (overridden.context id).includes.value.getD [] :=
  includeGraph_of_distinct (by decide) (by decide) (by decide)

/-- A filter for functions accepts the own callable, so the included one is not offered. -/
theorem own_callable_hides_included :
    (overridden.IncludeGraph 0 fun id => (overridden.context id).includes.value.getD []) ∧
      overridden.Declares "f" 0 ∧
      ∃ own further, (overridden.suggestions (.point default)
          { Filter.all with kinds := some [.function] } 0).2 = .answer (own ++ further) ∧
        ∀ item ∈ further, item.insertText ≠ "f" := by
  have declared : overridden.Declares "f" 0 := defines_iff.mp (by decide)
  obtain ⟨hit, own, further, -, -, settled, -, -, -, -, hides⟩ :=
    included_offered_iff_own_rejected includeGraph_overridden (.point default)
      { Filter.all with kinds := some [.function] } declared
  obtain ⟨items, answered⟩ : ∃ items, (overridden.suggestions (.point default)
    { Filter.all with kinds := some [.function] } 0).2 = .answer items := ⟨_, rfl⟩
  obtain rfl := (settled items).mp (.answer answered)
  exact ⟨includeGraph_overridden, declared, own, further, answered, hides rfl⟩

/-- A filter for variables rejects the own callable, so the included one is offered, although a
look-up finds the own one. -/
theorem included_callable_offered_for_variables :
    (overridden.IncludeGraph 0 fun id => (overridden.context id).includes.value.getD []) ∧
      overridden.Declares "f" 0 ∧
      (∃ hit, (overridden.findCallable "f" 0).2 = .answer (some hit) ∧ hit.origin = none ∧
        hit.callable.signature = "f(a)") ∧
      ∃ items, (overridden.suggestions (.point default)
          { Filter.all with kinds := some [.variable] } 0).2 = .answer items ∧
        ⟨.function, "f", "f(b, c)", .point default⟩ ∈ items ∧
        (overridden.context 1).table.Exports (.point default)
          ⟨.function, "f", "f(b, c)", .point default⟩ := by
  refine ⟨includeGraph_overridden, defines_iff.mp (by decide), ⟨_, rfl, rfl, by decide⟩, _, rfl,
    by decide, ?_⟩
  exact (SymbolTable.mem_items_forIncludes_iff _ _ _).mp (by decide)

/-- Without a filter, an item is a field just if the document itself mentions its name and does not
declare it, whatever its includes declare. Every other item is of a variable or function that the
document declares or an include exports. Each name that an include exports is offered, so it is
offered as a field if the document mentions it undeclared. -/
theorem field_iff_undeclared_in_document (includes : store.IncludeGraph start graph)
    (range : Range) :
    ∃ items,
      (∀ other, Concludes graph (fun now => now.suggestions range .all start) store other ↔
        other = items) ∧
      (∀ item ∈ items,
        (item.kind = .field ↔ (store.context start).table.IsUndeclared item.insertText) ∧
        (item.kind ≠ .field → (item.kind = .variable ∨ item.kind = .function) ∧
          ((store.context start).table.declares item.insertText = true ∨
            ∃ id, Reachable graph start id ∧ id ≠ start ∧
              (store.context id).table.Exports range item))) ∧
      (∀ name, (store.context start).table.IsUndeclared name → name ∈ items.map Item.insertText) ∧
      ∀ id, Reachable graph start id → id ≠ start →
        ∀ item, (store.context id).table.Exports range item →
          item.insertText ∈ items.map Item.insertText := by
  obtain ⟨below, -, preorder⟩ := includes.exists_preorder
  refine ⟨_, (includes.suggestions_settle preorder range .all).iff, ?_, ?_, ?_⟩
  · intro item member
    rw [mem_mergeItems_iff, Option.or_eq_some_iff] at member
    rcases member with found | ⟨missed, found⟩
    · rcases SymbolTable.kind_of_mem_items (List.mem_of_find?_eq_some found) with
        ⟨isField, undeclared⟩ | ⟨kind, declared⟩
      · exact ⟨iff_of_true isField undeclared, fun other => (other isField).elim⟩
      · refine ⟨iff_of_false ?_ fun undeclared => ?_, fun _ => ⟨kind, .inl declared⟩⟩
        · rcases kind with kind | kind <;> simp [kind]
        · rw [undeclared.2] at declared
          cases declared
    · -- An included item is offered only if no own item has its name.
      obtain ⟨id, listed, found⟩ := List.exists_of_findSome?_eq_some found
      have visible := (SymbolTable.mem_items_forIncludes_iff _ range item).mp
        (List.mem_of_find?_eq_some found)
      refine ⟨iff_of_false ?_ fun undeclared => ?_, fun _ => ⟨visible.kind, .inr ⟨id, ?_⟩⟩⟩
      · rcases visible.kind with kind | kind <;> simp [kind]
      · obtain ⟨other, offered, text⟩ :=
          List.mem_map.mp (SymbolTable.mem_insertTexts_of_isUndeclared undeclared range)
        exact List.find?_eq_none.mp missed other offered (beq_iff_eq.mpr text)
      · obtain ⟨reached, different⟩ := (includes.mem_below_iff preorder).mp listed
        exact ⟨reached, different, visible⟩
  · intro name undeclared
    rw [mem_insertTexts_mergeItems_iff]
    exact .inl (SymbolTable.mem_insertTexts_of_isUndeclared undeclared range)
  · intro id reached different item visible
    rw [mem_insertTexts_mergeItems_iff]
    refine .inr ⟨id, (includes.mem_below_iff preorder).mpr ⟨reached, different⟩, ?_⟩
    exact List.mem_map_of_mem ((SymbolTable.mem_items_forIncludes_iff _ range item).mpr visible)

/-- The name that the document mentions is offered as a field, the callable is not. -/
theorem fields_of_overridden :
    (overridden.IncludeGraph 0 fun id => (overridden.context id).includes.value.getD []) ∧
      ∃ items, (overridden.suggestions (.point default) .all 0).2 = .answer items ∧
        (∃ item ∈ items, item.insertText = "g" ∧ item.kind = .field) ∧
        ∃ item ∈ items, item.insertText = "f" ∧ item.kind ≠ .field := by
  obtain ⟨items, settled, kinds, mentioned, exported⟩ :=
    field_iff_undeclared_in_document includeGraph_overridden (.point default)
  obtain ⟨other, answered⟩ :
    ∃ other, (overridden.suggestions (.point default) .all 0).2 = .answer other := ⟨_, rfl⟩
  obtain rfl := (settled other).mp (.answer answered)
  have undeclared : (overridden.context 0).table.IsUndeclared "g" :=
    ⟨⟨_, List.mem_cons_self, rfl⟩, by decide⟩
  have reached : Reachable (fun id => (overridden.context id).includes.value.getD []) 0 1 :=
    .single (by decide)
  refine ⟨includeGraph_overridden, _, answered, ?_, ?_⟩
  · obtain ⟨item, member, text⟩ := List.mem_map.mp (mentioned "g" undeclared)
    rw [← text] at undeclared
    exact ⟨item, member, text, (kinds item member).1.mpr undeclared⟩
  · obtain ⟨item, member, text⟩ := List.mem_map.mp
      (exported 1 reached (by decide) _ (.callable List.mem_cons_self))
    refine ⟨item, member, text, fun isField => ?_⟩
    have undeclared := ((kinds item member).1.mp isField).2
    rw [text] at undeclared
    exact absurd undeclared (by decide)

/-- A global variable of an include is offered as a field where the document mentions it. -/
theorem included_global_offered_as_field :
    (overridden.IncludeGraph 0 fun id => (overridden.context id).includes.value.getD []) ∧
      (overridden.context 1).table.Exports (.point default)
        ⟨.variable, "g", "g", .point default⟩ ∧
      ∃ items, (overridden.suggestions (.point default) .all 0).2 = .answer items ∧
        ⟨.field, "g", "g", .point default⟩ ∈ items := by
  refine ⟨includeGraph_overridden, ?_, _, rfl, by decide⟩
  exact (SymbolTable.mem_items_forIncludes_iff _ _ _).mp (by decide)

end Store

end DiagramAssist
