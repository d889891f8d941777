import DiagramAssist.Proofs.Store.Settled

/-! # Suggestions and look-ups agree

What is suggested as a function is what a look-up of its name finds, and what a look-up finds is
suggested. Both kinds of queries walk the includes on their own: a look-up stops at the first
document that defines the name, while suggestions merge the items of all documents. They agree since
a document that is asked without restriction offers a callable just if it defines one, and offers
the first one first.
-/

namespace DiagramAssist

/-- A filter looks at the kind of an item and at the text it inserts. -/
theorem Filter.accepts_congr (filter : Filter) {item other : Item} (kind : item.kind = other.kind)
    (text : item.insertText = other.insertText) : filter.accepts item = filter.accepts other := by
  rw [accepts, accepts, kind, text]

namespace SymbolTable

variable {table : SymbolTable} {range : Range} {filter : Filter} {name : String} {item : Item}

theorem kind_of_mem_declarationItems (member : item ∈ table.declarationItems range filter) :
    item.kind = .variable := by
  obtain ⟨declaration, -, rfl⟩ := List.mem_map.mp member
  rfl

theorem kind_of_mem_mentionItems (member : item ∈ table.mentionItems range filter) :
    item.kind = .field := by
  rw [mentionItems] at member
  split at member
  · cases member
  · obtain ⟨mention, -, rfl⟩ := List.mem_map.mp member
    rfl

/-- If the first item of a name is a function, it stands for the first callable of the name. -/
theorem callable?_of_find?_items
    (found : (table.items range filter).find? (·.insertText == name) = some item)
    (isFunction : item.kind = .function) :
    ∃ callable, table.callable? name = some callable ∧ callable.signature = item.label := by
  rw [items, List.filter_append, List.filter_append, List.find?_append, List.find?_append,
    Option.or_eq_some_iff, Option.or_eq_some_iff] at found
  rcases found with (found | ⟨-, found⟩) | ⟨-, found⟩
  · have member := List.mem_of_mem_filter (List.mem_of_find?_eq_some found)
    rw [kind_of_mem_declarationItems member] at isFunction
    cases isFunction
  · rw [List.find?_filter, callableItems, List.find?_map, Option.map_eq_some_iff] at found
    obtain ⟨callable, found, rfl⟩ := found
    refine ⟨callable, ?_, rfl⟩
    obtain ⟨accepted, named⟩ := by simpa using List.find?_some found
    -- Callables of one name are all accepted, or none of them is.
    rw [callable?, ← found]
    congr 1
    funext other
    rw [Function.comp_apply]
    by_cases named' : other.name.value = name
    · have accepted' : filter.accepts
          ⟨.function, other.name.value, other.signature, range⟩ = true := by
        rw [← accepted]
        exact filter.accepts_congr rfl (named'.trans named.symm)
      simp only [accepted', true_and, Bool.decide_eq_true]
    · simp [named']
  · have member := List.mem_of_mem_filter (List.mem_of_find?_eq_some found)
    rw [kind_of_mem_mentionItems member] at isFunction
    cases isFunction

theorem mem_callables_of_callable? {callable : Callable}
    (defined : table.callable? name = some callable) :
    callable ∈ table.callables ∧ callable.name.value = name := by
  rw [callable?] at defined
  exact ⟨List.mem_of_find?_eq_some defined, by simpa using List.find?_some defined⟩

/-- Asked without restriction, a document offers every callable it defines. -/
theorem mem_insertTexts_of_callable? (accepted : ∀ item, filter.accepts item = true)
    {callable : Callable} (defined : table.callable? name = some callable) (range : Range) :
    name ∈ (table.items range filter).map Item.insertText := by
  obtain ⟨listed, rfl⟩ := mem_callables_of_callable? defined
  have offered : ⟨.function, callable.name.value, callable.signature, range⟩ ∈
      table.callableItems range := List.mem_map_of_mem listed
  have member := List.mem_append_left (table.mentionItems range filter)
    (List.mem_append_right (table.declarationItems range filter) offered)
  exact List.mem_map.mpr ⟨_, List.mem_filter.mpr ⟨member, accepted _⟩, rfl⟩

theorem callable?_eq_none_of_find?_items (accepted : ∀ item, filter.accepts item = true)
    (missing : (table.items range filter).find? (·.insertText == name) = none) :
    table.callable? name = none := by
  rw [Option.eq_none_iff_forall_ne_some]
  intro callable defined
  obtain ⟨item, offered, text⟩ :=
    List.mem_map.mp (mem_insertTexts_of_callable? accepted defined range)
  exact List.find?_eq_none.mp missing item offered (beq_iff_eq.mpr text)

end SymbolTable

namespace Store

variable {store : Store} {start : ContextId} {below : List ContextId} {range : Range}

theorem callableAt?_eq_some_iff {name : String} {id : ContextId} {hit : CallableMatch} :
    store.callableAt? name id = some hit ↔
      (store.context id).table.callable? name = some hit.callable ∧
        hit.origin = (store.context id).key := by
  rw [callableAt?, Option.map_eq_some_iff]
  constructor
  · rintro ⟨callable, found, rfl⟩
    exact ⟨found, rfl⟩
  · rintro ⟨found, origin⟩
    exact ⟨hit.callable, found, by rw [← origin]⟩

/-- A function among the merged items is the first match of its name. -/
theorem findSome?_of_mem_mergeItems {item : Item}
    (member : item ∈ store.mergeItems range .all (start :: below))
    (isFunction : item.kind = .function) :
    ∃ hit, (start :: below).findSome? (store.callableAt? item.insertText) = some hit ∧
      hit.callable.signature = item.label := by
  have missing {filter : Filter} (accepted : ∀ item, filter.accepts item = true) {id : ContextId}
      (missed : ((store.context id).table.items range filter).find?
        (·.insertText == item.insertText) = none) :
      store.callableAt? item.insertText id = none := by
    rw [callableAt?, SymbolTable.callable?_eq_none_of_find?_items accepted missed, Option.map_none]
  rw [mem_mergeItems_iff, Option.or_eq_some_iff, List.findSome?_eq_some_iff] at member
  rcases member with found | ⟨missed, before, id, after, rfl, found, passed⟩
  · obtain ⟨callable, defined, signature⟩ := SymbolTable.callable?_of_find?_items found isFunction
    refine ⟨⟨callable, (store.context start).key⟩, ?_, signature⟩
    rw [List.findSome?_cons, callableAt?, defined, Option.map_some]
  · obtain ⟨callable, defined, signature⟩ := SymbolTable.callable?_of_find?_items found isFunction
    refine ⟨⟨callable, (store.context id).key⟩, ?_, signature⟩
    have passed' : before.findSome? (store.callableAt? item.insertText) = none := by
      rw [List.findSome?_eq_none_iff]
      exact fun other listed => missing (fun _ => rfl) (passed other listed)
    rw [List.findSome?_cons, missing (fun _ => rfl) missed, List.findSome?_append, passed',
      Option.none_or, List.findSome?_cons, callableAt?, defined, Option.map_some]

/-- The name of a match is among the texts that merged items insert. -/
theorem mem_insertTexts_of_findSome? {name : String} {hit : CallableMatch}
    (found : (start :: below).findSome? (store.callableAt? name) = some hit) (range : Range) :
    name ∈ (store.mergeItems range .all (start :: below)).map Item.insertText := by
  obtain ⟨id, listed, defined⟩ := List.exists_of_findSome?_eq_some found
  rw [callableAt?_eq_some_iff] at defined
  rw [mem_insertTexts_mergeItems_iff]
  rcases List.mem_cons.mp listed with rfl | listed
  · exact .inl (SymbolTable.mem_insertTexts_of_callable? (fun _ => rfl) defined.1 range)
  · exact .inr ⟨id, listed, SymbolTable.mem_insertTexts_of_callable? (fun _ => rfl) defined.1 range⟩

/-- Suggestions without a filter and look-ups agree, also when more of the includes is known at the
look-up than at the suggestions: what is suggested as a function is looked up with the signature it
is offered with, and what can be looked up is suggested. -/
theorem suggestions_agree_with_findCallable {store : Store} {start : ContextId}
    {graph : ContextId → List ContextId} (includes : store.IncludeGraph start graph)
    (range : Range) :
    ∃ items,
      (∀ other, Concludes graph (fun now => now.suggestions range .all start) store other ↔
        other = items) ∧
      ∀ now : Store, now.IncludeGraph start graph → Alike store now →
        (∀ item ∈ items, item.kind = .function → ∃ hit,
          (∀ found, Concludes graph (fun now => now.findCallable item.insertText start) now found ↔
            found = some hit) ∧
          hit.callable.name.value = item.insertText ∧ hit.callable.signature = item.label) ∧
        ∀ name, ∃ found,
          (∀ other, Concludes graph (fun now => now.findCallable name start) now other ↔
            other = found) ∧
          (found.isSome → name ∈ items.map Item.insertText) := by
  obtain ⟨below, -, preorder⟩ := includes.exists_preorder
  refine ⟨_, (includes.suggestions_settle preorder range .all).iff, ?_⟩
  intro now graphNow alike
  have settles (name : String) := graphNow.findCallable_settles (alike.preorder preorder) name
  rw [← alike.mergeItems]
  constructor
  · intro item member isFunction
    obtain ⟨hit, found, signature⟩ := findSome?_of_mem_mergeItems member isFunction
    have settled := settles item.insertText
    rw [found] at settled
    refine ⟨hit, settled.iff, ?_, signature⟩
    obtain ⟨id, -, defined⟩ := List.exists_of_findSome?_eq_some found
    exact (SymbolTable.mem_callables_of_callable? (callableAt?_eq_some_iff.mp defined).1).2
  · intro name
    refine ⟨_, (settles name).iff, fun isSome => ?_⟩
    obtain ⟨hit, found⟩ := Option.isSome_iff_exists.mp isSome
    exact mem_insertTexts_of_findSome? found range

/-- In a diamond with cycles the callable that two includes define is suggested with the signature
with which it is looked up. -/
theorem suggestions_agree_in_diamond :
    (diamond.IncludeGraph 0 fun id => (diamond.context id).includes.value.getD []) ∧
      Alike diamond diamond ∧
      ∃ items hit, (diamond.suggestions (.point default) .all 0).2 = .answer items ∧
        ⟨.function, "f", "f()", .point default⟩ ∈ items ∧
        (diamond.findCallable "f" 0).2 = .answer (some hit) ∧ hit.callable.signature = "f()" := by
  obtain ⟨items, settled, agree⟩ :=
    suggestions_agree_with_findCallable includeGraph_diamond (.point default)
  have answered : (diamond.suggestions (.point default) .all 0).2 = .answer items := by
    obtain ⟨other, answered⟩ :
      ∃ other, (diamond.suggestions (.point default) .all 0).2 = .answer other := ⟨_, rfl⟩
    rw [answered, (settled other).mp (.answer answered)]
  have offered : ⟨.function, "f", "f()", .point default⟩ ∈ items := by
    cases answered
    decide
  obtain ⟨hit, looked, -, signature⟩ :=
    (agree diamond includeGraph_diamond (.refl diamond)).1 _ offered rfl
  obtain ⟨found, answered'⟩ : ∃ found, (diamond.findCallable "f" 0).2 = .answer found := ⟨_, rfl⟩
  obtain rfl := (looked found).mp (.answer answered')
  exact ⟨includeGraph_diamond, .refl diamond, items, hit, answered, offered, answered', signature⟩

end Store

end DiagramAssist
