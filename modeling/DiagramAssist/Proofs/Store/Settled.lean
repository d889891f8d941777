import DiagramAssist.Proofs.Store.Lookup
import DiagramAssist.Proofs.Store.Suggestions

/-! # What queries settle on

A query carried to its end has one answer (`Concludes.unique`), and on a finite include graph the
answer is a function of the documents in preorder: suggestions merge their items
(`IncludeGraph.suggestions_settle`), and a look-up takes the first match among them
(`IncludeGraph.findCallable_settles`). What is suggested under a name is in turn the first item of
that name (`mem_mergeItems_iff`), so both kinds of queries are searches of the same list.
-/

namespace DiagramAssist

/-- An item is kept just if it is the first one with its insert text. -/
theorem Item.FirstOccurrences.mem_iff {all kept : List Item} (firsts : FirstOccurrences all kept)
    (item : Item) : item ∈ kept ↔ all.find? (·.insertText == item.insertText) = some item := by
  have find_kept {found : Item} (member : found ∈ kept) :
      all.find? (·.insertText == found.insertText) = some found := by
    obtain ⟨before, after, split, new⟩ := firsts.first found member
    rw [List.find?_eq_some_iff_append]
    exact ⟨beq_self_eq_true _, before, after, split, by simpa using new⟩
  constructor
  · exact find_kept
  · intro found
    obtain ⟨other, member, same⟩ :=
      List.mem_map.mp (firsts.covers item (List.mem_of_find?_eq_some found))
    have found' := find_kept member
    rw [same, found] at found'
    cases found'
    exact member

/-- Whatever is inserted by an item is inserted by one that is kept. -/
theorem Item.FirstOccurrences.mem_insertTexts_iff {all kept : List Item}
    (firsts : FirstOccurrences all kept) (text : String) :
    text ∈ kept.map insertText ↔ text ∈ all.map insertText := by
  constructor
  · exact fun member => (firsts.sublist.map insertText).subset member
  · intro member
    obtain ⟨item, listed, rfl⟩ := List.mem_map.mp member
    exact firsts.covers item listed

namespace Store

variable {store now : Store} {start : ContextId} {graph : ContextId → List ContextId}

/-- A query is a function of the store, so it ends in one way only. -/
theorem Concludes.unique {α : Type} {query : Store → Store × Result α} {first second : α}
    (ended : Concludes graph query store first) (ended' : Concludes graph query store second) :
    first = second := by
  induction ended with
  | answer answered =>
    cases ended' with
    | answer answered' =>
      rw [answered] at answered'
      cases answered'
      rfl
    | resolve needed' unresolved' later' =>
      rw [answered] at needed'
      cases needed'
  | resolve needed unresolved later ih =>
    cases ended' with
    | answer answered' =>
      rw [needed] at answered'
      cases answered'
    | resolve needed' unresolved' later' =>
      rw [needed] at needed'
      cases needed'
      exact ih later'

theorem Concludes.iff {α : Type} {query : Store → Store × Result α} {value : α}
    (ended : Concludes graph query store value) (other : α) :
    Concludes graph query store other ↔ other = value := by
  constructor
  · exact fun ended' => ended'.unique ended
  · rintro rfl
    exact ended

/-- An item is among the merged ones just if it is the first of its insert text, in the first
document or else in the first of the later documents that offers the text. -/
theorem mem_mergeItems_iff (store : Store) (range : Range) (filter : Filter) (first : ContextId)
    (later : List ContextId) (item : Item) :
    item ∈ store.mergeItems range filter (first :: later) ↔
      (((store.context first).table.items range filter).find?
          (·.insertText == item.insertText)).or
        (later.findSome? fun id => ((store.context id).table.items range .forIncludes).find?
          (·.insertText == item.insertText)) = some item := by
  rw [mergeItems_cons, (Item.firstOccurrences_mergeAll _).mem_iff, List.find?_append,
    List.find?_flatMap]

/-- A text is inserted by a merged item just if a document offers it. -/
theorem mem_insertTexts_mergeItems_iff (store : Store) (range : Range) (filter : Filter)
    (first : ContextId) (later : List ContextId) (text : String) :
    text ∈ (store.mergeItems range filter (first :: later)).map Item.insertText ↔
      text ∈ ((store.context first).table.items range filter).map Item.insertText ∨
        ∃ id ∈ later, text ∈ ((store.context id).table.items range .forIncludes).map
          Item.insertText := by
  rw [mergeItems_cons, (Item.firstOccurrences_mergeAll _).mem_insertTexts_iff, List.map_append,
    List.mem_append, List.map_flatMap, List.mem_flatMap]

theorem Alike.mergeItems (alike : Alike store now) (range : Range) (filter : Filter)
    (order : List ContextId) :
    now.mergeItems range filter order = store.mergeItems range filter order := by
  cases order with
  | nil => rfl
  | cons first later => simp only [mergeItems_cons, alike.table]

theorem Alike.callableAt? (alike : Alike store now) (name : String) :
    now.callableAt? name = store.callableAt? name := by
  funext id
  simp only [Store.callableAt?, alike.table, alike.key]

theorem callableAt?_eq_none_iff {name : String} {id : ContextId} :
    store.callableAt? name id = none ↔ store.defines name id = false := by
  simp only [callableAt?, defines, Option.map_eq_none_iff, Option.isSome_eq_false_iff,
    Option.isNone_iff_eq_none]

namespace IncludeGraph

/-- Suggestions end with the merged items of the preorder. -/
theorem suggestions_settle (includes : store.IncludeGraph start graph) {order : List ContextId}
    (preorder : Preorder store graph [] [start] order) (range : Range) (filter : Filter) :
    Concludes graph (fun now => now.suggestions range filter start) store
      (store.mergeItems range filter order) := by
  have extracts (now : Store) :
      ∃ entered, (now.suggestions range filter start).1 = now.extractAll entered := by
    simp only [suggestions]
    split
    · exact ⟨_, rfl⟩
    · exact ⟨_, rfl⟩
  suffices settled : ∃ items, Concludes graph (fun now => now.suggestions range filter start) store
      items ∧ items = store.mergeItems range filter order by
    obtain ⟨items, concluded, rfl⟩ := settled
    exact concluded
  apply includes.concludes extracts
  intro now graphNow alike
  have course := graphNow.walk_course (alike.preorder preorder) fun _ => false
  simp only [suggestions]
  generalize now.walk (fun _ => false) start = walk at course
  cases course with
  | complete passed =>
    refine .inl ⟨_, rfl, ?_⟩
    rw [List.reverse_reverse, mergeItems_extractAll, alike.mergeItems]
  | stopped split passed stop => cases stop
  | @blocked before after target split passed goes unresolved =>
    refine .inr ⟨target, (includes.mem_preorder_iff preorder).mp ?_, unresolved, rfl⟩
    rw [split]
    exact List.mem_append_right _ List.mem_cons_self

/-- A look-up ends with the first match in the preorder. -/
theorem findCallable_settles (includes : store.IncludeGraph start graph) {order : List ContextId}
    (preorder : Preorder store graph [] [start] order) (name : String) :
    Concludes graph (fun now => now.findCallable name start) store
      (order.findSome? (store.callableAt? name)) := by
  have extracts (now : Store) :
      ∃ entered, (now.findCallable name start).1 = now.extractAll entered := by
    simp only [findCallable]
    split
    · exact ⟨_, rfl⟩
    · exact ⟨_, rfl⟩
    · exact ⟨_, rfl⟩
  suffices settled : ∃ found, Concludes graph (fun now => now.findCallable name start) store
      found ∧ found = order.findSome? (store.callableAt? name) by
    obtain ⟨found, concluded, rfl⟩ := settled
    exact concluded
  apply includes.concludes extracts
  intro now graphNow alike
  have course := graphNow.walk_course (alike.preorder preorder) (now.defines name)
  rw [← alike.callableAt? name]
  simp only [findCallable]
  generalize now.walk (now.defines name) start = walk at course
  cases course with
  | complete passed =>
    refine .inl ⟨none, rfl, ?_⟩
    rw [eq_comm, List.findSome?_eq_none_iff]
    exact fun id member => callableAt?_eq_none_iff.mpr (passed id member).1
  | @stopped before after id split passed stop =>
    refine .inl ⟨_, rfl, ?_⟩
    have missed : before.findSome? (now.callableAt? name) = none := by
      rw [List.findSome?_eq_none_iff]
      exact fun other member => callableAt?_eq_none_iff.mpr (passed other member).1
    obtain ⟨hit, found⟩ : ∃ hit, now.callableAt? name id = some hit := by
      rw [← Option.ne_none_iff_exists', Ne, callableAt?_eq_none_iff, stop]
      simp
    rw [split, List.findSome?_append, missed, Option.none_or, List.findSome?_cons, found]
    simpa only [callableAt?, table_extractAll, key_extractAll] using found
  | @blocked before after target split passed goes unresolved =>
    refine .inr ⟨target, (includes.mem_preorder_iff preorder).mp ?_, unresolved, rfl⟩
    rw [split]
    exact List.mem_append_right _ List.mem_cons_self

end IncludeGraph

end Store

end DiagramAssist
