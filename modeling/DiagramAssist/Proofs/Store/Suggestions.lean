import DiagramAssist.Proofs.Store.Resolution

/-! # What is suggested in a document

The suggestions for a document are its own entries, restricted by the filter, and then what it sees
of the documents it includes, directly or not: their global variables, macros and callables. Of
several entries with one insert text the first is offered.
-/

namespace DiagramAssist

namespace Item

/-- What is left of items when each insert text is kept where it occurs first. -/
structure FirstOccurrences (all kept : List Item) : Prop where
  sublist : kept.Sublist all
  distinct : (kept.map insertText).Nodup
  covers : ∀ item ∈ all, item.insertText ∈ kept.map insertText
  first : ∀ item ∈ kept, ∃ before after, all = before ++ item :: after ∧
    ∀ earlier ∈ before, earlier.insertText ≠ item.insertText

/-- One more item is kept if its insert text is new. -/
theorem FirstOccurrences.append {all kept : List Item} (firsts : FirstOccurrences all kept)
    (item : Item) :
    FirstOccurrences (all ++ [item])
      (if kept.any (·.insertText == item.insertText) then kept else kept ++ [item]) := by
  have known_iff : kept.any (·.insertText == item.insertText) = true ↔
      item.insertText ∈ kept.map insertText := by
    simp only [List.any_eq_true, beq_iff_eq, List.mem_map]
  have first {found : Item} (member : found ∈ kept) : ∃ before after,
      all ++ [item] = before ++ found :: after ∧
        ∀ earlier ∈ before, earlier.insertText ≠ found.insertText := by
    obtain ⟨before, after, split, new⟩ := firsts.first found member
    exact ⟨before, after ++ [item], by rw [split, List.append_assoc, List.cons_append], new⟩
  split
  · next known =>
    rw [known_iff] at known
    refine ⟨firsts.sublist.trans (List.sublist_append_left _ _), firsts.distinct, ?_, ?_⟩
    · intro other member
      rcases List.mem_append.mp member with member | member
      · exact firsts.covers other member
      · rwa [List.mem_singleton.mp member]
    · exact fun found member => first member
  · next new =>
    rw [known_iff] at new
    refine ⟨firsts.sublist.append (List.Sublist.refl _), ?_, ?_, ?_⟩
    · rw [List.map_append, List.map_singleton, ← List.concat_eq_append]
      exact firsts.distinct.concat new
    · intro other member
      rw [List.map_append, List.mem_append]
      rcases List.mem_append.mp member with member | member
      · exact .inl (firsts.covers other member)
      · exact .inr (List.mem_map_of_mem member)
    · intro found member
      rcases List.mem_append.mp member with member | member
      · exact first member
      · rw [List.mem_singleton.mp member]
        refine ⟨all, [], rfl, fun earlier listed same => new ?_⟩
        rw [← same]
        exact firsts.covers earlier listed

theorem FirstOccurrences.mergeAll {all kept : List Item} (firsts : FirstOccurrences all kept)
    (more : List Item) : FirstOccurrences (all ++ more) (Item.mergeAll kept more) := by
  induction more generalizing all kept with
  | nil =>
    rw [List.append_nil]
    exact firsts
  | cons item rest ih =>
    rw [List.append_cons]
    exact ih (firsts.append item)

theorem firstOccurrences_mergeAll (all : List Item) :
    FirstOccurrences all (Item.mergeAll [] all) :=
  FirstOccurrences.mergeAll ⟨.slnil, .nil, nofun, nofun⟩ all

theorem mergeAll_append (items first second : List Item) :
    mergeAll items (first ++ second) = mergeAll (mergeAll items first) second :=
  List.foldl_append

/-- Items are added behind those that are there. -/
theorem mergeAll_eq_append (items more : List Item) :
    ∃ added, mergeAll items more = items ++ added ∧ added ⊆ more := by
  induction more generalizing items with
  | nil => exact ⟨[], (List.append_nil items).symm, List.Subset.refl _⟩
  | cons item rest ih =>
    rw [mergeAll, List.foldl_cons]
    split
    · obtain ⟨added, merged, subset⟩ := ih items
      exact ⟨added, merged, List.subset_cons_of_subset _ subset⟩
    · obtain ⟨added, merged, subset⟩ := ih (items ++ [item])
      refine ⟨item :: added, merged.trans (List.append_assoc _ _ _), ?_⟩
      exact List.cons_subset_cons item subset

end Item

namespace Filter

variable {filter : Filter}

/-- An item begins with the text that is asked for and has one of the kinds that are. -/
structure Admits (filter : Filter) (item : Item) : Prop where
  start : ∀ start ∈ filter.start, start.toList <+: item.insertText.toList
  kind : ∀ kinds ∈ filter.kinds, item.kind ∈ kinds

/-- Where only global variables are asked for, a declaration is one or no variable at all. -/
def Discloses (filter : Filter) (declaration : Declaration) : Prop :=
  filter.globalVariablesOnly = true →
    declaration.kind = .define ∨ declaration.kind = .variable .global

theorem accepts_iff {item : Item} : filter.accepts item = true ↔ filter.Admits item := by
  obtain ⟨start, kinds, excludes, globals⟩ := filter
  have parts : Admits ⟨start, kinds, excludes, globals⟩ item ↔
      (∀ text ∈ start, text.toList <+: item.insertText.toList) ∧
        ∀ listed ∈ kinds, item.kind ∈ listed :=
    ⟨fun admits => ⟨admits.start, admits.kind⟩, fun admits => ⟨admits.1, admits.2⟩⟩
  rw [parts, accepts, Bool.and_eq_true]
  cases start <;> cases kinds <;> simp

instance (filter : Filter) (item : Item) : Decidable (filter.Admits item) :=
  decidable_of_iff _ accepts_iff

instance (filter : Filter) (declaration : Declaration) :
    Decidable (filter.Discloses declaration) :=
  inferInstanceAs (Decidable (_ → _))

end Filter

namespace SymbolTable

/-- No declaration and no callable has the name. -/
def IsFree (table : SymbolTable) (name : String) : Prop :=
  (∀ declaration ∈ table.declarations, declaration.name ≠ name) ∧
    ∀ callable ∈ table.callables, callable.name.value ≠ name

instance (table : SymbolTable) (name : String) : Decidable (table.IsFree name) :=
  inferInstanceAs (Decidable (_ ∧ _))

theorem isFree_iff {table : SymbolTable} {name : String} :
    table.IsFree name ↔ table.declares name = false := by
  simp [IsFree, declares]

/-- What a document offers by itself, before items are looked at one by one. -/
inductive Offers (table : SymbolTable) (range : Range) (filter : Filter) : Item → Prop where
  | declaration {declaration : Declaration} (declared : declaration ∈ table.declarations)
      (discloses : filter.Discloses declaration) :
      Offers table range filter ⟨.variable, declaration.name, declaration.name, range⟩
  | callable {callable : Callable} (defined : callable ∈ table.callables) :
      Offers table range filter ⟨.function, callable.name.value, callable.signature, range⟩
  | mention {mention : Mention} (mentioned : mention ∈ table.mentions)
      (wanted : filter.excludeIdentifiers = false) (free : table.IsFree mention.name) :
      Offers table range filter ⟨.field, mention.name, mention.name, range⟩

/-- The own items of a document in order: first those of its declarations, then those of its
callables, and last those of the names that it mentions and that are free. -/
theorem items_eq (table : SymbolTable) (range : Range) (filter : Filter) :
    table.items range filter =
      ((table.declarations.filter (filter.Discloses ·)).map
          (fun declaration => Item.mk .variable declaration.name declaration.name range) ++
        table.callables.map
          (fun callable => Item.mk .function callable.name.value callable.signature range) ++
        (table.mentions.filter fun mention =>
            filter.excludeIdentifiers = false ∧ table.IsFree mention.name).map
          fun mention => Item.mk .field mention.name mention.name range).filter
        (filter.Admits ·) := by
  have declared : table.declarationItems range filter =
      (table.declarations.filter (filter.Discloses ·)).map
        fun declaration => Item.mk .variable declaration.name declaration.name range := by
    refine congrArg (List.map _) (List.filter_congr fun declaration _ => ?_)
    rw [Bool.eq_iff_iff, decide_eq_true_iff, Filter.Discloses]
    rcases declaration with ⟨name, scope | _, span⟩ <;> cases filter.globalVariablesOnly <;>
      simp [Declaration.isVariable, Declaration.isGlobal]
  have mentioned : table.mentionItems range filter =
      (table.mentions.filter fun mention =>
        filter.excludeIdentifiers = false ∧ table.IsFree mention.name).map
          fun mention => Item.mk .field mention.name mention.name range := by
    rw [mentionItems]
    cases filter.excludeIdentifiers <;> simp [isFree_iff]
  rw [items, declared, mentioned, callableItems]
  exact List.filter_congr fun item _ => by simp [← Filter.accepts_iff]

theorem mem_items_iff {table : SymbolTable} {range : Range} {filter : Filter} {item : Item} :
    item ∈ table.items range filter ↔ table.Offers range filter item ∧ filter.Admits item := by
  rw [items_eq, List.mem_filter, decide_eq_true_iff]
  refine and_congr_left fun _ => ?_
  simp only [List.mem_append, List.mem_map, List.mem_filter, decide_eq_true_iff]
  constructor
  · rintro ((⟨declaration, ⟨declared, discloses⟩, rfl⟩ | ⟨callable, defined, rfl⟩) |
      ⟨mention, ⟨mentioned, wanted, free⟩, rfl⟩)
    · exact .declaration declared discloses
    · exact .callable defined
    · exact .mention mentioned wanted free
  · rintro (⟨declared, discloses⟩ | defined | ⟨mentioned, wanted, free⟩)
    · exact .inl (.inl ⟨_, ⟨declared, discloses⟩, rfl⟩)
    · exact .inl (.inr ⟨_, defined, rfl⟩)
    · exact .inr ⟨_, ⟨mentioned, wanted, free⟩, rfl⟩

/-- What an including document sees of a document. -/
inductive Exports (table : SymbolTable) (range : Range) : Item → Prop where
  | globalVariable {declaration : Declaration} (declared : declaration ∈ table.declarations)
      (isGlobal : declaration.kind = .variable .global) :
      Exports table range ⟨.variable, declaration.name, declaration.name, range⟩
  | define {declaration : Declaration} (declared : declaration ∈ table.declarations)
      (isDefine : declaration.kind = .define) :
      Exports table range ⟨.variable, declaration.name, declaration.name, range⟩
  | callable {callable : Callable} (defined : callable ∈ table.callables) :
      Exports table range ⟨.function, callable.name.value, callable.signature, range⟩

/-- The filter for included documents lets just these items through. -/
theorem mem_items_forIncludes_iff (table : SymbolTable) (range : Range) (item : Item) :
    item ∈ table.items range .forIncludes ↔ table.Exports range item := by
  have admits : Filter.forIncludes.Admits item := ⟨nofun, nofun⟩
  rw [mem_items_iff, and_iff_left admits]
  constructor
  · rintro (⟨declared, discloses⟩ | defined | ⟨-, wanted, -⟩)
    · rcases discloses rfl with isDefine | isGlobal
      · exact .define declared isDefine
      · exact .globalVariable declared isGlobal
    · exact .callable defined
    · cases wanted
  · rintro (⟨declared, isGlobal⟩ | ⟨declared, isDefine⟩ | defined)
    · exact .declaration declared fun _ => .inr isGlobal
    · exact .declaration declared fun _ => .inl isDefine
    · exact .callable defined

end SymbolTable

namespace Store

/-- The items of documents are merged as if they stood in one list. -/
theorem mergeItems_cons (store : Store) (range : Range) (filter : Filter) (first : ContextId)
    (later : List ContextId) :
    store.mergeItems range filter (first :: later) =
      Item.mergeAll [] ((store.context first).table.items range filter ++
        later.flatMap fun id => (store.context id).table.items range .forIncludes) := by
  rw [mergeItems, Item.mergeAll_append]
  generalize Item.mergeAll [] ((store.context first).table.items range filter) = items
  induction later generalizing items with
  | nil => rfl
  | cons id rest ih => rw [List.foldl_cons, List.flatMap_cons, Item.mergeAll_append, ih]

theorem mergeItems_extractAll (store : Store) (entered : List ContextId) (range : Range)
    (filter : Filter) (ids : List ContextId) :
    (store.extractAll entered).mergeItems range filter ids = store.mergeItems range filter ids := by
  cases ids with
  | nil => rfl
  | cons first later => simp only [mergeItems_cons, table_extractAll]

/-- The items of the first document come first; all others are exports of later documents, and the
name of every such export is an insert text. -/
theorem mergeItems_own_then_exports (store : Store) (range : Range) (filter : Filter)
    (first : ContextId) (later : List ContextId) :
    ∃ own further, store.mergeItems range filter (first :: later) = own ++ further ∧
      ((own ++ further).map Item.insertText).Nodup ∧
      Item.FirstOccurrences ((store.context first).table.items range filter) own ∧
      (∀ item ∈ further, ∃ id ∈ later, (store.context id).table.Exports range item) ∧
      ∀ id ∈ later, ∀ item, (store.context id).table.Exports range item →
        item.insertText ∈ (own ++ further).map Item.insertText := by
  rw [mergeItems_cons]
  generalize (store.context first).table.items range filter = items
  generalize exported : (later.flatMap fun id =>
    (store.context id).table.items range .forIncludes) = exports
  have export_iff (item : Item) :
      item ∈ exports ↔ ∃ id ∈ later, (store.context id).table.Exports range item := by
    simp only [← exported, List.mem_flatMap, SymbolTable.mem_items_forIncludes_iff]
  have whole := Item.firstOccurrences_mergeAll (items ++ exports)
  rw [Item.mergeAll_append] at whole ⊢
  obtain ⟨further, merged, subset⟩ := Item.mergeAll_eq_append (Item.mergeAll [] items) exports
  rw [merged] at whole ⊢
  refine ⟨_, further, rfl, whole.distinct, Item.firstOccurrences_mergeAll items, ?_, ?_⟩
  · exact fun item member => (export_iff item).mp (subset member)
  · intro id member item visible
    apply whole.covers
    exact List.mem_append_right _ ((export_iff item).mpr ⟨id, member, visible⟩)

/-- What is suggested, as far as includes are known: the own items of a document and then the
exports of all others that can be reached, unless includes that are not known are needed. -/
theorem suggestions_pass {store : Store} {start : ContextId} {graph : ContextId → List ContextId}
    (includes : store.IncludeGraph start graph) (range : Range) (filter : Filter) :
    (∃ items, (store.suggestions range filter start).2 = .answer items ∧
      ∃ own further, items = own ++ further ∧ ((own ++ further).map Item.insertText).Nodup ∧
        Item.FirstOccurrences ((store.context start).table.items range filter) own ∧
        (∀ item ∈ further, ∃ id, Reachable graph start id ∧ id ≠ start ∧
          (store.context id).table.Exports range item) ∧
        ∀ id, Reachable graph start id → id ≠ start →
          ∀ item, (store.context id).table.Exports range item →
            item.insertText ∈ (own ++ further).map Item.insertText) ∨
    ∃ target, Reachable graph start target ∧ (store.context target).includes.value = none ∧
      (store.suggestions range filter start).2 = .needs target := by
  obtain ⟨below, -, preorder⟩ := includes.exists_preorder
  have member_iff {id : ContextId} : id ∈ start :: below ↔ Reachable graph start id :=
    includes.mem_preorder_iff preorder
  have absent := (List.nodup_cons.mp (includes.nodup_preorder preorder)).1
  have course := includes.walk_course preorder fun _ => false
  simp only [suggestions]
  generalize store.walk (fun _ => false) start = walk at course
  cases course with
  | complete passed =>
    obtain ⟨own, further, merged, distinct, firsts, sound, complete⟩ :=
      store.mergeItems_own_then_exports range filter start below
    refine .inl ⟨own ++ further, ?_, own, further, rfl, distinct, firsts, ?_, ?_⟩
    · rw [List.reverse_reverse, mergeItems_extractAll, merged]
    · intro item member
      obtain ⟨id, entered, visible⟩ := sound item member
      refine ⟨id, member_iff.mp (List.mem_cons_of_mem _ entered), ?_, visible⟩
      rintro rfl
      exact absent entered
    · intro id reached different
      exact complete id ((List.mem_cons.mp (member_iff.mpr reached)).resolve_left different)
  | stopped split passed stop => cases stop
  | @blocked before after target split passed goes unresolved =>
    refine .inr ⟨target, member_iff.mp ?_, unresolved, rfl⟩
    rw [split]
    exact List.mem_append_right _ List.mem_cons_self

/-- What is suggested in the end has different insert texts. It starts with the own entries of the
document: of the declarations that the filter discloses, then of the callables and then of the
mentioned names that are free, all that the filter admits, each where its insert text occurs first.
All others are exports of other documents that can be reached, and every export of such a document
has its name among the insert texts. -/
theorem suggestions_own_then_exports {store : Store} {start : ContextId}
    {graph : ContextId → List ContextId} (includes : store.IncludeGraph start graph) (range : Range)
    (filter : Filter) :
    ∃ own further,
      Concludes graph (fun now => now.suggestions range filter start) store (own ++ further) ∧
      ((own ++ further).map Item.insertText).Nodup ∧
      Item.FirstOccurrences
        ((((store.context start).table.declarations.filter (filter.Discloses ·)).map
            (fun declaration => Item.mk .variable declaration.name declaration.name range) ++
          (store.context start).table.callables.map
            (fun callable => Item.mk .function callable.name.value callable.signature range) ++
          ((store.context start).table.mentions.filter fun mention =>
              filter.excludeIdentifiers = false ∧
                (store.context start).table.IsFree mention.name).map
            fun mention => Item.mk .field mention.name mention.name range).filter
          (filter.Admits ·)) own ∧
      (∀ item ∈ own, (store.context start).table.Offers range filter item ∧ filter.Admits item) ∧
      (∀ item, (store.context start).table.Offers range filter item → filter.Admits item →
        item.insertText ∈ own.map Item.insertText) ∧
      (∀ item ∈ further, ∃ id, Reachable graph start id ∧ id ≠ start ∧
        (store.context id).table.Exports range item) ∧
      ∀ id, Reachable graph start id → id ≠ start →
        ∀ item, (store.context id).table.Exports range item →
          item.insertText ∈ (own ++ further).map Item.insertText := by
  have extracts (now : Store) :
      ∃ entered, (now.suggestions range filter start).1 = now.extractAll entered := by
    simp only [suggestions]
    split
    · exact ⟨_, rfl⟩
    · exact ⟨_, rfl⟩
  obtain ⟨items, concluded, own, further, rfl, distinct, firsts, exported⟩ :=
    includes.concludes extracts fun now graphNow alike => by
      simpa only [alike.table] using suggestions_pass graphNow range filter
  refine ⟨own, further, concluded, distinct, SymbolTable.items_eq .. ▸ firsts, ?_, ?_, exported⟩
  · exact fun item listed => SymbolTable.mem_items_iff.mp (firsts.sublist.subset listed)
  · exact fun item offers admits =>
      firsts.covers item (SymbolTable.mem_items_iff.mpr ⟨offers, admits⟩)

/-- In a diamond with cycles the local variable and the free name of the document are suggested, and
then the global variable of one include and the function of another, but not their own local
variables and names. -/
theorem suggestions_diamond :
    (diamond.IncludeGraph 0 fun id => (diamond.context id).includes.value.getD []) ∧
      ∃ items, (diamond.suggestions (.point default) .all 0).2 = .answer items ∧
        items.map Item.insertText = ["x", "z", "y", "f"] ∧
        "z" ∈ items.map Item.insertText ∧ "y" ∈ items.map Item.insertText := by
  refine ⟨includeGraph_diamond, ?_⟩
  obtain ⟨own, further, concluded, -, -, -, offered, -, complete⟩ :=
    suggestions_own_then_exports includeGraph_diamond (.point default) .all
  obtain ⟨items, answered, texts⟩ : ∃ items,
      (diamond.suggestions (.point default) .all 0).2 = .answer items ∧
        items.map Item.insertText = ["x", "z", "y", "f"] := ⟨_, rfl, by decide⟩
  obtain rfl : own ++ further = items := by
    -- Everything is resolved, so the first pass gives the answer.
    cases concluded with
    | answer found => exact Result.answer.inj (found.symm.trans answered)
    | resolve needed unresolved later =>
      rw [answered] at needed
      cases needed
  refine ⟨own ++ further, answered, texts, ?_, ?_⟩
  · have mentioned : (⟨"z", default⟩ : Mention) ∈ (diamond.context 0).table.mentions :=
      List.mem_cons_self
    rw [List.map_append]
    exact List.mem_append_left _ (offered _ (.mention mentioned rfl (by decide)) ⟨nofun, nofun⟩)
  · have reached : Reachable (fun id => (diamond.context id).includes.value.getD []) 0 1 :=
      .single (by decide)
    have declared : (⟨"y", .variable .global, default⟩ : Declaration) ∈
        (diamond.context 1).table.declarations := List.mem_cons_of_mem _ List.mem_cons_self
    exact complete 1 reached (by decide) _ (.globalVariable declared rfl)

end Store

end DiagramAssist
