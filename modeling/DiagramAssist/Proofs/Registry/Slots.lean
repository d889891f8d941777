import DiagramAssist.Registry

/-! # What the registry's operations do to its slots

A key shows a document when the key has a slot and the slot is filled with it. Asking for a key and
giving a slot up change neither what any slot is filled with nor what any key shows; filling a slot
changes just that slot. Everything that concerns documents is derived from these three facts.
-/

namespace DiagramAssist

/-- How a call that has queued can stand: the cell is filled, or the call holds it, or it waits. -/
theorem Cell.standing_cases {α : Type} (cell : Cell α) (call : Nat) :
    (∃ value, cell.value = some value ∧ cell.standing call = .found value) ∨
      (cell.value = none ∧ cell.holder = some call ∧ cell.standing call = .holding) ∨
      (cell.value = none ∧ cell.holder ≠ some call ∧ cell.standing call = .queued) := by
  simp only [Cell.standing]
  cases cell.value with
  | some value => exact .inl ⟨value, rfl, rfl⟩
  | none =>
    by_cases held : cell.holder = some call
    · exact .inr (.inl ⟨rfl, held, if_pos held⟩)
    · exact .inr (.inr ⟨rfl, held, if_neg held⟩)

namespace Registry

/-- A key has the slot, and the slot is filled with the document. -/
def Shows (registry : Registry) (key : String) (slot : SlotId) (context : ContextId) : Prop :=
  registry.slot? key = some slot ∧ (registry.cell slot).value = some context

theorem get?_eq_some_iff {registry : Registry} {key : String} {context : ContextId} :
    registry.get? key = some context ↔ ∃ slot, registry.Shows key slot context := by
  simp only [get?, Shows, bind, Option.bind_eq_some_iff]

theorem get?_of_missing {registry : Registry} {key : String}
    (missing : registry.slot? key = none) : registry.get? key = none := by
  rw [get?, missing]
  rfl

theorem get?_of_empty {registry : Registry} {key : String} {slot : SlotId}
    (current : registry.slot? key = some slot) (empty : (registry.cell slot).value = none) :
    registry.get? key = none := by
  rw [get?, current]
  exact empty

theorem holds_iff {registry : Registry} {key : String} {slot : SlotId} :
    registry.holds key slot = true ↔ registry.slot? key = some slot := by
  simp only [holds, beq_iff_eq]

section Cells

variable (registry : Registry) (slot : SlotId) (cell : Cell ContextId)

@[simp] theorem slot?_setCell (key : String) :
    (registry.setCell slot cell).slot? key = registry.slot? key := rfl

@[simp] theorem length_setCell :
    (registry.setCell slot cell).slots.length = registry.slots.length := List.length_set

theorem cell_setCell_self (known : slot < registry.slots.length) :
    (registry.setCell slot cell).cell slot = cell := by
  simp only [Registry.cell, setCell, List.getD_eq_getElem?_getD, List.getElem?_set_self known,
    Option.getD_some]

theorem cell_setCell_of_ne {other : SlotId} (different : other ≠ slot) :
    (registry.setCell slot cell).cell other = registry.cell other := by
  simp only [Registry.cell, setCell, List.getD_eq_getElem?_getD,
    List.getElem?_set_ne different.symm]

theorem setCell_cell : registry.setCell slot (registry.cell slot) = registry := by
  have same : registry.slots.set slot (registry.cell slot) = registry.slots := by
    apply List.ext_getElem?
    intro other
    by_cases here : other = slot
    · subst here
      simp only [List.getElem?_set, Registry.cell, List.getD_eq_getElem?_getD, ↓reduceIte]
      split
      · next known => rw [List.getElem?_eq_getElem known, Option.getD_some]
      · next unknown => rw [List.getElem?_eq_none (Nat.le_of_not_lt unknown)]
    · exact List.getElem?_set_ne (Ne.symm here)
  simp only [setCell, same]

end Cells

theorem cell_of_unknown {registry : Registry} {slot : SlotId}
    (unknown : registry.slots.length ≤ slot) : registry.cell slot = .empty := by
  simp only [Registry.cell, List.getD_eq_getElem?_getD, List.getElem?_eq_none unknown,
    Option.getD_none]

/-- Only a slot that has been made can be filled. -/
theorem known_of_value {registry : Registry} {slot : SlotId} {context : ContextId}
    (filled : (registry.cell slot).value = some context) : slot < registry.slots.length := by
  rcases Nat.lt_or_ge slot registry.slots.length with known | unknown
  · exact known
  · rw [cell_of_unknown unknown] at filled
    cases filled

/-- How a call can stand when it has asked for a key, and what asking does to the registry. -/
inductive Arrival (registry : Registry) (key : String) (call : Nat) :
    Registry → SlotId → Cell.Standing ContextId → Prop where
  | found {slot : SlotId} {context : ContextId} (shown : registry.Shows key slot context) :
      Arrival registry key call registry slot (.found context)
  | queued {slot : SlotId} {holder : Nat} (current : registry.slot? key = some slot)
      (empty : (registry.cell slot).value = none)
      (held : (registry.cell slot).holder = some holder) :
      Arrival registry key call
        (registry.setCell slot
          { registry.cell slot with queue := (registry.cell slot).queue ++ [call] })
        slot .queued
  | holding {slot : SlotId} (current : registry.slot? key = some slot)
      (empty : (registry.cell slot).value = none) (free : (registry.cell slot).holder = none) :
      Arrival registry key call
        (registry.setCell slot { registry.cell slot with holder := some call }) slot .holding
  | claimed (missing : registry.slot? key = none) :
      Arrival registry key call
        ⟨registry.slots ++ [⟨none, some call, []⟩],
          registry.table ++ [(key, registry.slots.length)]⟩
        registry.slots.length .holding

theorem arrive_arrival (registry : Registry) (key : String) (call : Nat) :
    Arrival registry key call (registry.arrive key call).1 (registry.arrive key call).2.1
      (registry.arrive key call).2.2 := by
  cases current : registry.slot? key with
  | none =>
    have made : registry.arrive key call =
        (⟨registry.slots ++ [⟨none, some call, []⟩],
          registry.table ++ [(key, registry.slots.length)]⟩, registry.slots.length, .holding) := by
      simp [arrive, claim, current, Registry.cell, Cell.enter, Cell.empty, setCell]
    rw [made]
    exact .claimed current
  | some slot =>
    simp only [arrive, claim, current, Cell.enter]
    cases value : (registry.cell slot).value with
    | some context =>
      simp only [setCell_cell]
      exact .found ⟨current, value⟩
    | none =>
      cases holder : (registry.cell slot).holder with
      | none =>
        simpa only [value] using @Arrival.holding registry key call slot current value holder
      | some number =>
        simpa only [value, holder] using
          @Arrival.queued registry key call slot number current value holder

/-- How a call that has queued can stand at a slot. -/
theorem standing_cases (registry : Registry) (slot : SlotId) (call : Nat) :
    (∃ context, (registry.cell slot).value = some context ∧
        registry.standing slot call = .found context) ∨
      ((registry.cell slot).value = none ∧ (registry.cell slot).holder = some call ∧
        registry.standing slot call = .holding) ∨
      ((registry.cell slot).value = none ∧ (registry.cell slot).holder ≠ some call ∧
        registry.standing slot call = .queued) :=
  (registry.cell slot).standing_cases call

/-- Two registries in which every slot is filled with the same and every key shows the same. -/
structure SameDocuments (before after : Registry) : Prop where
  values : ∀ slot, (after.cell slot).value = (before.cell slot).value
  shows : ∀ key slot context, after.Shows key slot context ↔ before.Shows key slot context

theorem SameDocuments.refl (registry : Registry) : SameDocuments registry registry :=
  ⟨fun _ => rfl, fun _ _ _ => Iff.rfl⟩

/-- A slot may change in every respect but what it is filled with. -/
theorem value_setCell {registry : Registry} {slot : SlotId} {cell : Cell ContextId}
    (kept : cell.value = (registry.cell slot).value) (other : SlotId) :
    ((registry.setCell slot cell).cell other).value = (registry.cell other).value := by
  by_cases here : other = slot
  · subst here
    rcases Nat.lt_or_ge other registry.slots.length with known | unknown
    · rw [cell_setCell_self registry other cell known, kept]
    · rw [cell_of_unknown unknown, cell_of_unknown (by rwa [length_setCell])]
  · rw [cell_setCell_of_ne registry slot cell here]

theorem sameDocuments_setCell {registry : Registry} {slot : SlotId} {cell : Cell ContextId}
    (kept : cell.value = (registry.cell slot).value) :
    SameDocuments registry (registry.setCell slot cell) where
  values := value_setCell kept
  shows key other context := by simp only [Shows, slot?_setCell, value_setCell kept]

/-- A key that asks for its first slot leaves the slots of all other keys alone. -/
theorem slot?_claimed {registry : Registry} {key : String} (missing : registry.slot? key = none)
    (slots : List (Cell ContextId)) (slot : SlotId) (other : String) :
    slot? ⟨slots, registry.table ++ [(key, slot)]⟩ other =
      if other = key then some slot else registry.slot? other := by
  simp only [slot?, List.lookup_append] at missing ⊢
  by_cases same : other = key
  · subst same
    simp [missing]
  · have none : List.lookup other [(key, slot)] = none := by simp [same]
    simp [none, same]

/-- A slot just made is empty, and all others are as they were. -/
theorem cell_claimed (registry : Registry) (table : List (String × SlotId)) (call : Nat)
    (slot : SlotId) :
    Registry.cell ⟨registry.slots ++ [⟨none, some call, []⟩], table⟩ slot =
      if slot = registry.slots.length then ⟨none, some call, []⟩ else registry.cell slot := by
  simp only [Registry.cell, List.getD_eq_getElem?_getD]
  rcases Nat.lt_trichotomy slot registry.slots.length with known | rfl | unknown
  · rw [List.getElem?_append_left known, if_neg (Nat.ne_of_lt known)]
  · simp
  · rw [if_neg (Nat.ne_of_gt unknown), List.getElem?_eq_none (Nat.le_of_lt unknown),
      List.getElem?_eq_none (by simpa using Nat.succ_le_of_lt unknown)]

/-- A call that has asked for a key stands at the slot of the key. -/
theorem Arrival.current {registry after : Registry} {key : String} {call : Nat} {slot : SlotId}
    {standing : Cell.Standing ContextId}
    (arrival : Arrival registry key call after slot standing) : after.slot? key = some slot := by
  cases arrival with
  | found shown => exact shown.1
  | queued current empty held => exact current
  | holding current empty free => exact current
  | claimed missing => rw [slot?_claimed missing, if_pos rfl]

/-- Asking for a key takes no slot away. -/
theorem Arrival.slot?_kept {registry after : Registry} {key other : String} {call : Nat}
    {slot kept : SlotId} {standing : Cell.Standing ContextId}
    (arrival : Arrival registry key call after slot standing)
    (current : registry.slot? other = some kept) : after.slot? other = some kept := by
  cases arrival with
  | found shown => exact current
  | queued _ empty held => exact current
  | holding _ empty free => exact current
  | claimed missing =>
    rw [slot?_claimed missing, if_neg]
    · exact current
    · rintro rfl
      rw [missing] at current
      cases current

/-- Asking for a key changes no document. -/
theorem Arrival.sameDocuments {registry after : Registry} {key : String} {call : Nat}
    {slot : SlotId} {standing : Cell.Standing ContextId}
    (arrival : Arrival registry key call after slot standing) : SameDocuments registry after := by
  cases arrival with
  | found shown => exact .refl registry
  | queued current empty held => exact sameDocuments_setCell rfl
  | holding current empty free => exact sameDocuments_setCell rfl
  | claimed missing =>
    have values (slot : SlotId) : (Registry.cell ⟨registry.slots ++ [⟨none, some call, []⟩],
        registry.table ++ [(key, registry.slots.length)]⟩ slot).value =
        (registry.cell slot).value := by
      rw [cell_claimed]
      split
      · next here => rw [cell_of_unknown (Nat.le_of_eq here.symm), Cell.empty]
      · rfl
    refine ⟨values, fun other slot context => ?_⟩
    simp only [Shows, values, slot?_claimed missing]
    split
    · next same =>
      subst same
      simp only [missing, Option.some.injEq, reduceCtorEq, false_and, iff_false, not_and]
      rintro rfl
      rw [cell_of_unknown (Nat.le_refl _)]
      exact nofun
    · rfl

private theorem lookup_without (key other : String) (table : List (String × SlotId)) :
    (table.filter fun entry => !(entry.1 == key)).lookup other =
      if other = key then none else table.lookup other := by
  induction table with
  | nil => simp
  | cons entry rest ih =>
    rcases entry with ⟨name, slot⟩
    by_cases dropped : name = key
    · subst dropped
      simp only [List.filter_cons, beq_self_eq_true, Bool.not_true, Bool.false_eq_true, ↓reduceIte,
        ih, List.lookup_cons]
      split
      · rfl
      · next different => rw [beq_eq_false_iff_ne.mpr different]
    · simp only [List.filter_cons, beq_eq_false_iff_ne.mpr dropped, Bool.not_false, ↓reduceIte,
        List.lookup_cons, ih]
      by_cases found : other = name
      · subst found
        simp only [beq_self_eq_true, if_neg dropped]
      · rw [beq_eq_false_iff_ne.mpr found]

/-- Whether a failure takes the slot away from the key: if the key still has it and nobody has
filled it. -/
def Drops (registry : Registry) (key : String) (slot : SlotId) : Prop :=
  registry.slot? key = some slot ∧ (registry.cell slot).value = none

/-- The holder of a slot passes it on; the table loses the key just if the slot is dropped. -/
theorem fail_eq (registry : Registry) (key : String) (slot : SlotId)
    [Decidable (registry.Drops key slot)] :
    registry.fail key slot =
      ⟨(registry.setCell slot (registry.cell slot).release).slots,
        if registry.Drops key slot then registry.table.filter fun entry => !(entry.1 == key)
        else registry.table⟩ := by
  have value : ((registry.setCell slot (registry.cell slot).release).cell slot).value =
      (registry.cell slot).value := value_setCell (Cell.value_release _) slot
  have drops : ((registry.setCell slot (registry.cell slot).release).holds key slot &&
      !((registry.setCell slot (registry.cell slot).release).cell slot).isFilled) = true ↔
      registry.Drops key slot := by
    rw [Bool.and_eq_true, holds_iff, slot?_setCell, Cell.isFilled, value, Bool.not_eq_true',
      Option.isSome_eq_false_iff, Option.isNone_iff_eq_none]
    rfl
  simp only [fail, drops]
  split <;> rfl

theorem cell_fail (registry : Registry) (key : String) (slot other : SlotId) :
    (registry.fail key slot).cell other =
      (registry.setCell slot (registry.cell slot).release).cell other := by
  classical
  rw [fail_eq]
  rfl

theorem slot?_fail (registry : Registry) (key : String) (slot : SlotId) (other : String)
    [Decidable (registry.Drops key slot)] :
    (registry.fail key slot).slot? other =
      if other = key ∧ registry.Drops key slot then none else registry.slot? other := by
  rw [fail_eq]
  by_cases drops : registry.Drops key slot
  · simp only [drops, and_true, if_true]
    exact lookup_without key other registry.table
  · simp only [drops, and_false, if_false]
    rfl

/-- A failure changes no document: a slot that is dropped was empty. -/
theorem fail_sameDocuments (registry : Registry) (key : String) (slot : SlotId) :
    SameDocuments registry (registry.fail key slot) := by
  classical
  have values (other : SlotId) :
      ((registry.fail key slot).cell other).value = (registry.cell other).value := by
    rw [cell_fail]
    exact value_setCell (Cell.value_release _) other
  refine ⟨values, fun other shown context => ?_⟩
  simp only [Shows, values, slot?_fail]
  split
  · next dropped =>
    obtain ⟨rfl, current, empty⟩ := dropped
    rw [current]
    simp only [reduceCtorEq, false_and, Option.some.injEq, false_iff, not_and]
    rintro rfl
    rw [empty]
    exact nofun
  · rfl

theorem slot?_succeed (registry : Registry) (slot : SlotId) (context : ContextId) (key : String) :
    (registry.succeed slot context).slot? key = registry.slot? key := rfl

theorem cell_succeed {registry : Registry} {slot : SlotId} (known : slot < registry.slots.length)
    (context : ContextId) (other : SlotId) :
    (registry.succeed slot context).cell other =
      if other = slot then ⟨some context, none, []⟩ else registry.cell other := by
  split
  · next here =>
    subst here
    exact cell_setCell_self _ _ _ known
  · next different => exact cell_setCell_of_ne _ _ _ different

theorem shows_succeed {registry : Registry} {slot : SlotId} (known : slot < registry.slots.length)
    (context : ContextId) (key : String) (other : SlotId) (shown : ContextId) :
    (registry.succeed slot context).Shows key other shown ↔
      if other = slot then registry.slot? key = some slot ∧ context = shown
      else registry.Shows key other shown := by
  simp only [Shows, slot?_succeed, cell_succeed known]
  split
  · next here =>
    subst here
    simp only [Option.some.injEq]
  · rfl

end Registry

end DiagramAssist
