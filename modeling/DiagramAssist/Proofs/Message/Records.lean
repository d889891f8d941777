import DiagramAssist.Message.Protocol
import DiagramAssist.Proofs.Json.Values
import Mathlib.Data.List.Nodup

/-! # Records are read off their members

A field holds a value among members when it is listed there and read as the value, or is not listed
and has the value as its default. If no name is repeated, a record of fields that hold values is
read as the record of the values, in whatever order its members stand. So what is written for a
record is read back, also after it has been settled.
-/

namespace DiagramAssist

open Json

namespace Json

section Lookup

variable {members : List (String × Json)} {name : String}

theorem lookup_eq_some_iff (distinct : Distinct members) {value : Json} :
    lookup members name = some value ↔ (name, value) ∈ members := by
  constructor
  · intro found
    obtain ⟨member, searched, rfl⟩ := Option.map_eq_some_iff.mp found
    have named : member.1 = name := by simpa using List.find?_some searched
    have listed := List.mem_reverse.mp (List.mem_of_find?_eq_some searched)
    rwa [← named]
  · intro listed
    have some_ : (members.reverse.find? (·.1 == name)).isSome := by
      rw [List.find?_isSome]
      exact ⟨_, List.mem_reverse.mpr listed, beq_self_eq_true name⟩
    obtain ⟨member, found⟩ := Option.isSome_iff_exists.mp some_
    have named : member.1 = name := by simpa using List.find?_some found
    have own := List.mem_reverse.mp (List.mem_of_find?_eq_some found)
    have same := List.inj_on_of_nodup_map distinct own listed named
    rw [lookup, found, same]
    rfl

theorem lookup_eq_none (absent : ∀ value, (name, value) ∉ members) :
    lookup members name = none := by
  rw [lookup, Option.map_eq_none_iff, List.find?_eq_none]
  intro member listed named
  exact absent member.2 (eq_of_beq named ▸ List.mem_reverse.mp listed)

end Lookup

end Json

/-! ## Fields -/

namespace Field

variable {α : Type} {field : Field α} {members : List (String × Json)} {value : α}

/-- What the value of a field among members is. -/
inductive Holds (field : Field α) (members : List (String × Json)) (value : α) : Prop where
  | listed {found : Json} (listed : (field.name, found) ∈ members)
    (reads : field.decode found = .ok value)
  | absent (none : ∀ found, (field.name, found) ∉ members) (default : field.absent = some value)

theorem Holds.get_eq (distinct : Distinct members) (holds : field.Holds members value) :
    field.get members = .ok value := by
  cases holds with
  | listed listed reads =>
    rw [get, (lookup_eq_some_iff distinct).mpr listed]
    exact reads
  | absent none default => rw [get, lookup_eq_none none, default]

theorem Holds.check_eq (distinct : Distinct members) (holds : field.Holds members value)
    {found : Json} (own : (field.check.1, found) ∈ members) : field.check.2 found = .ok () := by
  cases holds with
  | @listed expected listed reads =>
    have same : found = expected :=
      congrArg Prod.snd (List.inj_on_of_nodup_map distinct own listed rfl)
    simp only [check, same, reads]
    rfl
  | absent none default => exact absurd own (none found)

/-- A field that is listed holds its value after the members have been settled. -/
theorem holds_settled {own : Json} (distinct : Distinct members)
    (listed : (field.name, own) ∈ members) (reads : field.decode own.settled = .ok value) :
    field.Holds (settledMembers members) value :=
  .listed (distinct.mem_settledMembers_iff.mpr ⟨own, listed, rfl⟩) reads

end Field

theorem Decoder.nullable_of_ne {α : Type} {decode : Decoder α} {found : Json} {value : α}
    (present : found ≠ .null) (reads : decode found = .ok value) :
    nullable decode found = .ok (some value) := by
  rw [nullable]
  · rw [reads]
    rfl
  · exact present

/-- A field that may be missing holds what was written for it, after the members have been
settled. -/
theorem Field.holds_optional_settled {α : Type} {name : String} {decode : Decoder α}
    {value : Option α} {members : List (String × Json)} (encode : α → Json)
    (distinct : Distinct members)
    (listed : ∀ own, (name, own) ∈ members ↔ some own = value.map encode)
    (reads : ∀ x, value = some x → decode (encode x).settled = .ok x)
    (present : ∀ x, (encode x).settled ≠ .null) :
    (Field.optional name decode).Holds (settledMembers members) value := by
  cases value with
  | none =>
    refine .absent (fun found settled => ?_) rfl
    obtain ⟨own, own_, -⟩ := distinct.mem_settledMembers_iff.mp settled
    cases (listed own).mp own_
  | some x =>
    exact holds_settled distinct ((listed _).mpr rfl)
      (Decoder.nullable_of_ne (present x) (reads x rfl))

/-! ## Records -/

/-- Whatever is listed under one of the names fits it. -/
def Fitting (members : List (String × Json)) (checks : List (String × Decoder Unit)) : Prop :=
  ∀ check ∈ checks, ∀ found, (check.1, found) ∈ members → check.2 found = .ok ()

theorem Fitting.nil (members : List (String × Json)) : Fitting members [] :=
  nofun

theorem Fitting.cons {α : Type} {field : Field α} {members : List (String × Json)} {value : α}
    {checks : List (String × Decoder Unit)} (distinct : Distinct members)
    (holds : field.Holds members value) (later : Fitting members checks) :
    Fitting members (field.check :: checks) :=
  List.forall_mem_cons.mpr ⟨fun _ => holds.check_eq distinct, later⟩

theorem checkMembers_eq_ok {checks : List (String × Decoder Unit)}
    {members : List (String × Json)} (distinct : Distinct members)
    (fits : Fitting members checks) : checkMembers checks members = .ok () := by
  induction members with
  | nil => rfl
  | cons member rest ih =>
    obtain ⟨fresh, distinct⟩ := List.nodup_cons.mp distinct
    have later := ih distinct fun check known found listed =>
      fits check known found (List.mem_cons_of_mem _ listed)
    rw [checkMembers]
    cases known : checks.lookup member.1 with
    | none => exact later
    | some decode =>
      have own : (member.1, decode) ∈ checks := by
        obtain ⟨front, back, rfl, -⟩ := List.lookup_eq_some_iff.mp known
        exact List.mem_append_right _ List.mem_cons_self
      have reads : decode member.2 = .ok () := fits _ own member.2 List.mem_cons_self
      have once : rest.any (·.1 == member.1) = false := by
        rw [List.any_eq_false]
        intro other listed same
        exact fresh (List.mem_map.mpr ⟨other, listed, eq_of_beq same⟩)
      simp only [reads, once]
      exact later

namespace Decoder

variable {α β γ δ ε : Type} {members : List (String × Json)}

theorem record2_eq_ok {make : α → β → γ} {a : Field α} {b : Field β} {first : α} {second : β}
    (distinct : Distinct members) (one : a.Holds members first) (two : b.Holds members second) :
    record2 make a b (.object members) = .ok (make first second) := by
  have checked := checkMembers_eq_ok distinct
    (.cons distinct one (.cons distinct two (.nil members)))
  simp only [record2, checked, one.get_eq distinct, two.get_eq distinct]
  rfl

theorem record3_eq_ok {make : α → β → γ → δ} {a : Field α} {b : Field β} {c : Field γ} {first : α}
    {second : β} {third : γ} (distinct : Distinct members) (one : a.Holds members first)
    (two : b.Holds members second) (three : c.Holds members third) :
    record3 make a b c (.object members) = .ok (make first second third) := by
  have checked := checkMembers_eq_ok distinct
    (.cons distinct one (.cons distinct two (.cons distinct three (.nil members))))
  simp only [record3, checked, one.get_eq distinct, two.get_eq distinct, three.get_eq distinct]
  rfl

theorem record4_eq_ok {make : α → β → γ → δ → ε} {a : Field α} {b : Field β} {c : Field γ}
    {d : Field δ} {first : α} {second : β} {third : γ} {fourth : δ} (distinct : Distinct members)
    (one : a.Holds members first) (two : b.Holds members second) (three : c.Holds members third)
    (four : d.Holds members fourth) :
    record4 make a b c d (.object members) = .ok (make first second third fourth) := by
  have checked := checkMembers_eq_ok distinct
    (.cons distinct one (.cons distinct two (.cons distinct three (.cons distinct four
      (.nil members)))))
  simp only [record4, checked, one.get_eq distinct, two.get_eq distinct, three.get_eq distinct,
    four.get_eq distinct]
  rfl

end Decoder

end DiagramAssist
