import DiagramAssist.Json.Basic
import Mathlib.Data.List.Basic
import Mathlib.Tactic.Common

/-! # JSON values

A value nests arrays and objects, and holds numbers. The members of a settled value are in the order
of their names, so that settling it once more changes nothing; of members with distinct names it
keeps every one.
-/

namespace DiagramAssist.Json

/-- Induction over the values inside a value. -/
@[elab_as_elim]
theorem induct {P : Json → Prop} (null : P .null) (bool : ∀ value, P (.bool value))
    (integer : ∀ value, P (.integer value)) (real : ∀ value, P (.real value))
    (string : ∀ value, P (.string value))
    (array : ∀ elements, (∀ value ∈ elements, P value) → P (.array elements))
    (object : ∀ members, (∀ member ∈ members, P member.2) → P (.object members)) (value : Json) :
    P value := by
  exact @Json.rec P (fun elements => ∀ value ∈ elements, P value)
    (fun members => ∀ member ∈ members, P member.2) (fun member => P member.2)
    null bool integer real string array object
    (List.forall_mem_nil P) (fun _ _ first later => List.forall_mem_cons.mpr ⟨first, later⟩)
    (List.forall_mem_nil _) (fun _ _ first later => List.forall_mem_cons.mpr ⟨first, later⟩)
    (fun _ _ inner => inner) value

/-! ## Depth and numbers -/

mutual

/-- How deep arrays and objects are nested in a value. -/
def nesting : Json → Nat
  | .array elements => nestingAll elements + 1
  | .object members => nestingMembers members + 1
  | _ => 0

def nestingAll : List Json → Nat
  | [] => 0
  | value :: rest => max (nesting value) (nestingAll rest)

def nestingMembers : List (String × Json) → Nat
  | [] => 0
  | (_, value) :: rest => max (nesting value) (nestingMembers rest)

end

mutual

def reals : Json → List Binary64
  | .real value => [value]
  | .array elements => realsAll elements
  | .object members => realsMembers members
  | _ => []

def realsAll : List Json → List Binary64
  | [] => []
  | value :: rest => reals value ++ realsAll rest

def realsMembers : List (String × Json) → List Binary64
  | [] => []
  | (_, value) :: rest => reals value ++ realsMembers rest

end

section Parts

variable {depth : Nat} {P : Binary64 → Prop}

theorem nestingAll_le_iff {elements : List Json} :
    nestingAll elements ≤ depth ↔ ∀ value ∈ elements, nesting value ≤ depth := by
  induction elements with
  | nil => simp [nestingAll]
  | cons value rest ih => rw [nestingAll, Nat.max_le, ih, List.forall_mem_cons]

theorem nestingMembers_le_iff {members : List (String × Json)} :
    nestingMembers members ≤ depth ↔ ∀ member ∈ members, nesting member.2 ≤ depth := by
  induction members with
  | nil => simp [nestingMembers]
  | cons member rest ih => rw [nestingMembers, Nat.max_le, ih, List.forall_mem_cons]

theorem forall_mem_realsAll_iff {elements : List Json} :
    (∀ x ∈ realsAll elements, P x) ↔ ∀ value ∈ elements, ∀ x ∈ reals value, P x := by
  induction elements with
  | nil => simp [realsAll]
  | cons value rest ih => rw [realsAll, List.forall_mem_append, ih, List.forall_mem_cons]

theorem forall_mem_realsMembers_iff {members : List (String × Json)} :
    (∀ x ∈ realsMembers members, P x) ↔ ∀ member ∈ members, ∀ x ∈ reals member.2, P x := by
  induction members with
  | nil => simp [realsMembers]
  | cons member rest ih => rw [realsMembers, List.forall_mem_append, ih, List.forall_mem_cons]

end Parts

/-! ## Order of members -/

/-- Members in the order of their names, none of which is repeated. -/
def Ordered (members : List (String × Json)) : Prop :=
  members.Pairwise fun earlier later => earlier.1 < later.1

theorem mem_insertMember {name : String} {value : Json} {members : List (String × Json)}
    {member : String × Json} (listed : member ∈ insertMember name value members) :
    member = (name, value) ∨ member ∈ members := by
  fun_induction insertMember name value members with
  | case1 => exact .inl (List.mem_singleton.mp listed)
  | case2 kept rest => exact .inr listed
  | case3 other kept rest => exact List.mem_cons.mp listed
  | case4 other kept rest differs later ih =>
    rcases List.mem_cons.mp listed with rfl | listed
    · exact .inr List.mem_cons_self
    · exact (ih listed).imp_right (List.mem_cons_of_mem _)

/-- Names that are not the same are in one order or the other. -/
theorem lt_of_not_lt {name other : String} (differs : name ≠ other) (later : ¬name < other) :
    other < name :=
  String.not_le.mp fun before => differs (String.le_antisymm before (String.not_lt.mp later))

theorem Ordered.insertMember {members : List (String × Json)} (ordered : Ordered members)
    (name : String) (value : Json) : Ordered (insertMember name value members) := by
  fun_induction Json.insertMember name value members with
  | case1 => exact List.pairwise_singleton ..
  | case2 => exact ordered
  | case3 other kept rest differs before =>
    obtain ⟨first, -⟩ := List.pairwise_cons.mp ordered
    refine List.pairwise_cons.mpr ⟨List.forall_mem_cons.mpr ⟨before, fun member listed => ?_⟩,
      ordered⟩
    exact String.lt_trans before (first member listed)
  | case4 other kept rest differs later ih =>
    obtain ⟨first, ordered⟩ := List.pairwise_cons.mp ordered
    refine List.pairwise_cons.mpr ⟨fun member listed => ?_, ih ordered⟩
    rcases mem_insertMember listed with rfl | listed
    · exact lt_of_not_lt differs later
    · exact first member listed

theorem ordered_settledMembers (members : List (String × Json)) :
    Ordered (settledMembers members) := by
  induction members with
  | nil => exact List.Pairwise.nil
  | cons member rest ih => exact ih.insertMember member.1 (settled member.2)

theorem settledAll_eq_map (elements : List Json) : settledAll elements = elements.map settled := by
  induction elements with
  | nil => rfl
  | cons value rest ih => rw [settledAll, ih, List.map_cons]

/-- Members that are in order stay where they are. -/
theorem Ordered.settledMembers_eq {members : List (String × Json)} (ordered : Ordered members)
    (each : ∀ member ∈ members, settled member.2 = member.2) :
    settledMembers members = members := by
  induction members with
  | nil => rfl
  | cons member rest ih =>
    obtain ⟨first, ordered⟩ := List.pairwise_cons.mp ordered
    obtain ⟨own, each⟩ := List.forall_mem_cons.mp each
    rw [settledMembers, ih ordered each, own]
    cases rest with
    | nil => rfl
    | cons next later =>
      have before := first next List.mem_cons_self
      have differs : member.1 ≠ next.1 := fun same => String.lt_irrefl _ (same ▸ before)
      rw [Json.insertMember, if_neg differs, if_pos before]

theorem mem_settledMembers {members : List (String × Json)} {member : String × Json}
    (listed : member ∈ settledMembers members) :
    ∃ value, (member.1, value) ∈ members ∧ member.2 = settled value := by
  induction members with
  | nil => cases listed
  | cons first rest ih =>
    rcases mem_insertMember listed with rfl | listed
    · exact ⟨first.2, List.mem_cons_self, rfl⟩
    · obtain ⟨value, own, same⟩ := ih listed
      exact ⟨value, List.mem_cons_of_mem _ own, same⟩

/-- A settled value is settled. -/
theorem settled_settled (value : Json) : value.settled.settled = value.settled := by
  induction value using induct with
  | null => rfl
  | bool value => rfl
  | integer value => rfl
  | real value => rfl
  | string value => rfl
  | array elements ih =>
    rw [settled, settled, settledAll_eq_map, settledAll_eq_map, List.map_map]
    exact congrArg array (List.map_congr_left ih)
  | object members ih =>
    rw [settled, settled, (ordered_settledMembers members).settledMembers_eq]
    intro member listed
    obtain ⟨value, own, same⟩ := mem_settledMembers listed
    rw [same]
    exact ih _ own

/-! ## Distinct names -/

/-- No name is repeated. -/
def Distinct (members : List (String × Json)) : Prop :=
  (members.map Prod.fst).Nodup

theorem Ordered.distinct {members : List (String × Json)} (ordered : Ordered members) :
    Distinct members := by
  refine List.pairwise_map.mpr (ordered.imp fun before same => ?_)
  exact String.lt_irrefl _ (same ▸ before)

theorem mem_insertMember_self {members : List (String × Json)} {name : String} (value : Json)
    (fresh : name ∉ members.map Prod.fst) : (name, value) ∈ insertMember name value members := by
  fun_induction insertMember name value members with
  | case1 => exact List.mem_singleton_self _
  | case2 kept rest => exact absurd List.mem_cons_self fresh
  | case3 other kept rest differs before => exact List.mem_cons_self
  | case4 other kept rest differs later ih =>
    exact List.mem_cons_of_mem _ (ih fun listed => fresh (List.mem_cons_of_mem _ listed))

theorem mem_insertMember_of_mem {members : List (String × Json)} {member : String × Json}
    (name : String) (value : Json) (listed : member ∈ members) :
    member ∈ insertMember name value members := by
  fun_induction insertMember name value members with
  | case1 => cases listed
  | case2 kept rest => exact listed
  | case3 other kept rest differs before => exact List.mem_cons_of_mem _ listed
  | case4 other kept rest differs later ih =>
    rcases List.mem_cons.mp listed with rfl | listed
    · exact List.mem_cons_self
    · exact List.mem_cons_of_mem _ (ih listed)

/-- Settling keeps every member of a distinct name. -/
theorem Distinct.mem_settledMembers_iff {members : List (String × Json)}
    (distinct : Distinct members) {name : String} {value : Json} :
    (name, value) ∈ settledMembers members ↔
      ∃ own, (name, own) ∈ members ∧ value = settled own := by
  constructor
  · exact fun listed => mem_settledMembers listed
  · rintro ⟨own, listed, rfl⟩
    induction members with
    | nil => cases listed
    | cons first rest ih =>
      obtain ⟨fresh, distinct⟩ := List.nodup_cons.mp distinct
      rcases List.mem_cons.mp listed with rfl | listed
      · refine mem_insertMember_self _ fun repeated => fresh ?_
        obtain ⟨member, listed, same⟩ := List.mem_map.mp repeated
        obtain ⟨_, own, -⟩ := mem_settledMembers listed
        exact List.mem_map.mpr ⟨_, own, same⟩
      · exact mem_insertMember_of_mem _ _ (ih distinct listed)

/-! ## Values of messages -/

/-- The values that messages hold: integers fit a 64-bit word, other numbers are finite, and members
are in the order of their names. -/
inductive IsValue : Json → Prop where
  | null : IsValue .null
  | bool (value : Bool) : IsValue (.bool value)
  | integer {value : Int} (low : minSigned ≤ value) (high : value ≤ maxUnsigned) :
    IsValue (.integer value)
  | real (negative : Bool) (mantissa : Nat) (exponent : Int) :
    IsValue (.real (.finite negative mantissa exponent))
  | string (value : String) : IsValue (.string value)
  | array {elements : List Json} (each : ∀ value ∈ elements, IsValue value) :
    IsValue (.array elements)
  | object {members : List (String × Json)} (ordered : Ordered members)
    (each : ∀ member ∈ members, IsValue member.2) : IsValue (.object members)

/-- The values of messages are settled. -/
theorem IsValue.settled_eq {value : Json} (isValue : IsValue value) : value.settled = value := by
  induction isValue with
  | null => rfl
  | bool value => rfl
  | integer low high => rfl
  | real negative mantissa exponent => rfl
  | string value => rfl
  | array each ih =>
    rw [settled, settledAll_eq_map, List.map_congr_left ih, List.map_id']
  | object ordered each ih => rw [settled, ordered.settledMembers_eq ih]

/-- A property of values up to a depth that goes down to their numbers: it holds of all others that
have no parts, and it holds of an array or object when it does of all parts up to one level less. -/
structure Descends (P : Nat → Json → Prop) (Q : Binary64 → Prop) : Prop where
  null (depth : Nat) : P depth .null
  bool (depth : Nat) (value : Bool) : P depth (.bool value)
  integer (depth : Nat) {value : Int} (low : minSigned ≤ value) (high : value ≤ maxUnsigned) :
    P depth (.integer value)
  string (depth : Nat) (value : String) : P depth (.string value)
  real (depth : Nat) (negative : Bool) (mantissa : Nat) (exponent : Int) :
    P depth (.real (.finite negative mantissa exponent)) ↔ Q (.finite negative mantissa exponent)
  deepArray (elements : List Json) : ¬P 0 (.array elements)
  deepObject (members : List (String × Json)) : ¬P 0 (.object members)
  array (depth : Nat) (elements : List Json) :
    P (depth + 1) (.array elements) ↔ ∀ value ∈ elements, P depth value
  object (depth : Nat) (members : List (String × Json)) :
    P (depth + 1) (.object members) ↔ ∀ member ∈ members, P depth member.2

theorem Descends.iff {P : Nat → Json → Prop} {Q : Binary64 → Prop} (descends : Descends P Q)
    {value : Json} (isValue : IsValue value) (depth : Nat) :
    P depth value ↔ value.nesting ≤ depth ∧ ∀ x ∈ value.reals, Q x := by
  induction isValue generalizing depth with
  | null => simp [descends.null, nesting, reals]
  | bool value => simp [descends.bool, nesting, reals]
  | integer low high => simp [descends.integer depth low high, nesting, reals]
  | real negative mantissa exponent => simp [descends.real, nesting, reals]
  | string value => simp [descends.string, nesting, reals]
  | @array elements each ih =>
    cases depth with
    | zero => simp [descends.deepArray, nesting]
    | succ depth =>
      rw [descends.array, nesting, reals, Nat.add_le_add_iff_right, nestingAll_le_iff,
        forall_mem_realsAll_iff, ← forall₂_and]
      exact forall₂_congr fun value listed => ih value listed depth
  | @object members ordered each ih =>
    cases depth with
    | zero => simp [descends.deepObject, nesting]
    | succ depth =>
      rw [descends.object, nesting, reals, Nat.add_le_add_iff_right, nestingMembers_le_iff,
        forall_mem_realsMembers_iff, ← forall₂_and]
      exact forall₂_congr fun member listed => ih member listed depth

end DiagramAssist.Json
