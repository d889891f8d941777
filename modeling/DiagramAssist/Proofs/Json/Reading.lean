import DiagramAssist.Json.Reader
import DiagramAssist.Proofs.Json.Numerals
import DiagramAssist.Proofs.Json.Strings
import DiagramAssist.Proofs.Json.Values

/-! # What a written JSON value is read as

The text of a value is read as the value in which every number has been replaced by what its own
text is read as (`parse?_compact`). There is nothing to be read if one of them is refused, or if
arrays and objects are nested too deep. So a value is read back unchanged exactly when each of its
numbers is and it is nested at most as deep as the reader goes (`reread_eq_self_iff`).
-/

namespace DiagramAssist.Json

/-! ## Texts of values -/

theorem compactAll_eq_map (elements : List Json) : compactAll elements = elements.map compact := by
  induction elements with
  | nil => rfl
  | cons value rest ih => rw [compactAll, ih, List.map_cons]

def memberText (member : String × Json) : List Char :=
  '"' :: (member.1.toList.flatMap escape ++ '"' :: ':' :: (compact member.2).toList)

theorem map_toList_compactMembers (members : List (String × Json)) :
    (compactMembers members).map String.toList = members.map memberText := by
  induction members with
  | nil => rfl
  | cons member rest ih =>
    rw [compactMembers, List.map_cons, ih, List.map_cons]
    simp [memberText, quote]

theorem toList_compact_array (elements : List Json) :
    (compact (.array elements)).toList =
      '[' :: ([','].intercalate (elements.map fun value => (compact value).toList) ++ [']']) := by
  simp [compact, compactAll_eq_map, String.toList_intercalate, Function.comp_def]

theorem toList_compact_object (members : List (String × Json)) :
    (compact (.object members)).toList =
      '\x7b' :: ([','].intercalate (members.map memberText) ++ ['\x7d']) := by
  simp [compact, String.toList_intercalate, map_toList_compactMembers]

/-- What may stand behind a value: nothing, or what goes on with or ends an array or object. -/
def Closes (rest : List Char) : Prop :=
  ∀ c, rest.head? = some c → c = ',' ∨ c = ']' ∨ c = '\x7d'

theorem Closes.stops {rest : List Char} (closes : Closes rest) : Numeral.Stops rest := by
  intro c first
  rcases closes c first with rfl | rfl | rfl <;> decide

theorem closes_nil : Closes [] :=
  nofun

theorem closes_cons {c : Char} (closing : c = ',' ∨ c = ']' ∨ c = '\x7d') (rest : List Char) :
    Closes (c :: rest) := by
  intro first same
  cases same
  exact closing

theorem exists_compact_eq_cons (value : Json) :
    ∃ c later, (compact value).toList = c :: later ∧ Text.isBlank c = false ∧ c ≠ ']' := by
  have number {numeral : Numeral} (formed : numeral.WellFormed) :
      ∃ c later, numeral.text = c :: later ∧ Text.isBlank c = false ∧ c ≠ ']' := by
    obtain ⟨c, later, starts, first⟩ := Numeral.exists_text_eq_cons formed
    refine ⟨c, later, starts, ?_⟩
    rcases first with rfl | digit
    · decide
    · simp only [Text.isBlank, Bool.or_eq_false_iff, beq_eq_false_iff_ne]
      refine ⟨⟨⟨⟨?_, ?_⟩, ?_⟩, ?_⟩, ?_⟩
      all_goals
        rintro rfl
        revert digit
        decide
  cases value with
  | null => exact ⟨'n', _, rfl, rfl, by decide⟩
  | bool value => cases value <;> exact ⟨_, _, rfl, rfl, by decide⟩
  | integer value =>
    rw [compact, Numeral.toList_toString]
    exact number (Numeral.wellFormed_ofInt value)
  | real value =>
    cases value with
    | finite negative mantissa exponent =>
      rw [compact, renderReal, String.toList_ofList]
      exact number (Numeral.wellFormed_ofFinite negative mantissa exponent)
    | infinite negative =>
      rw [compact, renderReal]
      exact ⟨'n', _, rfl, rfl, by decide⟩
  | string value =>
    rw [compact, quote, String.toList_ofList]
    exact ⟨'"', _, rfl, rfl, by decide⟩
  | array elements =>
    rw [toList_compact_array]
    exact ⟨'[', _, rfl, rfl, by decide⟩
  | object members =>
    rw [toList_compact_object]
    exact ⟨'\x7b', _, rfl, rfl, by decide⟩

/-! ## Parts -/

namespace Text

theorem skip_cons {c : Char} (solid : isBlank c = false) (rest : List Char) :
    skip (c :: rest) = c :: rest := by
  rw [skip, List.dropWhile_cons_of_neg (by simp [solid])]

section Parts

variable {bound : Nat}

/-- The last element, in front of the bracket. -/
theorem elements_last {read : List Char → Option (Json × List Char)} {text rest : List Char}
    {result : Option Json} (found : read text = result.map (·, ']' :: rest)) :
    elements read (bound + 1) text = result.map fun value => ([value], rest) := by
  rw [elements, found]
  cases result with
  | none => rfl
  | some value => rfl

/-- An element in front of others. -/
theorem elements_more {read : List Char → Option (Json × List Char)} {text rest : List Char}
    {result : Option Json} (found : read text = result.map (·, ',' :: rest))
    (solid : skip rest = rest) :
    elements read (bound + 1) text = result.bind fun value =>
      (elements read bound rest).map fun (later, rest) => (value :: later, rest) := by
  rw [elements, found]
  cases result with
  | none => rfl
  | some value =>
    change (elements read bound (skip rest)).bind _ = _
    rw [solid, Option.bind_some]
    cases elements read bound rest <;> rfl

theorem skip_compact (value : Json) (rest : List Char) :
    skip ((compact value).toList ++ rest) = (compact value).toList ++ rest := by
  obtain ⟨c, later, starts, solid, -⟩ := exists_compact_eq_cons value
  rw [starts, List.cons_append, skip_cons solid]

section Members

variable {read : String → List Char → Option (Option Json × List Char)} {member : String × Json}
  {rest : List Char} {result : Option Json}

/-- The last member, in front of the brace. -/
theorem members_last (found : read member.1 ((compact member.2).toList ++ '\x7d' :: rest) =
      result.map fun value => (some value, '\x7d' :: rest)) :
    members read (bound + 1) (memberText member ++ '\x7d' :: rest) =
      result.map fun value => ([(member.1, value)], rest) := by
  rw [memberText, List.cons_append, List.append_assoc, members]
  simp only [List.cons_append, stringRest_flatMap_escape, bind, Option.bind_some,
    skip_cons (c := ':') rfl, String.ofList_toList, skip_compact, found]
  cases result with
  | none => rfl
  | some value => rfl

/-- A member in front of others. -/
theorem members_more (found : read member.1 ((compact member.2).toList ++ ',' :: rest) =
      result.map fun value => (some value, ',' :: rest)) (solid : skip rest = rest) :
    members read (bound + 1) (memberText member ++ ',' :: rest) = result.bind fun value =>
      (members read bound rest).map fun (later, rest) => ((member.1, value) :: later, rest) := by
  rw [memberText, List.cons_append, List.append_assoc, members]
  simp only [List.cons_append, stringRest_flatMap_escape, bind, Option.bind_some,
    skip_cons (c := ':') rfl, String.ofList_toList, skip_compact, found]
  cases result with
  | none => rfl
  | some value =>
    change (members read bound (skip rest)).bind _ = _
    rw [solid, Option.bind_some]
    cases members read bound rest <;> rfl

end Members

end Parts

/-- A list of texts starts as its first text does. -/
theorem exists_intercalate_eq (first : List Char) (later : List (List Char)) :
    ∃ more, [','].intercalate (first :: later) = first ++ more := by
  cases later with
  | nil => exact ⟨[], by rw [List.intercalate_singleton, List.append_nil]⟩
  | cons next rest => exact ⟨_, by rw [List.intercalate_cons_cons, List.append_assoc]⟩

theorem skip_intercalate (first : List Char)
    (solid : ∀ rest, skip (first ++ rest) = first ++ rest) (later : List (List Char))
    (rest : List Char) :
    skip ([','].intercalate (first :: later) ++ rest) =
      [','].intercalate (first :: later) ++ rest := by
  obtain ⟨more, starts⟩ := exists_intercalate_eq first later
  rw [starts, List.append_assoc, solid]

section Lists

variable {bound : Nat}

/-- Elements are read one after the other, whatever each of them is read as. -/
theorem elements_intercalate {read : List Char → Option (Json × List Char)}
    {result : Json → Option Json} {first : Json} {later : List Json}
    (each : ∀ value ∈ first :: later, ∀ rest, Closes rest →
      read ((compact value).toList ++ rest) = (result value).map (·, rest))
    (enough : later.length < bound) (rest : List Char) :
    elements read bound ([','].intercalate
        ((first :: later).map fun value => (compact value).toList) ++ ']' :: rest) =
      ((first :: later).mapM result).map (·, rest) := by
  induction later generalizing first bound with
  | nil =>
    obtain ⟨bound, rfl⟩ := Nat.exists_eq_add_one_of_ne_zero (Nat.ne_of_gt enough)
    rw [List.map_cons, List.map_nil, List.intercalate_singleton,
      elements_last (each first List.mem_cons_self _ (closes_cons (.inr (.inl rfl)) rest))]
    cases found : result first <;> simp [found]
  | cons next more ih =>
    obtain ⟨bound, rfl⟩ := Nat.exists_eq_add_one_of_ne_zero (Nat.ne_of_gt
      (Nat.lt_of_le_of_lt (Nat.zero_le _) enough))
    rw [List.forall_mem_cons] at each
    have tail := ih each.2 (Nat.lt_of_succ_lt_succ enough)
    have solid := skip_intercalate _ (skip_compact next)
      (more.map fun value => (compact value).toList) (']' :: rest)
    rw [List.map_cons] at tail
    rw [List.map_cons, List.map_cons, List.intercalate_cons_cons, List.append_assoc,
      List.append_assoc, List.singleton_append,
      elements_more (each.1 _ (closes_cons (.inl rfl) _)) solid, tail,
      List.mapM_cons (a := first)]
    cases result first with
    | none => rfl
    | some value => cases (next :: more).mapM result <;> rfl

/-- Members are read one after the other, whatever the value of each of them is read as. -/
theorem members_intercalate {read : String → List Char → Option (Option Json × List Char)}
    {result : Json → Option Json} {first : String × Json} {later : List (String × Json)}
    (each : ∀ member ∈ first :: later, ∀ rest, Closes rest →
      read member.1 ((compact member.2).toList ++ rest) =
        (result member.2).map fun value => (some value, rest))
    (enough : later.length < bound) (rest : List Char) :
    members read bound ([','].intercalate ((first :: later).map memberText) ++ '\x7d' :: rest) =
      ((first :: later).mapM fun member => (result member.2).map (member.1, ·)).map (·, rest) := by
  induction later generalizing first bound with
  | nil =>
    obtain ⟨bound, rfl⟩ := Nat.exists_eq_add_one_of_ne_zero (Nat.ne_of_gt enough)
    rw [List.map_cons, List.map_nil, List.intercalate_singleton,
      members_last (each first List.mem_cons_self _ (closes_cons (.inr (.inr rfl)) rest))]
    cases found : result first.2 <;> simp [found]
  | cons next more ih =>
    obtain ⟨bound, rfl⟩ := Nat.exists_eq_add_one_of_ne_zero (Nat.ne_of_gt
      (Nat.lt_of_le_of_lt (Nat.zero_le _) enough))
    rw [List.forall_mem_cons] at each
    have tail := ih each.2 (Nat.lt_of_succ_lt_succ enough)
    have solid := skip_intercalate (memberText next) (fun _ => skip_cons rfl _)
      (more.map memberText) ('\x7d' :: rest)
    rw [List.map_cons] at tail
    rw [List.map_cons, List.map_cons, List.intercalate_cons_cons, List.append_assoc,
      List.append_assoc, List.singleton_append,
      members_more (each.1 _ (closes_cons (.inl rfl) _)) solid, tail,
      List.mapM_cons (a := first)]
    cases result first.2 with
    | none => rfl
    | some value =>
      cases (next :: more).mapM fun member => (result member.2).map (member.1, ·) <;> rfl

end Lists

theorem number_text_append {numeral : Numeral} {rest : List Char} (formed : numeral.WellFormed)
    (closes : Closes rest) :
    number (numeral.text ++ rest) = numeral.value?.map (·, rest) := by
  simp only [number, Numeral.read?_text_append formed closes.stops, bind, Option.bind_some, pure,
    Option.map_eq_bind, Function.comp_def]

/-- A number is read at any depth. -/
theorem value_text_append {numeral : Numeral} {rest : List Char} (depth : Nat)
    (formed : numeral.WellFormed) (closes : Closes rest) :
    value depth (numeral.text ++ rest) = numeral.value?.map (·, rest) := by
  rw [← number_text_append formed closes]
  obtain ⟨c, later, starts, first⟩ := Numeral.exists_text_eq_cons formed
  rw [starts, List.cons_append, value.eq_def]
  split <;> simp_all

end Text

/-! ## Values -/

mutual

/-- What the text of a value is read as, by a reader that goes `depth` levels deep. -/
def reread : (depth : Nat) → Json → Option Json
  | _, .null => some .null
  | _, .bool value => some (.bool value)
  | _, .string value => some (.string value)
  | _, .integer value => (Numeral.ofInt value).value?
  | _, .real (.finite negative mantissa exponent) =>
    (Numeral.ofFinite negative mantissa exponent).value?
  | _, .real (.infinite _) => some .null
  | 0, .array _ => none
  | depth + 1, .array elements => (rereadAll depth elements).map .array
  | 0, .object _ => none
  | depth + 1, .object members => (rereadMembers depth members).map .object

/-- What the texts of elements are read as. -/
def rereadAll (depth : Nat) : List Json → Option (List Json)
  | [] => some []
  | value :: rest => do return (← reread depth value) :: (← rereadAll depth rest)

def rereadMembers (depth : Nat) : List (String × Json) → Option (List (String × Json))
  | [] => some []
  | (name, value) :: rest => do
    return (name, ← reread depth value) :: (← rereadMembers depth rest)

end

theorem rereadAll_eq_mapM (depth : Nat) (elements : List Json) :
    rereadAll depth elements = elements.mapM (reread depth) := by
  induction elements with
  | nil => rfl
  | cons value rest ih => rw [rereadAll, ih, List.mapM_cons]

theorem rereadMembers_eq_mapM (depth : Nat) (members : List (String × Json)) :
    rereadMembers depth members =
      members.mapM fun member => (reread depth member.2).map (member.1, ·) := by
  induction members with
  | nil => rfl
  | cons member rest ih =>
    rw [rereadMembers, ih, List.mapM_cons]
    cases reread depth member.2 <;> rfl

namespace Text

/-- Between brackets there are enough characters for the commas. -/
theorem length_le_intercalate (first : List Char) (later : List (List Char)) :
    later.length ≤ ([','].intercalate (first :: later)).length := by
  induction later generalizing first with
  | nil => exact Nat.zero_le _
  | cons next more ih =>
    have shorter := ih next
    rw [List.intercalate_cons_cons, List.length_append, List.length_append, List.length_singleton,
      List.length_cons]
    omega

/-- An array or object is too deep for a reader that goes no level deep. -/
theorem value_zero_array (rest : List Char) : value 0 ('[' :: rest) = none := by
  rfl

theorem value_zero_object (rest : List Char) : value 0 ('\x7b' :: rest) = none := by
  rfl

section Values

variable {depth : Nat}

/-- What is read behind a bracket that does not close at once. -/
theorem value_bracket {text : List Char} (solid : skip text = text)
    (open_ : text.head? ≠ some ']') :
    value (depth + 1) ('[' :: text) =
      (elements (value depth) text.length text).map fun (found, rest) => (.array found, rest) := by
  rw [value.eq_7, solid]
  split
  next => exact absurd rfl open_
  next => rfl

/-- What is read behind a brace that does not close at once. -/
theorem value_brace {text : List Char} (solid : skip text = text)
    (open_ : text.head? ≠ some '\x7d') :
    value (depth + 1) ('\x7b' :: text) =
      (members (fun _ text => (value depth text).map fun (found, rest) => (some found, rest))
        text.length text).map fun (found, rest) => (.object found, rest) := by
  rw [value.eq_8, solid]
  split
  next => exact absurd rfl open_
  next => rfl

theorem value_array {elements : List Json}
    (each : ∀ value ∈ elements, ∀ rest, Closes rest →
      Text.value depth ((compact value).toList ++ rest) = (reread depth value).map (·, rest))
    (rest : List Char) :
    value (depth + 1) ((compact (.array elements)).toList ++ rest) =
      (reread (depth + 1) (.array elements)).map (·, rest) := by
  rw [toList_compact_array, reread, rereadAll_eq_mapM, List.cons_append, List.append_assoc,
    List.singleton_append]
  cases elements with
  | nil => rfl
  | cons first later =>
    have enough := length_le_intercalate (compact first).toList
      (later.map fun value => (compact value).toList)
    have solid := skip_intercalate _ (skip_compact first)
      (later.map fun value => (compact value).toList) (']' :: rest)
    obtain ⟨more, starts⟩ := exists_intercalate_eq (compact first).toList
      (later.map fun value => (compact value).toList)
    obtain ⟨c, tail, same, -, other⟩ := exists_compact_eq_cons first
    rw [← List.map_cons (f := fun value => (compact value).toList)] at enough solid starts
    rw [value_bracket solid, elements_intercalate each]
    · cases (first :: later).mapM (reread depth) <;> rfl
    · rw [List.length_map] at enough
      rw [List.length_append, List.length_cons]
      omega
    · rw [starts, same]
      exact fun first => other (Option.some.inj first)

/-- What is read behind a brace by a reader that wants some of the members. -/
theorem shaped_brace {fields : List String} {text : List Char} (solid : skip text = text)
    (open_ : text.head? ≠ some '\x7d') :
    shaped (.record fields) (depth + 1) ('\x7b' :: text) =
      (members (fun name text =>
        if fields.contains name then (value depth text).map fun (found, rest) => (some found, rest)
        else (pass text).map fun rest => (none, rest))
        text.length text).map fun (found, rest) => (.object found, rest) := by
  rw [shaped.eq_1, solid]
  split
  next => exact absurd rfl open_
  next => rfl

/-- A nonempty object up to its closing brace, whatever is read of its members. -/
theorem members_of_object (read : String → List Char → Option (Option Json × List Char))
    {first : String × Json} {later : List (String × Json)} {text rest : List Char}
    (spelled : text = [','].intercalate ((first :: later).map memberText) ++ '\x7d' :: rest)
    (each : ∀ member ∈ first :: later, ∀ rest, Closes rest →
      read member.1 ((compact member.2).toList ++ rest) =
        (reread depth member.2).map fun value => (some value, rest)) :
    skip text = text ∧ text.head? ≠ some '\x7d' ∧
      (members read text.length text).map (fun (found, rest) => (Json.object found, rest)) =
        (reread (depth + 1) (.object (first :: later))).map (·, rest) := by
  have enough := length_le_intercalate (memberText first) (later.map memberText)
  have solid := skip_intercalate (memberText first) (fun _ => skip_cons rfl _)
    (later.map memberText) ('\x7d' :: rest)
  obtain ⟨more, starts⟩ := exists_intercalate_eq (memberText first) (later.map memberText)
  rw [← List.map_cons (f := memberText)] at enough solid starts
  rw [spelled]
  refine ⟨solid, ?_, ?_⟩
  · rw [starts]
    exact fun first => absurd (Option.some.inj first) (by decide)
  · rw [members_intercalate each, reread, rereadMembers_eq_mapM]
    · cases (first :: later).mapM fun member => (reread depth member.2).map (member.1, ·) <;> rfl
    · rw [List.length_map] at enough
      rw [List.length_append, List.length_cons]
      omega

theorem value_object {listed : List (String × Json)}
    (each : ∀ member ∈ listed, ∀ rest, Closes rest →
      value depth ((compact member.2).toList ++ rest) = (reread depth member.2).map (·, rest))
    (rest : List Char) :
    value (depth + 1) ((compact (.object listed)).toList ++ rest) =
      (reread (depth + 1) (.object listed)).map (·, rest) := by
  rw [toList_compact_object, List.cons_append, List.append_assoc, List.singleton_append]
  cases listed with
  | nil =>
    rw [reread]
    rfl
  | cons first later =>
    obtain ⟨solid, open_, found⟩ := members_of_object
      (fun _ text => (value depth text).map fun (found, rest) => (some found, rest)) rfl
      (fun member listed rest closes => by
        rw [each member listed rest closes]
        cases reread depth member.2 <;> rfl)
    rw [value_brace solid open_, found]

end Values

section Scalars

variable (depth : Nat) (rest : List Char)

theorem value_null : value depth ("null".toList ++ rest) = some (.null, rest) :=
  value.eq_2 depth rest

theorem value_bool (truth : Bool) :
    value depth ((if truth then "true" else "false").toList ++ rest) =
      some (.bool truth, rest) := by
  cases truth with
  | true => exact value.eq_3 depth rest
  | false => exact value.eq_4 depth rest

theorem value_quote (text : String) :
    value depth ((quote text).toList ++ rest) = some (.string text, rest) := by
  rw [quote, String.toList_ofList, List.cons_append, List.append_assoc, List.singleton_append,
    value.eq_5, stringRest_flatMap_escape, Option.map_some]
  dsimp only
  rw [String.ofList_toList]

end Scalars

theorem value_compact (value : Json) (depth : Nat) {rest : List Char} (closes : Closes rest) :
    Text.value depth ((compact value).toList ++ rest) = (reread depth value).map (·, rest) := by
  induction value using induct generalizing depth rest with
  | null =>
    rw [compact, reread]
    exact value_null depth rest
  | bool value =>
    rw [compact, reread]
    exact value_bool depth rest value
  | integer value =>
    rw [compact, Numeral.toList_toString, reread]
    exact value_text_append depth (Numeral.wellFormed_ofInt value) closes
  | real value =>
    cases value with
    | finite negative mantissa exponent =>
      rw [compact, renderReal, String.toList_ofList, reread]
      exact value_text_append depth (Numeral.wellFormed_ofFinite negative mantissa exponent) closes
    | infinite negative =>
      rw [compact, renderReal, reread]
      exact value_null depth rest
  | string value =>
    rw [compact, reread]
    exact value_quote depth rest value
  | array elements ih =>
    cases depth with
    | zero =>
      rw [toList_compact_array, reread]
      exact value_zero_array _
    | succ depth => exact value_array (fun value member _ => ih value member depth) rest
  | object members ih =>
    cases depth with
    | zero =>
      rw [toList_compact_object, reread]
      exact value_zero_object _
    | succ depth => exact value_object (fun member listed _ => ih member listed depth) rest

/-- A reader that wants some members reads them like any other values. -/
theorem shaped_object {fields : List String} {listed : List (String × Json)}
    (known : ∀ member ∈ listed, member.1 ∈ fields) (depth : Nat) (rest : List Char) :
    shaped (.record fields) (depth + 1) ((compact (.object listed)).toList ++ rest) =
      (reread (depth + 1) (.object listed)).map (·, rest) := by
  rw [toList_compact_object, List.cons_append, List.append_assoc, List.singleton_append]
  cases listed with
  | nil =>
    rw [reread]
    rfl
  | cons first later =>
    obtain ⟨solid, open_, found⟩ := members_of_object
      (fun name text =>
        if fields.contains name then (value depth text).map fun (found, rest) => (some found, rest)
        else (pass text).map fun rest => (none, rest)) rfl
      (fun member listed rest closes => by
        rw [if_pos (List.contains_iff_mem.mpr (known member listed)),
          value_compact member.2 depth closes]
        cases reread depth member.2 <;> rfl)
    rw [shaped_brace solid open_, found]

end Text

/-- The text of a value is read as its numbers are. -/
theorem parse?_compact (value : Json) : parse? (compact value) = reread maxDepth value := by
  have read := Text.value_compact value maxDepth closes_nil
  have solid := Text.skip_compact value []
  rw [List.append_nil] at read solid
  have whole : Text.shaped .whole maxDepth (compact value).toList =
      Text.value maxDepth (compact value).toList := rfl
  simp only [parse?, parseShaped?, solid, whole, read, bind]
  cases reread maxDepth value <;> rfl

/-- So is the text of a record, if there is nothing in it but the wanted members. -/
theorem parseShaped?_compact {fields : List String} {listed : List (String × Json)}
    (known : ∀ member ∈ listed, member.1 ∈ fields) :
    parseShaped? (.record fields) (compact (.object listed)) =
      reread maxDepth (.object listed) := by
  have read := Text.shaped_object known 126 []
  have solid := Text.skip_compact (.object listed) []
  rw [List.append_nil] at read solid
  simp only [parseShaped?, solid, bind]
  rw [show maxDepth = 126 + 1 from rfl, read]
  cases reread (126 + 1) (.object listed) <;> rfl

/-! ## Values that are read back -/

/-- The text of a number is read as the number. -/
def ReadsBack (x : Binary64) : Prop :=
  Text.number (renderReal x).toList = some (.real x, [])

/-- The text of a number is read as some number. -/
def IsReadable (x : Binary64) : Prop :=
  (Text.number (renderReal x).toList).isSome

section Unchanged

variable {depth : Nat}

theorem reread_real_iff {negative : Bool} {mantissa : Nat} {exponent : Int} :
    reread depth (.real (.finite negative mantissa exponent)) =
        some (.real (.finite negative mantissa exponent)) ↔
      ReadsBack (.finite negative mantissa exponent) := by
  have read := Text.number_text_append (Numeral.wellFormed_ofFinite negative mantissa exponent)
    closes_nil
  rw [List.append_nil] at read
  rw [ReadsBack, renderReal, String.toList_ofList, read, reread]
  simp

theorem isSome_reread_real_iff {negative : Bool} {mantissa : Nat} {exponent : Int} :
    (reread depth (.real (.finite negative mantissa exponent))).isSome ↔
      IsReadable (.finite negative mantissa exponent) := by
  have read := Text.number_text_append (Numeral.wellFormed_ofFinite negative mantissa exponent)
    closes_nil
  rw [List.append_nil] at read
  rw [IsReadable, renderReal, String.toList_ofList, read, reread, Option.isSome_map]

theorem mapM_eq_self_iff {α : Type} {f : α → Option α} {items : List α} :
    items.mapM f = some items ↔ ∀ item ∈ items, f item = some item := by
  induction items with
  | nil => simp
  | cons item rest ih =>
    rw [List.mapM_cons, List.forall_mem_cons, ← ih]
    cases f item <;> cases rest.mapM f <;> simp

theorem isSome_mapM_iff {α β : Type} {f : α → Option β} {items : List α} :
    (items.mapM f).isSome ↔ ∀ item ∈ items, (f item).isSome := by
  induction items with
  | nil => simp
  | cons item rest ih =>
    rw [List.mapM_cons, List.forall_mem_cons, ← ih]
    cases f item <;> cases rest.mapM f <;> simp

theorem reread_array_eq_self_iff {elements : List Json} :
    reread (depth + 1) (.array elements) = some (.array elements) ↔
      ∀ value ∈ elements, reread depth value = some value := by
  rw [reread, rereadAll_eq_mapM, ← mapM_eq_self_iff]
  simp

theorem reread_object_eq_self_iff {members : List (String × Json)} :
    reread (depth + 1) (.object members) = some (.object members) ↔
      ∀ member ∈ members, reread depth member.2 = some member.2 := by
  have own (member : String × Json) : reread depth member.2 = some member.2 ↔
      (reread depth member.2).map (member.1, ·) = some member := by
    cases reread depth member.2 <;> simp [Prod.ext_iff]
  simp only [own]
  rw [reread, rereadMembers_eq_mapM, ← mapM_eq_self_iff]
  simp

/-- Members that are read back once settled are read back as a settled object. -/
theorem reread_settled_object {members : List (String × Json)}
    (each : ∀ member ∈ members, reread depth member.2.settled = some member.2.settled) :
    reread (depth + 1) (settled (.object members)) = some (settled (.object members)) := by
  rw [settled, reread_object_eq_self_iff]
  intro member listed
  obtain ⟨own, listed, same⟩ := mem_settledMembers listed
  rw [same]
  exact each _ listed

theorem descends_reread_eq_self :
    Descends (fun depth value => reread depth value = some value) ReadsBack where
  null _ := by rw [reread]
  bool _ _ := by rw [reread]
  integer _ _ low high := by rw [reread, Numeral.value?_ofInt low high]
  string _ _ := by rw [reread]
  real _ _ _ _ := reread_real_iff
  deepArray _ := by simp [reread]
  deepObject _ := by simp [reread]
  array _ _ := reread_array_eq_self_iff
  object _ _ := reread_object_eq_self_iff

theorem descends_isSome_reread :
    Descends (fun depth value => (reread depth value).isSome) IsReadable where
  null _ := by simp [reread]
  bool _ _ := by simp [reread]
  integer _ _ low high := by simp [reread, Numeral.value?_ofInt low high]
  string _ _ := by simp [reread]
  real _ _ _ _ := isSome_reread_real_iff
  deepArray _ := by simp [reread]
  deepObject _ := by simp [reread]
  array _ _ := by rw [reread, rereadAll_eq_mapM, Option.isSome_map, isSome_mapM_iff]
  object _ _ := by
    simp only [reread, rereadMembers_eq_mapM, Option.isSome_map, isSome_mapM_iff]

/-- A value is read back unchanged exactly when it is not too deep for the reader and each of its
binary64 numbers is read back. -/
theorem reread_eq_self_iff {value : Json} (isValue : IsValue value) :
    reread depth value = some value ↔ value.nesting ≤ depth ∧ ∀ x ∈ value.reals, ReadsBack x :=
  descends_reread_eq_self.iff isValue depth

/-- Something is read off the text of a value exactly when it is not too deep for the reader and
each of its binary64 numbers is readable. -/
theorem isSome_reread_iff {value : Json} (isValue : IsValue value) :
    (reread depth value).isSome ↔ value.nesting ≤ depth ∧ ∀ x ∈ value.reals, IsReadable x :=
  descends_isSome_reread.iff isValue depth

end Unchanged

/-! ## What is read is settled -/

theorem settled_of_value? {numeral : Numeral} {read : Json} (found : numeral.value? = some read) :
    read.settled = read := by
  simp only [Numeral.value?] at found
  generalize (if numeral.negative then _ else _ : Int) = signed at found
  split at found
  · cases found
    rfl
  · obtain ⟨x, -, rfl⟩ := Option.map_eq_some_iff.mp found
    rfl

theorem exists_of_mem_mapM {α β : Type} {f : α → Option β} {items : List α} {results : List β}
    (found : items.mapM f = some results) {result : β} (listed : result ∈ results) :
    ∃ item ∈ items, f item = some result := by
  induction items generalizing results with
  | nil =>
    cases found
    cases listed
  | cons item rest ih =>
    simp only [List.mapM_cons, bind, Option.bind_eq_some_iff, pure, Option.some.injEq] at found
    obtain ⟨first, here, later, behind, rfl⟩ := found
    rcases List.mem_cons.mp listed with rfl | listed
    · exact ⟨item, List.mem_cons_self, here⟩
    · obtain ⟨own, mem, same⟩ := ih behind listed
      exact ⟨own, List.mem_cons_of_mem _ mem, same⟩

/-- Members keep their names and their order when they are read. -/
theorem names_of_mapM {f : Json → Option Json} {listed results : List (String × Json)}
    (found : (listed.mapM fun member => (f member.2).map (member.1, ·)) = some results) :
    results.map Prod.fst = listed.map Prod.fst := by
  induction listed generalizing results with
  | nil =>
    cases found
    rfl
  | cons member rest ih =>
    simp only [List.mapM_cons, bind, Option.bind_eq_some_iff, pure, Option.some.injEq,
      Option.map_eq_some_iff] at found
    obtain ⟨first, ⟨_, -, rfl⟩, later, behind, rfl⟩ := found
    rw [List.map_cons, List.map_cons, ih behind]

/-- What the text of a value is read as has its members in order, as the value has. -/
theorem IsValue.settled_reread {value read : Json} (isValue : IsValue value) {depth : Nat}
    (found : reread depth value = some read) : read.settled = read := by
  induction isValue generalizing depth read with
  | null | bool | string =>
    rw [reread] at found
    cases found
    rfl
  | integer | real =>
    rw [reread] at found
    exact settled_of_value? found
  | array each ih =>
    cases depth with
    | zero =>
      rw [reread] at found
      cases found
    | succ depth =>
      rw [reread, rereadAll_eq_mapM] at found
      obtain ⟨results, collected, rfl⟩ := Option.map_eq_some_iff.mp found
      rw [settled, settledAll_eq_map, array.injEq]
      refine (List.map_congr_left fun result listed => ?_).trans (List.map_id results)
      obtain ⟨own, mem, here⟩ := exists_of_mem_mapM collected listed
      exact ih own mem here
  | @object members ordered each ih =>
    cases depth with
    | zero =>
      rw [reread] at found
      cases found
    | succ depth =>
      rw [reread, rereadMembers_eq_mapM] at found
      obtain ⟨results, collected, rfl⟩ := Option.map_eq_some_iff.mp found
      have sorted : Ordered results := by
        have names := List.pairwise_map.mpr ordered
        rw [← names_of_mapM collected] at names
        exact List.pairwise_map.mp names
      rw [settled, sorted.settledMembers_eq]
      intro result listed
      obtain ⟨own, mem, here⟩ := exists_of_mem_mapM collected listed
      obtain ⟨_, read, rfl⟩ := Option.map_eq_some_iff.mp here
      exact ih own mem read

end DiagramAssist.Json
