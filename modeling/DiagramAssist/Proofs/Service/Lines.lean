import DiagramAssist.Proofs.Engine.Ranges
import DiagramAssist.Proofs.Message.Bounds
import DiagramAssist.Service

/-! # Responses on lines

A response is written on one line, and the line is read as what the response carries: its number and
its result or error (`Service.tells_respond`). All results of the service are read back, since there
are no numbers in them but those of the ranges that were asked for, and they are nested a few levels
deep (`Reply.reread_result`).
-/

namespace DiagramAssist

namespace Json

/-! ## Texts without line feeds -/

theorem hexDigit_ne_feed {code : Nat} (control : code < 0x20) :
    hexDigit (code / 16) ≠ '\n' ∧ hexDigit (code % 16) ≠ '\n' := by
  decide +revert

theorem feed_not_mem_escape (c : Char) : '\n' ∉ escape c := by
  unfold escape
  split
  case h_8 feed _ _ =>
    split
    · next control =>
      obtain ⟨high, low⟩ := hexDigit_ne_feed control
      simp [high.symm, low.symm]
    · exact fun listed => feed (List.mem_singleton.mp listed).symm
  all_goals decide

theorem feed_not_mem_quote (text : String) : '\n' ∉ (quote text).toList := by
  simp [quote, feed_not_mem_escape]

theorem feed_not_mem_memberText {member : String × Json}
    (each : '\n' ∉ (compact member.2).toList) : '\n' ∉ memberText member := by
  simp [memberText, feed_not_mem_escape, each]

theorem feed_not_mem_intercalate {parts : List (List Char)} (each : ∀ part ∈ parts, '\n' ∉ part) :
    '\n' ∉ [','].intercalate parts := by
  induction parts with
  | nil => exact List.not_mem_nil
  | cons first rest ih =>
    obtain ⟨here, each⟩ := List.forall_mem_cons.mp each
    cases rest with
    | nil =>
      rw [List.intercalate_singleton]
      exact here
    | cons second rest =>
      rw [List.intercalate_cons_cons, List.mem_append, List.mem_append]
      rintro ((listed | listed) | listed)
      · exact here listed
      · exact absurd listed (by decide)
      · exact ih each listed

theorem Numeral.feed_not_mem_text {numeral : Numeral} (formed : numeral.WellFormed) :
    '\n' ∉ numeral.text := by
  have digits {digits : List Char} (present : AreDigits digits) : '\n' ∉ digits :=
    fun listed => absurd (present.2 _ listed) (by decide)
  have fraction : '\n' ∉ fractionText numeral.fraction := by
    cases shown : numeral.fraction with
    | none => exact List.not_mem_nil
    | some _ => simp [fractionText, digits (formed.fraction _ shown)]
  have exponent : '\n' ∉ exponentText numeral.exponent := by
    cases shown : numeral.exponent with
    | none => exact List.not_mem_nil
    | some power =>
      obtain ⟨isNegative, _⟩ := power
      cases isNegative <;> simp [exponentText, digits (formed.exponent _ _ shown)]
  cases shown : numeral.negative <;> simp [text, shown, digits formed.whole, fraction, exponent]

/-- The compact form of a value is one line. -/
theorem feed_not_mem_compact (value : Json) : '\n' ∉ (compact value).toList := by
  induction value using induct with
  | null =>
    rw [compact]
    decide
  | bool value =>
    rw [compact]
    cases value <;> decide
  | integer value =>
    rw [compact, Numeral.toList_toString]
    exact Numeral.feed_not_mem_text (Numeral.wellFormed_ofInt value)
  | real value =>
    cases value with
    | finite negative mantissa exponent =>
      rw [compact, renderReal, String.toList_ofList]
      exact Numeral.feed_not_mem_text (Numeral.wellFormed_ofFinite negative mantissa exponent)
    | infinite negative =>
      rw [compact, renderReal]
      decide
  | string value =>
    rw [compact]
    exact feed_not_mem_quote value
  | array elements ih =>
    rw [toList_compact_array]
    simp [feed_not_mem_intercalate (List.forall_mem_map.mpr ih)]
  | object members ih =>
    rw [toList_compact_object]
    simp [feed_not_mem_intercalate (List.forall_mem_map.mpr fun member listed =>
      feed_not_mem_memberText (ih member listed))]

end Json

/-! ## Results -/

section Results

variable {depth : Nat}

theorem Json.reread_settled_list {α : Type} {encode : α → Json} {listed : List α}
    (each : ∀ item ∈ listed, reread depth (encode item).settled = some (encode item).settled) :
    reread (depth + 1) (settled (.array (listed.map encode))) =
      some (settled (.array (listed.map encode))) := by
  rw [settled, settledAll_eq_map, List.map_map, reread_array_eq_self_iff]
  exact List.forall_mem_map.mpr each

theorem Json.reread_ofString? (text : Option String) :
    reread depth (settled (.ofString? text)) = some (settled (.ofString? text)) := by
  cases text <;> rfl

theorem Item.reread_settled {item : Item} (fits : item.range.Fits) :
    Json.reread (depth + 3) item.toJson.settled = some item.toJson.settled := by
  refine Json.reread_settled_object ?_
  simp only [List.forall_mem_cons, List.not_mem_nil, false_implies, implies_true, and_true]
  exact ⟨rfl, rfl, rfl, Range.reread_settled fits⟩

theorem LibraryEntry.reread_settled (entry : LibraryEntry) :
    Json.reread (depth + 1) entry.toJson.settled = some entry.toJson.settled := by
  refine Json.reread_settled_object ?_
  simp only [List.forall_mem_cons, List.not_mem_nil, false_implies, implies_true, and_true]
  exact ⟨rfl, rfl⟩

theorem Parameter.reread_settled (parameter : Parameter) :
    Json.reread (depth + 1) parameter.toJson.settled = some parameter.toJson.settled := by
  refine Json.reread_settled_object (List.forall_mem_cons.mpr ⟨rfl, ?_⟩)
  rintro ⟨name, found⟩ listed
  obtain ⟨-, own⟩ := Operation.mem_optionalMember.mp listed
  obtain ⟨value, -, rfl⟩ := Option.map_eq_some_iff.mp own.symm
  rfl

theorem CallableMatch.reread_settled (found : CallableMatch) :
    Json.reread (depth + 3) found.toJson.settled = some found.toJson.settled := by
  refine Json.reread_settled_object (List.forall_mem_append.mpr ⟨?_, ?_⟩)
  · simp only [List.forall_mem_cons, List.not_mem_nil, false_implies, implies_true, and_true]
    exact ⟨rfl, rfl, rfl, Json.reread_settled_list fun parameter _ => parameter.reread_settled⟩
  · rintro ⟨name, own⟩ listed
    obtain ⟨-, same⟩ := Operation.mem_optionalMember.mp listed
    obtain ⟨origin, -, rfl⟩ := Option.map_eq_some_iff.mp same.symm
    rfl

/-- The value of an answer is read back, if the ranges in it are. -/
theorem Reply.reread_value {reply : Reply} {value : Json}
    (fits : ∀ items, reply = .items items → ∀ item ∈ items, item.range.Fits)
    (valued : reply.value = .ok value) :
    Json.reread (depth + 4) value.settled = some value.settled := by
  cases reply with
  | items list =>
    cases valued
    exact Json.reread_settled_list fun item listed =>
      Item.reread_settled (fits list rfl item listed)
  | callable found =>
    cases valued
    cases found with
    | none => rfl
    | some found => exact found.reread_settled
  | entries list =>
    cases valued
    exact Json.reread_settled_list fun entry _ => entry.reread_settled
  | address url =>
    cases valued
    exact Json.reread_ofString? url
  | keys list =>
    cases valued
    exact Json.reread_settled_list fun key _ => Json.reread_ofString? key
  | failed error => cases valued
  | loadFailed error =>
    cases error with
    | fetch error => cases valued
    | parse key error =>
      cases valued
      rfl
  | _ =>
    cases valued
    rfl

end Results

/-- The positions in the range of the items that an operation asks for fit. -/
theorem Operation.fits_of_range? {operation : Operation} (fits : operation.Fits) {range : Range}
    (wanted : operation.command.range? = some range) : range.Fits := by
  cases operation <;> cases wanted
  all_goals exact fits

/-- The result of an answer that consists of items for an operation, or of anything else, is read
back. -/
theorem Reply.reread_result {reply : Reply} {operation : Operation} {depth : Nat} {value : Json}
    (fits : operation.Fits) (replaces : reply.Replaces operation.command.range?)
    (succeeds : reply.result = .ok value) : Json.reread (depth + 4) value = some value := by
  unfold result at succeeds
  cases valued : reply.value with
  | error error =>
    rw [valued] at succeeds
    cases succeeds
  | ok own =>
    rw [valued] at succeeds
    cases succeeds
    exact reread_value (fun items same item listed =>
      Operation.fits_of_range? fits (replaces items same item listed)) valued

/-! ## Responses -/

/-- What is said on a line: the number of a request, and its result or error. -/
inductive Tells (text : String) (id : Nat) : Except ServiceError Json → Prop where
  | result {value : Json}
      (reads : Json.parse? text = some (.object [("id", .nat id), ("result", value)])) :
      Tells text id (.ok value)
  | error {error : ServiceError}
      (reads : Json.parse? text = some (.object [("id", .nat id),
        ("error", .object
          [("code", .string error.code.word), ("message", .string error.message)])])) :
      Tells text id (.error error)

/-- A response says what it is made of, if its result is read back. -/
theorem Service.tells_respond {id : Nat} (wide : id < Nat.pow 2 64)
    {result : Except ServiceError Json}
    (readable : ∀ value, result = .ok value → Json.reread 126 value = some value) :
    Tells (respond id result).toJson.compact id result := by
  cases result with
  | ok value =>
    refine .result ((Json.parse?_compact _).trans
      (Json.reread_object_eq_self_iff.mpr (List.forall_mem_cons.mpr ⟨reread_nat wide, ?_⟩)))
    exact List.forall_mem_singleton.mpr (readable value rfl)
  | error error =>
    refine .error ((Json.parse?_compact _).trans
      (Json.reread_object_eq_self_iff.mpr (List.forall_mem_cons.mpr ⟨reread_nat wide, ?_⟩)))
    exact List.forall_mem_singleton.mpr rfl

end DiagramAssist
