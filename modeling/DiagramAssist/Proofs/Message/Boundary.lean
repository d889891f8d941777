import DiagramAssist.Proofs.Json.Reading
import DiagramAssist.Proofs.Message.Records

/-! # Messages across the boundary

The parameters of an operation hold no numbers but those of positions and are nested three levels
deep, so that the text of a request is read back as the request, and the request as the operation.

The result of a response is any value. As a value the response keeps its identifier and its answer.
As a text it does so unless the result is nested deeper than the reader goes or a number in it is
read as another one: the shortest digits of a binary64 number denote it, but they are read by one
product or quotient with a power of ten that has itself been rounded.
-/

namespace DiagramAssist

open Json

/-! ## Parts of messages -/

/-- Both numbers of a position fit a 32-bit word. -/
def Position.Fits (position : Position) : Prop :=
  position.line < Nat.pow 2 32 ∧ position.character < Nat.pow 2 32

/-- Both ends of a range fit. -/
def Range.Fits (range : Range) : Prop :=
  range.start.Fits ∧ range.stop.Fits

def Operation.Fits : Operation → Prop
  | .suggestions _ range _ => range.Fits
  | .arguments _ _ range => range.Fits
  | .callable _ _ => True
  | .libraryPaths _ range => range.Fits
  | .libraryCompletions _ range => range.Fits

theorem Decoder.natUpTo_nat {limit number : Nat} (fits : number ≤ limit) :
    natUpTo limit (.nat number) = .ok number := by
  simp [natUpTo, Json.nat, fits]

theorem Decoder.word32_nat {number : Nat} (fits : number < Nat.pow 2 32) :
    word32 (.nat number) = .ok number :=
  natUpTo_nat (Nat.le_sub_one_of_lt fits)

theorem Decoder.word64_nat {number : Nat} (fits : number < Nat.pow 2 64) :
    word64 (.nat number) = .ok number :=
  natUpTo_nat (Nat.le_sub_one_of_lt fits)

theorem Position.decode_settled {position : Position} (fits : position.Fits) :
    Position.decode position.toJson.settled = .ok position := by
  have distinct :
      Distinct [("line", .nat position.line), ("character", .nat position.character)] := by
    simp [Distinct]
  exact Decoder.record2_eq_ok (ordered_settledMembers _).distinct
    (Field.holds_settled distinct List.mem_cons_self (Decoder.word32_nat fits.1))
    (Field.holds_settled distinct (List.mem_cons_of_mem _ List.mem_cons_self)
      (Decoder.word32_nat fits.2))

theorem Range.decode_settled {range : Range} (fits : range.Fits) :
    Range.decode range.toJson.settled = .ok range := by
  have distinct : Distinct [("start", range.start.toJson), ("end", range.stop.toJson)] := by
    simp [Distinct]
  exact Decoder.record2_eq_ok (ordered_settledMembers _).distinct
    (Field.holds_settled distinct List.mem_cons_self (Position.decode_settled fits.1))
    (Field.holds_settled distinct (List.mem_cons_of_mem _ List.mem_cons_self)
      (Position.decode_settled fits.2))

theorem ItemKind.ofWord?_word (kind : ItemKind) : ItemKind.ofWord? kind.word = some kind := by
  cases kind <;> rfl

theorem ServiceErrorCode.ofWord?_word (code : ServiceErrorCode) :
    ServiceErrorCode.ofWord? code.word = some code := by
  cases code <;> rfl

theorem Decoder.list_kinds (kinds : List ItemKind) :
    list (word ItemKind.ofWord?) (.array (kinds.map fun kind => .string kind.word)) =
      .ok kinds := by
  rw [list]
  induction kinds with
  | nil => rfl
  | cons kind rest ih =>
    rw [List.map_cons, List.mapM_cons, ih, word, ItemKind.ofWord?_word]
    rfl

/-- The kinds of a filter are written as a list of words or as `null`. -/
theorem Filter.exists_toJson_eq (filter : Filter) :
    ∃ kinds, filter.toJson = .object
        [("prefix", .ofString? filter.start), ("kinds", kinds),
          ("excludeIdentifiers", .bool filter.excludeIdentifiers),
          ("globalVariablesOnly", .bool filter.globalVariablesOnly)] ∧
      Decoder.nullable (.list (.word ItemKind.ofWord?)) kinds.settled = .ok filter.kinds := by
  obtain ⟨start, kinds, excludes, globals⟩ := filter
  refine ⟨_, rfl, ?_⟩
  cases kinds with
  | none => rfl
  | some kinds =>
    refine Decoder.nullable_of_ne (by simp [settled]) ?_
    rw [settled, settledAll_eq_map, List.map_map]
    exact Decoder.list_kinds kinds

theorem Filter.decode_settled (filter : Filter) :
    Filter.decode filter.toJson.settled = .ok filter := by
  obtain ⟨kinds, written, decodesKinds⟩ := filter.exists_toJson_eq
  obtain ⟨start, _, excludes, globals⟩ := filter
  have decodesStart : Decoder.nullable .string (settled (.ofString? start)) = .ok start := by
    cases start <;> rfl
  have distinct : Distinct [("prefix", .ofString? start), ("kinds", kinds),
      ("excludeIdentifiers", .bool excludes), ("globalVariablesOnly", .bool globals)] := by
    simp [Distinct]
  rw [written]
  exact Decoder.record4_eq_ok (ordered_settledMembers _).distinct
    (Field.holds_settled distinct (.head _) decodesStart)
    (Field.holds_settled distinct (.tail _ (.head _)) decodesKinds)
    (Field.holds_settled distinct (.tail _ (.tail _ (.head _))) rfl)
    (Field.holds_settled distinct (.tail _ (.tail _ (.tail _ (.head _)))) rfl)

/-! ## Operations -/

namespace Operation

theorem mem_optionalMember {name other : String} {value : Option Json} {found : Json} :
    (name, found) ∈ optionalMember other value ↔ name = other ∧ some found = value := by
  cases value <;> simp [optionalMember]

theorem names_optionalMember (name : String) (value : Option Json) :
    ((optionalMember name value).map Prod.fst).Sublist [name] := by
  cases value with
  | none => exact List.nil_sublist _
  | some value => exact List.Sublist.refl _

theorem names_documentMembers (document : DocumentRef) :
    ((documentMembers document).map Prod.fst).Sublist ["content", "key"] := by
  rw [documentMembers, List.map_append]
  exact (names_optionalMember ..).append (names_optionalMember ..)

/-- The members of the parameters that say which document is meant, in front of others. -/
theorem distinct_documentMembers {document : DocumentRef} {rest : List (String × Json)}
    (names : List String) (behind : (rest.map Prod.fst).Sublist names)
    (apart : (["content", "key"] ++ names).Nodup) :
    Distinct (documentMembers document ++ rest) := by
  rw [Distinct, List.map_append]
  exact apart.sublist ((names_documentMembers document).append behind)

theorem mem_documentMembers {document : DocumentRef} {name : String} {found : Json} :
    (name, found) ∈ documentMembers document ↔
      name = "content" ∧ some found = document.content.map .string ∨
        name = "key" ∧ some found = document.key.map .string := by
  rw [documentMembers, List.mem_append, mem_optionalMember, mem_optionalMember]

section Documents

variable {document : DocumentRef} {rest : List (String × Json)}

/-- The document is read off the members that were written for it, whatever others there are. -/
theorem documentField_settled (distinct : Distinct (documentMembers document ++ rest))
    (content : ∀ found, ("content", found) ∉ rest) (key : ∀ found, ("key", found) ∉ rest) :
    documentField (settledMembers (documentMembers document ++ rest)) = .ok document := by
  have sorted := (ordered_settledMembers (documentMembers document ++ rest)).distinct
  have one : (Field.optional "content" Decoder.string).Holds
      (settledMembers (documentMembers document ++ rest)) document.content :=
    Field.holds_optional_settled .string distinct
      (fun own => by simp [mem_documentMembers, content]) (fun _ _ => rfl) nofun
  have two : (Field.optional "key" Decoder.string).Holds
      (settledMembers (documentMembers document ++ rest)) document.key :=
    Field.holds_optional_settled .string distinct
      (fun own => by simp [mem_documentMembers, key]) (fun _ _ => rfl) nofun
  have checked := checkMembers_eq_ok sorted (.cons sorted one (.cons sorted two (.nil _)))
  simp only [documentField, checked, one.get_eq sorted, two.get_eq sorted]
  rfl

end Documents

theorem decodeSuggestions_settled (document : DocumentRef) {range : Range} (fits : range.Fits)
    (filter : Option Filter) :
    decodeSuggestions (params (.suggestions document range filter)).settled =
      .ok (.suggestions document range filter) := by
  have distinct : Distinct (documentMembers document ++ ("range", range.toJson) ::
      optionalMember "filter" (filter.map Filter.toJson)) :=
    distinct_documentMembers ["range", "filter"] ((names_optionalMember "filter" _).cons_cons _)
      (by decide)
  have sorted := (ordered_settledMembers (documentMembers document ++ ("range", range.toJson) ::
    optionalMember "filter" (filter.map Filter.toJson))).distinct
  have holdsRange : rangeField.Holds _ range := Field.holds_settled distinct
    (List.mem_append_right _ List.mem_cons_self) (Range.decode_settled fits)
  have holdsFilter : (Field.optional "filter" Filter.decode).Holds _ filter :=
    Field.holds_optional_settled Filter.toJson distinct
      (fun own => by simp [mem_documentMembers, mem_optionalMember])
      (fun filter _ => Filter.decode_settled filter) (fun _ => by simp [Filter.toJson, settled])
  have checked := checkMembers_eq_ok sorted
    (.cons sorted holdsRange (.cons sorted holdsFilter (.nil _)))
  have document_ := documentField_settled distinct (fun _ => by simp [mem_optionalMember])
    (fun _ => by simp [mem_optionalMember])
  simp only [params, settled, decodeSuggestions, members, bind, Except.bind, checked,
    holdsRange.get_eq sorted, holdsFilter.get_eq sorted, document_]
  rfl

theorem decodeArguments_settled (document : DocumentRef) (name : String) {range : Range}
    (fits : range.Fits) :
    decodeArguments (params (.arguments document name range)).settled =
      .ok (.arguments document name range) := by
  have distinct : Distinct (documentMembers document ++
      [("name", .string name), ("range", range.toJson)]) :=
    distinct_documentMembers ["name", "range"] (List.Sublist.refl _) (by decide)
  have sorted := (ordered_settledMembers (documentMembers document ++
    [("name", .string name), ("range", range.toJson)])).distinct
  have holdsName : nameField.Holds _ name := Field.holds_settled distinct
    (List.mem_append_right _ List.mem_cons_self) rfl
  have holdsRange : rangeField.Holds _ range := Field.holds_settled distinct
    (List.mem_append_right _ (.tail _ (.head _))) (Range.decode_settled fits)
  have checked := checkMembers_eq_ok sorted
    (.cons sorted holdsName (.cons sorted holdsRange (.nil _)))
  have document_ := documentField_settled distinct (fun _ => by simp) (fun _ => by simp)
  simp only [params, settled, decodeArguments, members, bind, Except.bind, checked,
    holdsName.get_eq sorted, holdsRange.get_eq sorted, document_]
  rfl

theorem decodeCallable_settled (document : DocumentRef) (name : String) :
    decodeCallable (params (.callable document name)).settled = .ok (.callable document name) := by
  have distinct : Distinct (documentMembers document ++ [("name", .string name)]) :=
    distinct_documentMembers ["name"] (List.Sublist.refl _) (by decide)
  have sorted :=
    (ordered_settledMembers (documentMembers document ++ [("name", .string name)])).distinct
  have holdsName : nameField.Holds _ name := Field.holds_settled distinct
    (List.mem_append_right _ List.mem_cons_self) rfl
  have checked := checkMembers_eq_ok sorted (.cons sorted holdsName (.nil _))
  have document_ := documentField_settled distinct (fun _ => by simp) (fun _ => by simp)
  simp only [params, settled, decodeCallable, members, bind, Except.bind, checked,
    holdsName.get_eq sorted, document_]
  rfl

theorem decodeLibrary_settled (make : String → Range → Operation) (start : String) {range : Range}
    (fits : range.Fits) :
    decodeLibrary make
      (settled (.object [("prefix", .string start), ("range", range.toJson)])) =
      .ok (make start range) := by
  have distinct : Distinct [("prefix", .string start), ("range", range.toJson)] := by
    simp [Distinct]
  exact Decoder.record2_eq_ok (ordered_settledMembers _).distinct
    (Field.holds_settled distinct (.head _) rfl)
    (Field.holds_settled distinct (.tail _ (.head _)) (Range.decode_settled fits))

theorem ofRequest_eq_ok {id : Nat} {name : String} {members : List (String × Json)}
    {decode : Decoder Operation} {operation : Operation} (found : decoder? name = some decode)
    (decoded : decode (settled (.object members)) = .ok operation) :
    ofRequest ⟨id, name, settled (.object members)⟩ = .ok operation := by
  rw [settled] at decoded ⊢
  simp only [ofRequest, found, decoded]

/-- The parameters of an operation are read back as the operation. -/
theorem ofRequest_toRequest {operation : Operation} (fits : operation.Fits) (id : Nat) :
    ofRequest (operation.toRequest id) = .ok operation := by
  cases operation with
  | suggestions document range filter =>
    exact ofRequest_eq_ok rfl (decodeSuggestions_settled document fits filter)
  | arguments document name range =>
    exact ofRequest_eq_ok rfl (decodeArguments_settled document name fits)
  | callable document name => exact ofRequest_eq_ok rfl (decodeCallable_settled document name)
  | libraryPaths start range =>
    exact ofRequest_eq_ok rfl (decodeLibrary_settled .libraryPaths start fits)
  | libraryCompletions start range =>
    exact ofRequest_eq_ok rfl (decodeLibrary_settled .libraryCompletions start fits)

end Operation

/-! ## Requests as text -/

section Texts

variable {depth : Nat}

theorem reread_nat {number : Nat} (fits : number < Nat.pow 2 64) :
    reread depth (.nat number) = some (.nat number) := by
  have limit : Nat.pow 2 64 = 18446744073709551616 := rfl
  have low : minSigned ≤ Int.ofNat number := by
    rw [show minSigned = -9223372036854775808 from rfl]
    exact le_trans (by decide) (Int.natCast_nonneg number)
  have high : Int.ofNat number ≤ maxUnsigned := by
    rw [show maxUnsigned = 18446744073709551615 from rfl, Int.ofNat_eq_natCast]
    omega
  rw [Json.nat, reread, Numeral.value?_ofInt low high]

theorem Position.reread_settled {position : Position} (fits : position.Fits) :
    reread (depth + 1) position.toJson.settled = some position.toJson.settled := by
  have wide {number : Nat} (small : number < Nat.pow 2 32) : number < Nat.pow 2 64 :=
    Nat.lt_trans small (by decide)
  refine reread_settled_object ?_
  simp only [List.forall_mem_cons, List.not_mem_nil, false_implies, implies_true, and_true]
  exact ⟨reread_nat (wide fits.1), reread_nat (wide fits.2)⟩

theorem Range.reread_settled {range : Range} (fits : range.Fits) :
    reread (depth + 2) range.toJson.settled = some range.toJson.settled := by
  refine reread_settled_object ?_
  simp only [List.forall_mem_cons, List.not_mem_nil, false_implies, implies_true, and_true]
  exact ⟨Position.reread_settled fits.1, Position.reread_settled fits.2⟩

theorem Filter.reread_settled (filter : Filter) :
    reread (depth + 2) filter.toJson.settled = some filter.toJson.settled := by
  obtain ⟨start, kinds, excludes, globals⟩ := filter
  refine reread_settled_object ?_
  simp only [List.forall_mem_cons, List.not_mem_nil, false_implies, implies_true, and_true]
  refine ⟨?_, ?_, ?_, ?_⟩
  · cases start <;> rfl
  · cases kinds with
    | none => rfl
    | some kinds =>
      rw [settled, settledAll_eq_map, List.map_map, reread_array_eq_self_iff]
      exact List.forall_mem_map.mpr fun _ _ => rfl
  · rfl
  · rfl

theorem Operation.reread_documentMembers (document : DocumentRef) :
    ∀ member ∈ documentMembers document,
      reread depth member.2.settled = some member.2.settled := by
  rintro ⟨name, found⟩ listed
  rcases mem_documentMembers.mp listed with ⟨-, own⟩ | ⟨-, own⟩ <;>
  · obtain ⟨text, -, rfl⟩ := Option.map_eq_some_iff.mp own.symm
    rfl

/-- The parameters of an operation are nested three levels deep, and there are no numbers in them
but those of positions. -/
theorem Operation.reread_params {operation : Operation} (fits : operation.Fits) :
    reread (depth + 3) operation.params.settled = some operation.params.settled := by
  cases operation with
  | suggestions document range filter =>
    refine reread_settled_object (List.forall_mem_append.mpr
      ⟨reread_documentMembers document, List.forall_mem_cons.mpr ⟨Range.reread_settled fits, ?_⟩⟩)
    cases filter with
    | none => exact List.forall_mem_nil _
    | some filter => exact List.forall_mem_singleton.mpr (Filter.reread_settled filter)
  | arguments document name range =>
    refine reread_settled_object (List.forall_mem_append.mpr
      ⟨reread_documentMembers document, List.forall_mem_cons.mpr ⟨rfl, ?_⟩⟩)
    exact List.forall_mem_singleton.mpr (Range.reread_settled fits)
  | callable document name =>
    exact reread_settled_object (List.forall_mem_append.mpr
      ⟨reread_documentMembers document, List.forall_mem_singleton.mpr rfl⟩)
  | libraryPaths start range =>
    exact reread_settled_object (List.forall_mem_cons.mpr
      ⟨rfl, List.forall_mem_singleton.mpr (Range.reread_settled fits)⟩)
  | libraryCompletions start range =>
    exact reread_settled_object (List.forall_mem_cons.mpr
      ⟨rfl, List.forall_mem_singleton.mpr (Range.reread_settled fits)⟩)

/-- The text of a request for an operation is read back as the request. -/
theorem Operation.parse_toRequest {operation : Operation} (fits : operation.Fits) {id : Nat}
    (wide : id < Nat.pow 2 64) :
    Request.parse (operation.toRequest id).toJson.compact = .ok (operation.toRequest id) := by
  have read : reread maxDepth (operation.toRequest id).toJson =
      some (operation.toRequest id).toJson := by
    rw [Request.toJson, show maxDepth = 123 + 3 + 1 from rfl, reread_object_eq_self_iff]
    simp only [List.forall_mem_cons, List.not_mem_nil, false_implies, implies_true, and_true]
    exact ⟨reread_nat wide, rfl, Operation.reread_params fits⟩
  have distinct : Distinct [("id", .nat id), ("operation", .string operation.name),
      ("params", operation.params.settled)] := by
    simp [Distinct]
  rw [Request.toJson] at read ⊢
  rw [Request.parse, parseShaped?_compact (by simp), read]
  refine Decoder.record3_eq_ok distinct (.listed (.head _) (Decoder.word64_nat wide))
    (.listed (.tail _ (.head _)) rfl) (.listed (.tail _ (.tail _ (.head _))) ?_)
  exact congrArg Except.ok (settled_settled _)

end Texts

/-! ## Responses -/

theorem ServiceError.decode_toJson (error : ServiceError) :
    ServiceError.decode error.toJson = .ok error := by
  have distinct :
      Distinct [("code", .string error.code.word), ("message", .string error.message)] := by
    simp [Distinct]
  refine Decoder.record2_eq_ok distinct (.listed (.head _) ?_) (.listed (.tail _ (.head _)) rfl)
  simp only [Field.required, Decoder.word, ServiceErrorCode.ofWord?_word]
  rfl

theorem ServiceError.settled_toJson (error : ServiceError) :
    error.toJson.settled = error.toJson := by
  have ordered : Ordered [("code", .string error.code.word), ("message", .string error.message)] :=
    List.pairwise_pair.mpr (show "code" < "message" by decide)
  refine congrArg Json.object (ordered.settledMembers_eq ?_)
  simp only [List.forall_mem_cons, List.not_mem_nil, false_implies, implies_true, and_true]
  exact ⟨rfl, rfl⟩

namespace Response

/-- A response without a result in the place of the result `null`. -/
def trimmed (response : Response) : Response :=
  { response with result := match response.result with
      | some .null => none
      | result => result }

theorem outcome_trimmed (response : Response) : response.trimmed.outcome = response.outcome := by
  obtain ⟨id, result, error⟩ := response
  cases error with
  | some error => rfl
  | none =>
    cases result with
    | none => rfl
    | some result => cases result <;> rfl

/-- What the parts of a response fit: the number a 64-bit word, and the result is a value of
messages. -/
structure Fits (response : Response) : Prop where
  id : response.id < Nat.pow 2 64
  result : ∀ value, response.result = some value → value.IsValue

theorem fits_success {id : Nat} (wide : id < Nat.pow 2 64) {value : Json}
    (isValue : value.IsValue) : (success id value).Fits :=
  ⟨wide, fun _ same => Option.some.inj same ▸ isValue⟩

section Members

variable {response : Response} {members : List (String × Json)}

/-- A response is read off members that carry its parts. -/
theorem decode_eq_ok (wide : response.id < Nat.pow 2 64) (distinct : Distinct members)
    (id : ("id", .nat response.id) ∈ members)
    (result : ∀ own, ("result", own) ∈ members ↔ some own = response.result)
    (settled : ∀ value, response.result = some value → value.settled = value)
    (error : ∀ own, ("error", own) ∈ members ↔
      some own = response.error.map ServiceError.toJson) :
    decode (.object members) = .ok response.trimmed := by
  have holdsResult : Field.Holds ⟨"result", .rawNullable, some none⟩ members
      response.trimmed.result := by
    cases answer : response.result with
    | none =>
      refine .absent (fun found listed => ?_) (by simp [trimmed, answer])
      cases answer ▸ (result found).mp listed
    | some value =>
      refine .listed ((result value).mpr answer.symm) ?_
      by_cases null : value = .null
      · simp only [trimmed, answer, null]
        rfl
      · have kept : response.trimmed.result = some value := by simp [trimmed, answer, null]
        rw [kept]
        exact Decoder.nullable_of_ne null (congrArg Except.ok (settled value answer))
  have holdsError : (Field.optional "error" ServiceError.decode).Holds members response.error := by
    cases failure : response.error with
    | none =>
      refine .absent (fun found listed => ?_) rfl
      cases failure ▸ (error found).mp listed
    | some reason =>
      refine .listed ((error reason.toJson).mpr (by rw [failure]; rfl)) ?_
      exact Decoder.nullable_of_ne (by simp [ServiceError.toJson])
        (ServiceError.decode_toJson reason)
  exact Decoder.record3_eq_ok distinct (.listed id (Decoder.word64_nat wide)) holdsResult holdsError

/-- The members of a response as a message. -/
def written (response : Response) : List (String × Json) :=
  ("id", .nat response.id) :: (optionalMember "result" response.result ++
    optionalMember "error" (response.error.map ServiceError.toJson))

theorem names_written (response : Response) :
    (response.written.map Prod.fst).Sublist ["id", "result", "error"] := by
  rw [written, List.map_cons, List.map_append]
  exact ((Operation.names_optionalMember ..).append (Operation.names_optionalMember ..)).cons_cons _

theorem distinct_written (response : Response) : Distinct response.written :=
  List.Nodup.sublist response.names_written (by decide)

theorem mem_written_result {own : Json} :
    ("result", own) ∈ response.written ↔ some own = response.result := by
  simp [written, Operation.mem_optionalMember]

theorem mem_written_error {own : Json} :
    ("error", own) ∈ response.written ↔ some own = response.error.map ServiceError.toJson := by
  simp [written, Operation.mem_optionalMember]

end Members

/-- A response is read off its own members. -/
theorem decode_toJson {response : Response} (wide : response.id < Nat.pow 2 64)
    (settled : ∀ value, response.result = some value → value.settled = value) :
    decode response.toJson = .ok response.trimmed :=
  decode_eq_ok wide response.distinct_written List.mem_cons_self (fun _ => mem_written_result)
    settled (fun _ => mem_written_error)

section Settled

variable {response : Response} {own : Json}

/-- A settled result is written as it is. -/
theorem mem_settled_result
    (settled : ∀ value, response.result = some value → value.settled = value) :
    ("result", own) ∈ settledMembers response.written ↔ some own = response.result := by
  refine response.distinct_written.mem_settledMembers_iff.trans ⟨?_, fun answer => ?_⟩
  · rintro ⟨value, listed, rfl⟩
    have answer := mem_written_result.mp listed
    rw [settled value answer.symm, answer]
  · exact ⟨own, mem_written_result.mpr answer, (settled own answer.symm).symm⟩

theorem mem_settled_error : ("error", own) ∈ settledMembers response.written ↔
    some own = response.error.map ServiceError.toJson := by
  refine response.distinct_written.mem_settledMembers_iff.trans ⟨?_, fun failure => ?_⟩
  · rintro ⟨value, listed, rfl⟩
    have failure := mem_written_error.mp listed
    obtain ⟨reason, -, rfl⟩ := Option.map_eq_some_iff.mp failure.symm
    rw [ServiceError.settled_toJson, failure]
  · obtain ⟨reason, -, rfl⟩ := Option.map_eq_some_iff.mp failure.symm
    exact ⟨_, mem_written_error.mpr failure, reason.settled_toJson.symm⟩

/-- A response is read off the value made of it, whose members are in the order of their names. -/
theorem decode_settled (fits : response.Fits) :
    decode response.toJson.settled = .ok response.trimmed := by
  have settled (value : Json) (answer : response.result = some value) : value.settled = value :=
    (fits.result value answer).settled_eq
  have id : ("id", .nat response.id) ∈ settledMembers response.written :=
    response.distinct_written.mem_settledMembers_iff.mpr ⟨_, List.mem_cons_self, rfl⟩
  exact decode_eq_ok fits.id (ordered_settledMembers response.written).distinct id
    (fun _ => mem_settled_result settled) settled (fun _ => mem_settled_error)

end Settled

/-! ## Responses as text -/

/-- What the text of a response says: the result is what its own text is read as. -/
def received (response : Response) : Option Response :=
  match response.result with
  | none => some response
  | some value => (reread 126 value).map fun read => { response with result := some read }

theorem reread_toJson {response : Response} (wide : response.id < Nat.pow 2 64) :
    reread maxDepth response.toJson = response.received.map toJson := by
  obtain ⟨id, result, error⟩ := response
  have number : reread 126 (.nat id) = some (.nat id) := reread_nat wide
  have reason (error : ServiceError) : reread 126 error.toJson = some error.toJson := rfl
  rw [show maxDepth = 126 + 1 from rfl]
  cases result with
  | none =>
    cases error <;>
      simp [toJson, received, reread, rereadMembers, optionalMember, number, reason]
  | some value =>
    cases found : reread 126 value <;> cases error <;>
      simp [toJson, received, reread, rereadMembers, optionalMember, number, reason, found]

/-- The number of a response is received as it is, and its result is settled. -/
theorem of_received {response read : Response} (fits : response.Fits)
    (said : response.received = some read) :
    read.id = response.id ∧ ∀ value, read.result = some value → value.settled = value := by
  obtain ⟨id, result, error⟩ := response
  cases result with
  | none =>
    cases said
    exact ⟨rfl, nofun⟩
  | some value =>
    obtain ⟨found, here, rfl⟩ := Option.map_eq_some_iff.mp said
    refine ⟨rfl, fun _ same => ?_⟩
    cases same
    exact (fits.result value rfl).settled_reread here

/-- The text of a response is read as what it says. -/
theorem parse_compact {response : Response} (fits : response.Fits) :
    parse response.toJson.compact =
      response.received.elim (.error .mismatch) fun read => .ok read.trimmed := by
  have known : ∀ member ∈ response.written, member.1 ∈ ["id", "result", "error"] :=
    fun member listed => response.names_written.subset (List.mem_map_of_mem listed)
  have text : Json.parseShaped? (.record ["id", "result", "error"]) response.toJson.compact =
      response.received.map toJson :=
    (parseShaped?_compact known).trans (reread_toJson fits.id)
  rw [parse, text]
  cases said : response.received with
  | none => rfl
  | some read =>
    obtain ⟨same, settled⟩ := of_received fits said
    exact decode_toJson (same ▸ fits.id) settled

/-- The result of a response is not nested too deep for the reader, and its numbers can be read: as
themselves if the result is the answer, and as any numbers if the answer is an error. -/
def Legible (response : Response) : Prop :=
  ∀ value, response.result = some value → value.nesting < maxDepth ∧
    ∀ x ∈ value.reals, if response.error.isSome then IsReadable x else ReadsBack x

/-- A response that is received answers as it did exactly when it is legible. -/
theorem received_iff {response : Response} (fits : response.Fits) :
    (∃ read, response.received = some read ∧ read.outcome = response.outcome) ↔
      response.Legible := by
  obtain ⟨id, result, error⟩ := response
  cases result with
  | none => exact iff_of_true ⟨_, rfl, rfl⟩ nofun
  | some value =>
    have isValue := fits.result value rfl
    have legible : Legible ⟨id, some value, error⟩ ↔ value.nesting ≤ 126 ∧
        ∀ x ∈ value.reals, if error.isSome then IsReadable x else ReadsBack x := by
      simp [Legible, maxDepth, Nat.lt_succ_iff]
    rw [legible]
    cases error with
    | some error =>
      simp only [Option.isSome_some, if_true]
      rw [← isSome_reread_iff isValue]
      simp [received, outcome, Option.isSome_iff_exists]
    | none =>
      simp only [Option.isSome_none, Bool.false_eq_true, if_false]
      rw [← reread_eq_self_iff isValue]
      simp [received, outcome]

/-- What is read off the text of a response answers as the response does exactly when the response
is legible. -/
theorem parse_iff {response : Response} (fits : response.Fits) :
    (∃ read, parse response.toJson.compact = .ok read ∧ read.id = response.id ∧
      read.outcome = response.outcome) ↔ response.Legible := by
  rw [← received_iff fits, parse_compact fits]
  constructor
  · rintro ⟨read, found, -, same⟩
    cases said : response.received with
    | none => exact absurd (said ▸ found) nofun
    | some heard =>
      rw [said] at found
      cases found
      exact ⟨heard, rfl, (outcome_trimmed heard).symm.trans same⟩
  · rintro ⟨heard, said, same⟩
    refine ⟨heard.trimmed, by rw [said]; rfl, (of_received fits said).1, ?_⟩
    rw [outcome_trimmed, same]

end Response

/-- Operations survive the boundary: the text of a request is read back as a request with its
identifier that asks for the operation. So do the identifiers and the answers of responses that are
passed on as values, and of those that are passed on as text exactly if they are legible. -/
theorem messages_survive_boundary :
    (∀ (operation : Operation) (id : Nat), operation.Fits → id < Nat.pow 2 64 →
      ∃ request, Request.parse (operation.toRequest id).toJson.compact = .ok request ∧
        request.id = id ∧ Operation.ofRequest request = .ok operation) ∧
    ∀ response : Response, response.Fits →
      (∃ read, Response.decode response.toJson.settled = .ok read ∧ read.id = response.id ∧
        read.outcome = response.outcome) ∧
      ((∃ read, Response.parse response.toJson.compact = .ok read ∧ read.id = response.id ∧
        read.outcome = response.outcome) ↔ response.Legible) := by
  refine ⟨fun operation id fits wide => ?_, fun response fits => ⟨?_, Response.parse_iff fits⟩⟩
  · exact ⟨_, Operation.parse_toRequest fits wide, rfl, Operation.ofRequest_toRequest fits id⟩
  · exact ⟨_, Response.decode_settled fits, rfl, Response.outcome_trimmed response⟩

theorem messages_survive_boundary_callable :
    (∃ request, Request.parse
        ((Operation.callable ⟨none, some "!$a = 1"⟩ "$f").toRequest 7).toJson.compact =
          .ok request ∧
      request.id = 7 ∧
      Operation.ofRequest request = .ok (.callable ⟨none, some "!$a = 1"⟩ "$f")) ∧
    ∃ read, Response.parse (Response.success 7 (.array [.string "$f", .null])).toJson.compact =
        .ok read ∧
      read.id = 7 ∧ read.outcome = .ok (.array [.string "$f", .null]) := by
  have fits : (Response.success 7 (.array [.string "$f", .null])).Fits :=
    Response.fits_success (by decide)
      (.array (List.forall_mem_cons.mpr ⟨.string _, List.forall_mem_singleton.mpr .null⟩))
  have legible : (Response.success 7 (.array [.string "$f", .null])).Legible := by
    intro value same
    cases same
    exact ⟨by decide, nofun⟩
  exact ⟨messages_survive_boundary.1 _ 7 trivial (by decide),
    (messages_survive_boundary.2 _ fits).2.mpr legible⟩

/-- The number nearest to `7.487e-240`. -/
def Binary64.unstable : Binary64 :=
  .finite false 7026097312157599 (-847)

theorem Json.reread_unstable :
    reread 126 (.real .unstable) = some (.real (.finite false 7026097312157598 (-847))) := by
  have written : Numeral.ofFinite false 7026097312157599 (-847) =
      ⟨false, ['7'], some ['4', '8', '7'], some (true, ['2', '4', '0'])⟩ := by
    decide +kernel
  have parts : Numeral.parts ⟨false, ['7'], some ['4', '8', '7'], some (true, ['2', '4', '0'])⟩ =
      (7487, -243) := by
    decide +kernel
  have scaled : Numeral.scaled? (.ofRatio false 7487 1) (-243) =
      some (.finite false 7026097312157598 (-847)) := by
    decide +kernel
  rw [Binary64.unstable, reread, written, Numeral.value?, parts]
  simp [scaled]

/-- Arrays in arrays, and `null` in the innermost. -/
def Json.nested : Nat → Json
  | 0 => .null
  | depth + 1 => .array [nested depth]

theorem Json.isValue_nested (depth : Nat) : (nested depth).IsValue := by
  induction depth with
  | zero => exact .null
  | succ depth ih => exact .array (List.forall_mem_singleton.mpr ih)

theorem Json.nesting_nested (depth : Nat) : (nested depth).nesting = depth := by
  induction depth with
  | zero => rfl
  | succ depth ih => simp [nested, nesting, nestingAll, ih]

/-- Not every answer is kept by the text of a response: a number may be read as the one below it,
and a result that is nested too deep is refused. -/
theorem answers_changed_by_text :
    ((Response.success 1 (.real .unstable)).Fits ∧
      ∃ read, Response.parse (Response.success 1 (.real .unstable)).toJson.compact = .ok read ∧
        read.outcome ≠ (Response.success 1 (.real .unstable)).outcome) ∧
    (Response.success 1 (.nested 127)).Fits ∧
      Response.parse (Response.success 1 (.nested 127)).toJson.compact = .error .mismatch := by
  have number : (Response.success 1 (.real .unstable)).Fits :=
    Response.fits_success (by decide) (.real ..)
  have deep : (Response.success 1 (.nested 127)).Fits :=
    Response.fits_success (by decide) (isValue_nested 127)
  refine ⟨⟨number, .success 1 (.real (.finite false 7026097312157598 (-847))), ?_, ?_⟩, deep, ?_⟩
  · rw [Response.parse_compact number]
    simp only [Response.received, Response.success, reread_unstable]
    rfl
  · simp [Response.outcome, Response.success, Binary64.unstable]
  · have refused : reread 126 (.nested 127) = none := by
      rw [← Option.not_isSome_iff_eq_none, isSome_reread_iff (isValue_nested 127), nesting_nested]
      exact fun readable => absurd readable.1 (by decide)
    rw [Response.parse_compact deep]
    simp only [Response.received, Response.success, refused]
    rfl

end DiagramAssist
