import DiagramAssist.Proofs.Message.Boundary

/-! # Bounds on what is read

The numbers of positions that are read fit a 32-bit word, and those of requests a 64-bit word,
whatever the text was: what has been read can be written and read back.
-/

namespace DiagramAssist

theorem exists_of_bind_eq_ok {ε α β : Type} {first : Except ε α} {next : α → Except ε β}
    {result : β} (went : (first >>= next) = .ok result) :
    ∃ value, first = .ok value ∧ next value = .ok result := by
  cases first with
  | error => cases went
  | ok value => exact ⟨value, rfl, went⟩

/-! ## Records -/

namespace Field

variable {α : Type} {field : Field α} {value : α}

/-- A value that the field can have: one that is read, or the default. -/
inductive Yields (field : Field α) (value : α) : Prop where
  | read {found : Json} (reads : field.decode found = .ok value)
  | absent (default : field.absent = some value)

theorem yields_of_get {members : List (String × Json)} (read : field.get members = .ok value) :
    field.Yields value := by
  unfold get at read
  split at read
  · exact .read read
  · next default =>
    cases read
    exact .absent default
  · cases read

theorem yields_of_getAt {elements : List Json} {index : Nat}
    (read : field.getAt elements index = .ok value) : field.Yields value := by
  unfold getAt at read
  split at read
  · exact .read read
  · next default =>
    cases read
    exact .absent default
  · cases read

end Field

namespace Decoder

variable {α β γ δ : Type} {found : Json}

/-- The parts of a record are values of its fields. -/
theorem exists_of_record2 {make : α → β → γ} {a : Field α} {b : Field β} {value : γ}
    (read : record2 make a b found = .ok value) :
    ∃ first second, a.Yields first ∧ b.Yields second ∧ make first second = value := by
  cases found with
  | object members =>
    obtain ⟨-, -, read⟩ := exists_of_bind_eq_ok read
    obtain ⟨first, one, read⟩ := exists_of_bind_eq_ok read
    obtain ⟨second, two, same⟩ := exists_of_bind_eq_ok read
    cases same
    exact ⟨first, second, Field.yields_of_get one, Field.yields_of_get two, rfl⟩
  | array elements =>
    obtain ⟨first, one, read⟩ := exists_of_bind_eq_ok read
    obtain ⟨second, two, read⟩ := exists_of_bind_eq_ok read
    obtain ⟨-, -, same⟩ := exists_of_bind_eq_ok read
    cases same
    exact ⟨first, second, Field.yields_of_getAt one, Field.yields_of_getAt two, rfl⟩
  | _ => cases read

theorem exists_of_record3 {make : α → β → γ → δ} {a : Field α} {b : Field β} {c : Field γ}
    {value : δ} (read : record3 make a b c found = .ok value) :
    ∃ first second third, a.Yields first ∧ b.Yields second ∧ c.Yields third ∧
      make first second third = value := by
  cases found with
  | object members =>
    obtain ⟨-, -, read⟩ := exists_of_bind_eq_ok read
    obtain ⟨first, one, read⟩ := exists_of_bind_eq_ok read
    obtain ⟨second, two, read⟩ := exists_of_bind_eq_ok read
    obtain ⟨third, three, same⟩ := exists_of_bind_eq_ok read
    cases same
    exact ⟨first, second, third, Field.yields_of_get one, Field.yields_of_get two,
      Field.yields_of_get three, rfl⟩
  | array elements =>
    obtain ⟨first, one, read⟩ := exists_of_bind_eq_ok read
    obtain ⟨second, two, read⟩ := exists_of_bind_eq_ok read
    obtain ⟨third, three, read⟩ := exists_of_bind_eq_ok read
    obtain ⟨-, -, same⟩ := exists_of_bind_eq_ok read
    cases same
    exact ⟨first, second, third, Field.yields_of_getAt one, Field.yields_of_getAt two,
      Field.yields_of_getAt three, rfl⟩
  | _ => cases read

theorem le_of_natUpTo {limit number : Nat} (read : natUpTo limit found = .ok number) :
    number ≤ limit := by
  unfold natUpTo at read
  split at read
  · split at read
    · next fits =>
      cases read
      exact (by simpa using fits : _ ∧ _).2
    · cases read
  · cases read

/-- A field that must be present and is a number has a number up to the limit. -/
theorem le_of_yields {name : String} {limit number : Nat}
    (yields : (Field.required name (natUpTo limit)).Yields number) : number ≤ limit := by
  cases yields with
  | read reads => exact le_of_natUpTo reads
  | absent default => cases default

end Decoder

/-! ## Requests -/

theorem Position.fits_of_decode {found : Json} {position : Position}
    (read : Position.decode found = .ok position) : position.Fits := by
  obtain ⟨line, character, one, two, rfl⟩ := Decoder.exists_of_record2 read
  exact ⟨Nat.lt_of_le_pred (by decide) (Decoder.le_of_yields one),
    Nat.lt_of_le_pred (by decide) (Decoder.le_of_yields two)⟩

theorem Position.fits_of_yields {name : String} {position : Position}
    (yields : (Field.required name Position.decode).Yields position) : position.Fits := by
  cases yields with
  | read reads => exact fits_of_decode reads
  | absent default => cases default

theorem Range.fits_of_decode {found : Json} {range : Range}
    (read : Range.decode found = .ok range) : range.Fits := by
  obtain ⟨start, stop, one, two, rfl⟩ := Decoder.exists_of_record2 read
  exact ⟨Position.fits_of_yields one, Position.fits_of_yields two⟩

namespace Operation

variable {request : Request} {operation : Operation} {params : Json}

theorem fits_of_rangeField {range : Range} (yields : rangeField.Yields range) : range.Fits := by
  cases yields with
  | read reads => exact Range.fits_of_decode reads
  | absent default =>
    cases default
    exact ⟨⟨by decide, by decide⟩, by decide, by decide⟩

theorem fits_of_decodeSuggestions (read : decodeSuggestions params = .ok operation) :
    operation.Fits := by
  obtain ⟨members, -, read⟩ := exists_of_bind_eq_ok read
  obtain ⟨-, -, read⟩ := exists_of_bind_eq_ok read
  obtain ⟨range, here, read⟩ := exists_of_bind_eq_ok read
  obtain ⟨filter, -, read⟩ := exists_of_bind_eq_ok read
  obtain ⟨document, -, same⟩ := exists_of_bind_eq_ok read
  cases same
  exact fits_of_rangeField (Field.yields_of_get here)

theorem fits_of_decodeArguments (read : decodeArguments params = .ok operation) :
    operation.Fits := by
  obtain ⟨members, -, read⟩ := exists_of_bind_eq_ok read
  obtain ⟨-, -, read⟩ := exists_of_bind_eq_ok read
  obtain ⟨name, -, read⟩ := exists_of_bind_eq_ok read
  obtain ⟨range, here, read⟩ := exists_of_bind_eq_ok read
  obtain ⟨document, -, same⟩ := exists_of_bind_eq_ok read
  cases same
  exact fits_of_rangeField (Field.yields_of_get here)

theorem fits_of_decodeCallable (read : decodeCallable params = .ok operation) :
    operation.Fits := by
  obtain ⟨members, -, read⟩ := exists_of_bind_eq_ok read
  obtain ⟨-, -, read⟩ := exists_of_bind_eq_ok read
  obtain ⟨name, -, read⟩ := exists_of_bind_eq_ok read
  obtain ⟨document, -, same⟩ := exists_of_bind_eq_ok read
  cases same
  trivial

theorem fits_of_decodeLibrary {make : String → Range → Operation}
    (about : ∀ start range, range.Fits → (make start range).Fits)
    (read : decodeLibrary make params = .ok operation) : operation.Fits := by
  obtain ⟨start, range, -, here, rfl⟩ := Decoder.exists_of_record2 read
  exact about start range (fits_of_rangeField here)

theorem fits_of_decoder? {name : String} {decode : Decoder Operation}
    (known : decoder? name = some decode) (read : decode params = .ok operation) :
    operation.Fits := by
  unfold decoder? at known
  split at known
  · cases known
    exact fits_of_decodeSuggestions read
  · split at known
    · cases known
      exact fits_of_decodeArguments read
    · split at known
      · cases known
        exact fits_of_decodeCallable read
      · split at known
        · cases known
          exact fits_of_decodeLibrary (fun _ _ => id) read
        · split at known
          · cases known
            exact fits_of_decodeLibrary (fun _ _ => id) read
          · cases known

/-- What a request asks for has positions that fit. -/
theorem fits_of_ofRequest (read : ofRequest request = .ok operation) : operation.Fits := by
  unfold ofRequest at read
  split at read
  · cases read
  · next known =>
    dsimp only at read
    split at read
    · next decoded =>
      cases read
      exact fits_of_decoder? known decoded
    · cases read

end Operation

/-- The number of a request that is read fits. -/
theorem Request.id_lt_of_parse {text : String} {request : Request}
    (read : Request.parse text = .ok request) : request.id < Nat.pow 2 64 := by
  unfold parse at read
  split at read
  · obtain ⟨id, operation, params, one, -, -, rfl⟩ := Decoder.exists_of_record3 read
    exact Nat.lt_of_le_pred (by decide) (Decoder.le_of_yields one)
  · cases read

end DiagramAssist
