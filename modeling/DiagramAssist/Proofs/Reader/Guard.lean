import DiagramAssist.Proofs.Reader.Decline

/-! # Readers that follow a test

Whether the opening of a directive is read depends only on the text in front of the cursor. A test
says so without columns and values: it takes off a text what the reader takes, or refuses the text
where the reader declines (`Reader.Follows`). A production that follows a test and commits behind it
declines exactly the texts that the test refuses (`Reader.Guarded`).
-/

namespace DiagramAssist

namespace Text

def afterBlanks (text : List Char) : List Char :=
  text.dropWhile isSpace

/-- What is left behind leading blanks, of which there is at least one. -/
def afterBlanks1 (text : List Char) : Option (List Char) :=
  if text.head?.any isSpace then some (afterBlanks text) else none

def afterLiteral (word : String) (text : List Char) : Option (List Char) :=
  if word.toList.isPrefixOf text then some (text.drop word.toList.length) else none

/-- What is left behind a word that is not the beginning of a longer name. -/
def afterWord (word : String) (text : List Char) : Option (List Char) :=
  (afterLiteral word text).filter fun rest => !rest.head?.any Reader.isNameChar

theorem afterWord_append {word : String} {rest : List Char}
    (ends : rest.head?.any Reader.isNameChar = false) :
    afterWord word (word.toList ++ rest) = some rest := by
  simp [afterWord, afterLiteral, ends]

def afterChar (c : Char) : List Char → Option (List Char)
  | first :: rest => if first = c then some rest else none
  | [] => none

/-- What is left behind a variable. -/
def afterVariable (text : List Char) : Option (List Char) :=
  (afterChar '$' text).bind fun rest =>
    if rest.head?.any Reader.isNameChar then some (rest.dropWhile Reader.isNameChar) else none

/-- What is left behind the `!` of a directive, the first character that is no blank. -/
def afterMark (text : List Char) : Option (List Char) :=
  afterChar '!' (afterBlanks text)

end Text

namespace Reader

open Text

variable {α β : Type}

/-- The reader takes what the test takes, and declines what the test refuses. -/
structure Follows (reader : Reader α) (test : List Char → Option (List Char)) : Prop where
  takes : ∀ (cursor : Cursor) (rest : List Char), test cursor.rest = some rest →
    ∃ value column, reader cursor = .read value ⟨column, rest⟩
  refuses : ∀ cursor : Cursor, test cursor.rest = none → reader.Declines cursor

/-- The reader declines exactly what the test refuses. -/
def Guarded (reader : Reader α) (test : List Char → Bool) : Prop :=
  ∀ cursor : Cursor, reader.Declines cursor ↔ test cursor.rest = false

section Combinators

variable {reader : Reader α} {next : α → Reader β} {test more : List Char → Option (List Char)}

/-- A reader that never declines and leaves what the function gives. -/
theorem follows_of_read {left : List Char → List Char}
    (read : ∀ cursor, ∃ value column, reader cursor = .read value ⟨column, left cursor.rest⟩) :
    reader.Follows fun text => some (left text) where
  takes cursor _ tested := Option.some.inj tested ▸ read cursor
  refuses _ tested := nomatch tested

theorem follows_pure (value : α) : (pure value : Reader α).Follows some :=
  follows_of_read fun cursor => ⟨value, cursor.column, rfl⟩

theorem Follows.bind (first : reader.Follows test) (second : ∀ value, (next value).Follows more) :
    (reader >>= next).Follows fun text => (test text).bind more where
  takes cursor rest tested := by
    obtain ⟨middle, tested, behind⟩ := Option.bind_eq_some_iff.mp tested
    obtain ⟨value, column, read⟩ := first.takes cursor middle tested
    obtain ⟨found, stop, later⟩ := (second value).takes ⟨column, middle⟩ rest behind
    exact ⟨found, stop, (bind_of_read read).trans later⟩
  refuses cursor tested := by
    rw [declines_bind]
    cases head : test cursor.rest with
    | none => exact .inl (first.refuses cursor head)
    | some middle =>
      obtain ⟨value, column, read⟩ := first.takes cursor middle head
      rw [head, Option.bind_some] at tested
      exact .inr ⟨value, _, read, (second value).refuses ⟨column, middle⟩ tested⟩

/-- A value that is given once the text has been taken. -/
theorem Follows.value (follows : reader.Follows test) (value : β) :
    (reader >>= fun _ => pure value).Follows test := by
  have taken := follows.bind fun _ => follows_pure value
  simpa only [Option.bind_fun_some] using taken

theorem Follows.orElse (first : reader.Follows test) {second : Reader α}
    (other : second.Follows more) :
    (orElse reader second).Follows fun text => (test text).or (more text) where
  takes cursor rest tested := by
    rcases Option.or_eq_some_iff.mp tested with tested | ⟨refused, tested⟩
    · obtain ⟨value, column, read⟩ := first.takes cursor rest tested
      exact ⟨value, column, orElse_of_read read⟩
    · obtain ⟨value, column, read⟩ := other.takes cursor rest tested
      exact ⟨value, column, (orElse_of_declines (first.refuses cursor refused)).trans read⟩
  refuses cursor tested := by
    obtain ⟨refused, tested⟩ := Option.or_eq_none_iff.mp tested
    exact declines_orElse.mpr ⟨first.refuses cursor refused, other.refuses cursor tested⟩

/-- A choice follows the first of the tests that takes something. -/
theorem follows_choose {γ : Type} {readers : γ → Reader α}
    {tests : γ → List Char → Option (List Char)}
    (follows : ∀ item, (readers item).Follows (tests item)) (items : List γ) :
    (choose (items.map readers)).Follows fun text => items.findSome? (tests · text) := by
  induction items with
  | nil => exact ⟨nofun, fun cursor _ => declines_reject⟩
  | cons item rest ih =>
    cases rest with
    | nil =>
      simp only [List.findSome?_singleton]
      exact follows item
    | cons other rest =>
      have both := (follows item).orElse ih
      have tested (text : List Char) : (item :: other :: rest).findSome? (tests · text) =
          (tests item text).or ((other :: rest).findSome? (tests · text)) := by
        rw [List.findSome?_cons]
        cases tests item text <;> rfl
      simp only [tested]
      exact both

theorem Follows.optional (follows : reader.Follows test) :
    (optional reader).Follows fun text => some ((test text).getD text) := by
  refine follows_of_read fun cursor => ?_
  cases tested : test cursor.rest with
  | none => exact ⟨none, cursor.column, optional_of_declines (follows.refuses cursor tested)⟩
  | some rest =>
    obtain ⟨value, column, read⟩ := follows.takes cursor rest tested
    exact ⟨some value, column, optional_of_read read⟩

/-- A reader that follows a test, in front of one that is guarded by another. -/
theorem Follows.guarded (first : reader.Follows test) {guard : List Char → Bool}
    (second : ∀ value, (next value).Guarded guard) :
    (reader >>= next).Guarded fun text => (test text).any guard := by
  intro cursor
  change _ ↔ (test cursor.rest).any guard = false
  rw [declines_bind]
  cases tested : test cursor.rest with
  | none =>
    simp only [Option.any_none, iff_true]
    exact .inl (first.refuses cursor tested)
  | some rest =>
    obtain ⟨value, column, read⟩ := first.takes cursor rest tested
    have tail := second value ⟨column, rest⟩
    simp only [not_declines_of_read read, read, false_or, Outcome.read.injEq, Option.any_some]
    constructor
    · rintro ⟨_, _, ⟨rfl, rfl⟩, declines⟩
      exact tail.mp declines
    · intro refused
      exact ⟨value, _, ⟨rfl, rfl⟩, tail.mpr refused⟩

theorem Guarded.congr {guard other : List Char → Bool} (guarded : reader.Guarded guard)
    (same : ∀ text, guard text = other text) : reader.Guarded other :=
  funext same ▸ guarded

/-- A reader that commits is guarded by nothing. -/
theorem guarded_of_never (never : ∀ cursor, ¬reader.Declines cursor) :
    reader.Guarded fun _ => true := by
  intro cursor
  simp only [never cursor, Bool.true_eq_false]

end Combinators

section Words

theorem follows_column : column.Follows some :=
  follows_of_read fun cursor => ⟨cursor.column, cursor.column, rfl⟩

theorem follows_spaces : spaces.Follows fun text => some (afterBlanks text) :=
  follows_of_read fun _ => ⟨(), _, rfl⟩

/-- A run of characters that must not be empty. -/
theorem follows_takeWhile1 (accepts : Char → Bool) :
    (takeWhile1 accepts).Follows fun text =>
      if text.head?.any accepts then some (text.dropWhile accepts) else none where
  takes cursor rest tested := by
    simp only [Option.ite_none_right_eq_some, Option.some.injEq] at tested
    obtain ⟨present, rfl⟩ := tested
    have some : (cursor.rest.takeWhile accepts).isEmpty = false := by
      cases text : cursor.rest with
      | nil => simp [text] at present
      | cons c rest =>
        rw [text, List.head?_cons, Option.any_some] at present
        simp [present]
    exact ⟨_, _, by simp only [takeWhile1, some, Bool.false_eq_true, ↓reduceIte]; rfl⟩
  refuses cursor tested := by
    rw [declines_takeWhile1, Bool.eq_false_iff]
    intro present
    simp only [present, ↓reduceIte, reduceCtorEq] at tested

theorem follows_spaces1 : spaces1.Follows afterBlanks1 :=
  (follows_takeWhile1 isSpace).value ()

theorem follows_literal (word : String) : (literal word).Follows (afterLiteral word) where
  takes cursor rest tested := by
    simp only [afterLiteral, Option.ite_none_right_eq_some, Option.some.injEq] at tested
    obtain ⟨starts, rfl⟩ := tested
    exact ⟨(), _, by simp only [literal, starts, ↓reduceIte]; rfl⟩
  refuses cursor tested := by
    rw [declines_literal, Bool.eq_false_iff]
    intro starts
    simp only [afterLiteral, starts, ↓reduceIte, reduceCtorEq] at tested

theorem follows_notFollowedBy (rejects : Char → Bool) :
    (notFollowedBy rejects).Follows fun text =>
      if text.head?.any rejects then none else some text where
  takes cursor rest tested := by
    simp only [Option.ite_none_left_eq_some, Option.some.injEq] at tested
    obtain ⟨free, rfl⟩ := tested
    refine ⟨(), cursor.column, ?_⟩
    rcases cursor with ⟨column, _ | ⟨c, rest⟩⟩
    · rfl
    · simp only [List.head?_cons, Option.any_some] at free
      simp only [notFollowedBy, free, Bool.false_eq_true, ↓reduceIte]
  refuses cursor tested := by
    simp only [ite_eq_left_iff, reduceCtorEq, imp_false, Decidable.not_not] at tested
    exact declines_notFollowedBy.mpr tested

theorem follows_keyword (word : String) : (keyword word).Follows (afterWord word) := by
  have both := (follows_literal word).bind fun _ => follows_notFollowedBy isNameChar
  have tested (text : List Char) : afterWord word text = (afterLiteral word text).bind
      fun rest => if rest.head?.any isNameChar then none else some rest := by
    rw [afterWord]
    cases afterLiteral word text with
    | none => rfl
    | some rest =>
      rw [Option.filter_some, Option.bind_some]
      cases rest.head?.any isNameChar <;> rfl
  rw [funext tested]
  exact both

theorem follows_char (c : Char) : (char c).Follows (afterChar c) where
  takes cursor rest tested := by
    rcases cursor with ⟨column, _ | ⟨first, left⟩⟩
    · cases tested
    · simp only [afterChar, Option.ite_none_right_eq_some, Option.some.injEq] at tested
      obtain ⟨rfl, rfl⟩ := tested
      exact ⟨(), column + Text.byteLength [first], by
        simp only [char, one, bind_apply, beq_self_eq_true, ↓reduceIte]; rfl⟩
  refuses cursor tested := by
    rw [declines_char]
    rcases cursor with ⟨column, _ | ⟨first, left⟩⟩
    · simp
    · simp only [afterChar, ite_eq_right_iff, reduceCtorEq, imp_false] at tested
      simpa using tested

theorem follows_variableName : variableName.Follows afterVariable := by
  have name := follows_column.bind fun start => (follows_char '$').bind fun _ =>
    (follows_takeWhile1 isNameChar).bind fun name =>
      follows_pure (located ('$' :: name) start)
  simp only [Option.bind_fun_some, Option.bind_some] at name
  exact name

theorem follows_directiveStart : directiveStart.Follows afterMark := by
  have mark := follows_spaces.bind fun _ => follows_column.bind fun start =>
    (follows_char '!').value start
  simp only [Option.bind_some] at mark
  exact mark

/-- A directive starts behind the blanks, and what is left stands behind its mark. -/
theorem mark_of_directiveStart {cursor later : Cursor} {start : Nat}
    (read : directiveStart cursor = .read start later) :
    start = cursor.column + byteLength (cursor.rest.takeWhile isSpace) ∧
      afterBlanks cursor.rest = '!' :: later.rest := by
  simp only [directiveStart, bind_eq_read, column_eq_read, pure_eq_read] at read
  obtain ⟨_, middle, blank, _, _, ⟨rfl, rfl⟩, _, behind, mark, rfl, rfl⟩ := read
  have skipped : cursor.advance (cursor.rest.takeWhile isSpace) (afterBlanks cursor.rest) =
      middle := (Outcome.read.inj blank).2
  subst skipped
  exact ⟨rfl, (passes_of_char mark).rest⟩

end Words

end Reader

end DiagramAssist
