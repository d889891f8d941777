import DiagramAssist.Proofs.Reader.Decline
import DiagramAssist.Proofs.Reader.Tracking

/-! # What a failure blames

The first fault and the first start among the clues of a failure say what is wrong and which
construct is blamed. Most readers say neither; the rest of a directive is blamed on the directive,
unless a string that is left open on the way has been blamed before. So every failure of a
production is either ordinary, which is to say not blamed on anything yet, or blamed on a construct
that stands in front of it (`Reader.Blames`), and the combinators keep it so.
-/

namespace DiagramAssist

def Clue.fault? : Clue → Option Fault
  | .fault found => some found
  | _ => none

def Clue.start? : Clue → Option Nat
  | .start column => some column
  | _ => none

namespace Text

/-- Nothing is left of the line. -/
def AtLineEnd (rest : List Char) : Prop :=
  ∀ c, rest.head? = some c → c = '\n' ∨ c = '\r'

/-- A quote and what follows it up to the end of its line. -/
structure IsOpenString (text rest : List Char) : Prop where
  opens : ∃ quote value, text = quote :: value ∧ (quote = '"' ∨ quote = '\'') ∧
    ∀ c ∈ value, c ≠ quote ∧ c ≠ '\n' ∧ c ≠ '\r'
  ends : AtLineEnd rest

end Text

/-- A fault with which a directive is charged when the rest of it cannot be read. -/
def Fault.IsOfDirective (fault : Fault) : Prop :=
  fault = .unexpectedToken ∨ fault = .missingName ∨ fault = .malformedInclude

/-- The fault fits a construct of which `text` has been read, in front of `rest`. -/
inductive Fault.Fits : Fault → (text rest : List Char) → Prop where
  | openString {text rest : List Char} (isOpen : Text.IsOpenString text rest) :
      Fits .unterminatedString text rest
  | directive {fault : Fault} {text rest : List Char} (charged : fault.IsOfDirective) :
      Fits fault ('!' :: text) rest

namespace Failure

/-- The first fault that the failure is charged with. -/
def fault? (failure : Failure) : Option Fault :=
  failure.clues.findSome? Clue.fault?

/-- The column of the construct that is blamed first. -/
def start? (failure : Failure) : Option Nat :=
  failure.clues.findSome? Clue.start?

/-- A construct behind the cursor is blamed, with a fault that fits it. -/
def IsBlamed (failure : Failure) (cursor : Cursor) : Prop :=
  ∃ before mark text fault, cursor.Passes before mark ∧ mark.Passes text failure.stopped ∧
    failure.start? = some mark.column ∧ failure.fault? = some fault ∧
    fault.Fits text failure.stopped.rest

/-- Nothing in particular is blamed. In a production that knows at which column its directive
starts, the failure lets other productions be tried, or the directive is blamed. -/
def IsOrdinary (failure : Failure) : (start : Option Nat) → Prop
  | none => failure.fault? = none ∧ failure.start? = none
  | some start => failure.committed = false ∨
      failure.start? = some start ∧ ∃ fault, failure.fault? = some fault ∧ fault.IsOfDirective

variable {failure : Failure} {start : Option Nat} {cursor middle : Cursor} {taken : List Char}

theorem isOrdinary_plain (cursor : Cursor) : IsOrdinary ⟨false, [], cursor⟩ start := by
  cases start with
  | none => exact ⟨rfl, rfl⟩
  | some start => exact .inl rfl

/-- What is blamed behind a later cursor stands behind an earlier one. -/
theorem IsBlamed.behind (blamed : failure.IsBlamed middle) (passes : cursor.Passes taken middle) :
    failure.IsBlamed cursor := by
  obtain ⟨before, mark, text, fault, lead, own, started, charged, fits⟩ := blamed
  exact ⟨taken ++ before, mark, text, fault, passes.trans lead, own, started, charged, fits⟩

/-- Further clues do not change what has been blamed. -/
theorem IsBlamed.withClue (blamed : failure.IsBlamed cursor) (clue : Clue) :
    IsBlamed { failure with clues := failure.clues ++ [clue] } cursor := by
  obtain ⟨before, mark, text, fault, lead, own, started, charged, fits⟩ := blamed
  refine ⟨before, mark, text, fault, lead, own, ?_, ?_, fits⟩
  · rw [start?, List.findSome?_append]
    exact congrArg (Option.or · _) started
  · rw [fault?, List.findSome?_append]
    exact congrArg (Option.or · _) charged

theorem IsBlamed.commit (blamed : failure.IsBlamed cursor) (committed : Bool) :
    IsBlamed { failure with committed } cursor :=
  blamed

end Failure

namespace Reader

variable {α β : Type} {start : Option Nat}

section Failures

variable {reader : Reader α} {cursor : Cursor} {failure : Failure}

/-- A sequence fails as its first step does, or as the step behind what that one reads. -/
theorem bind_eq_failed {next : α → Reader β} :
    (reader >>= next) cursor = .failed failure ↔ reader cursor = .failed failure ∨
      ∃ value middle, reader cursor = .read value middle ∧
        next value middle = .failed failure := by
  rw [bind_apply]
  cases reader cursor with
  | read value middle =>
    simp only [reduceCtorEq, Outcome.read.injEq, false_or]
    constructor
    · exact fun failed => ⟨value, middle, ⟨rfl, rfl⟩, failed⟩
    · rintro ⟨_, _, ⟨rfl, rfl⟩, failed⟩
      exact failed
  | failed other => simp

theorem withClue_eq_failed {clue : Clue} :
    withClue clue reader cursor = .failed failure ↔ ∃ inner, reader cursor = .failed inner ∧
      failure = { inner with clues := inner.clues ++ [clue] } := by
  simp only [withClue]
  cases reader cursor with
  | read value later => simp only [reduceCtorEq, false_and, exists_false]
  | failed inner => simp only [Outcome.failed.injEq, exists_eq_left', eq_comm]

theorem commit_eq_failed :
    commit reader cursor = .failed failure ↔ ∃ inner, reader cursor = .failed inner ∧
      failure = { inner with committed := true } := by
  simp only [commit]
  cases reader cursor with
  | read value later => simp only [reduceCtorEq, false_and, exists_false]
  | failed inner => simp only [Outcome.failed.injEq, exists_eq_left', eq_comm]

@[simp] theorem pure_ne_failed (value : α) : (pure value : Reader α) cursor ≠ .failed failure := by
  simp

@[simp] theorem column_ne_failed : column cursor ≠ .failed failure := by
  simp [column]

@[simp] theorem takeWhile_ne_failed (accepts : Char → Bool) :
    takeWhile accepts cursor ≠ .failed failure := by
  simp [takeWhile]

end Failures

/-- The reader keeps track of where it is, and its failures are ordinary ones or blame a construct
that they have in front of them. -/
structure Blames (start : Option Nat) (reader : Reader α) : Prop where
  tracks : Tracks reader
  blames : ∀ ⦃cursor failure⦄, reader cursor = .failed failure →
    failure.IsOrdinary start ∨ failure.IsBlamed cursor

namespace Blames

theorem of_plain {reader : Reader α} (tracks : Tracks reader) (plain : FailsPlainly reader) :
    Blames start reader where
  tracks := tracks
  blames cursor failure failed := by
    rw [plain failed]
    exact .inl (Failure.isOrdinary_plain cursor)

theorem bind {reader : Reader α} {next : α → Reader β} (first : Blames start reader)
    (second : ∀ value, Blames start (next value)) : Blames start (reader >>= next) where
  tracks := first.tracks.bind fun value => (second value).tracks
  blames cursor failure failed := by
    rcases bind_eq_failed.mp failed with failed | ⟨value, middle, read, failed⟩
    · exact first.blames failed
    · obtain ⟨taken, passes⟩ := first.tracks.passes read
      exact ((second value).blames failed).imp_right fun blamed => blamed.behind passes

end Blames

theorem blames_pure (value : α) : Blames start (pure value : Reader α) :=
  .of_plain (tracks_pure value) (by simp [FailsPlainly])

theorem blames_reject : Blames start (reject : Reader α) :=
  .of_plain tracks_reject fun _ _ failed => (Outcome.failed.inj failed).symm

theorem blames_column : Blames start column :=
  .of_plain tracks_column (by simp [FailsPlainly, column])

theorem blames_remaining : Blames start remaining :=
  .of_plain tracks_remaining (by simp [FailsPlainly, remaining])

namespace Blames

variable {reader : Reader α}

theorem map {f : α → β} (blames : Blames start reader) : Blames start (f <$> reader) :=
  blames.bind fun _ => blames_pure _

/-- To say what is expected blames nothing. -/
theorem expecting (blames : Blames none reader) (what : String) :
    Blames none (expecting what reader) where
  tracks := blames.tracks.expecting what
  blames cursor failure failed := by
    obtain ⟨inner, inside, rfl⟩ := withClue_eq_failed.mp failed
    refine (blames.blames inside).imp (fun ordinary => ⟨?_, ?_⟩) fun blamed => blamed.withClue _
    · rw [Failure.fault?, List.findSome?_append]
      exact congrArg (Option.or · _) ordinary.1
    · rw [Failure.start?, List.findSome?_append]
      exact congrArg (Option.or · _) ordinary.2

theorem commit (blames : Blames none reader) : Blames none (commit reader) where
  tracks := blames.tracks.commit
  blames cursor failure failed := by
    obtain ⟨inner, inside, rfl⟩ := commit_eq_failed.mp failed
    exact (blames.blames inside).imp id fun blamed => blamed.commit true

/-- The rest of a directive is blamed on the directive, unless something in it has been blamed. -/
theorem directiveRest {column : Nat} {fault : Fault} (blames : Blames none reader)
    (charged : fault.IsOfDirective) :
    Blames (some column) (directiveRest column fault reader) where
  tracks := blames.tracks.directiveRest column fault
  blames cursor failure failed := by
    obtain ⟨_, charged', rfl⟩ := withClue_eq_failed.mp failed
    obtain ⟨_, committed, rfl⟩ := withClue_eq_failed.mp charged'
    obtain ⟨inner, inside, rfl⟩ := commit_eq_failed.mp committed
    rcases blames.blames inside with ⟨unfaulted, unstarted⟩ | blamed
    · refine .inl (.inr ⟨?_, fault, ?_, charged⟩)
      · rw [Failure.start?, List.findSome?_append, List.findSome?_append]
        exact congrArg (fun found => (Option.or found _).or _) unstarted
      · rw [Failure.fault?, List.findSome?_append, List.findSome?_append]
        exact congrArg (fun found => (Option.or found _).or _) unfaulted
    · exact .inr (((blamed.commit true).withClue _).withClue _)

/-- What commits behind the mark of a directive blames the directive, or something in it. -/
theorem isBlamed {cursor mark behind : Cursor} {blanks text : List Char} {failure : Failure}
    (blames : Blames (some mark.column) reader) (lead : cursor.Passes blanks mark)
    (own : mark.Passes ('!' :: text) behind) (failed : reader behind = .failed failure)
    (committed : failure.committed = true) : failure.IsBlamed cursor := by
  rcases blames.blames failed with (uncommitted | ⟨started, fault, faulted, charged⟩) | blamed
  · rw [committed] at uncommitted
    cases uncommitted
  · obtain ⟨taken, stops⟩ := blames.tracks.stops failed
    exact ⟨blanks, mark, '!' :: (text ++ taken), fault, lead, own.trans stops, started, faulted,
      .directive charged⟩
  · exact blamed.behind (lead.trans own)

theorem orElse {other : Reader α} (blames : Blames start reader) (blames' : Blames start other) :
    Blames start (orElse reader other) where
  tracks := blames.tracks.orElse blames'.tracks
  blames cursor failure failed := by
    simp only [Reader.orElse] at failed
    cases outcome : reader cursor with
    | read value later =>
      rw [outcome] at failed
      cases failed
    | failed inner =>
      simp only [outcome] at failed
      split at failed
      · cases failed
        exact blames.blames outcome
      · exact blames'.blames failed

theorem optional (blames : Blames start reader) : Blames start (optional reader) where
  tracks := blames.tracks.optional
  blames cursor failure failed := by
    simp only [Reader.optional] at failed
    cases outcome : reader cursor with
    | read value later =>
      rw [outcome] at failed
      cases failed
    | failed inner =>
      simp only [outcome] at failed
      split at failed
      · cases failed
        exact blames.blames outcome
      · cases failed

end Blames

theorem blames_choose {readers : List (Reader α)}
    (each : ∀ reader ∈ readers, Blames start reader) : Blames start (choose readers) := by
  fun_induction choose readers with
  | case1 => exact blames_reject
  | case2 reader => exact each reader (List.mem_singleton_self reader)
  | case3 reader rest _ ih =>
    exact (each reader List.mem_cons_self).orElse
      (ih fun other member => each other (List.mem_cons_of_mem reader member))

section Characters

variable {accepts : Char → Bool}

theorem blames_takeWhile : Blames start (takeWhile accepts) :=
  .of_plain tracks_takeWhile (by simp [FailsPlainly, takeWhile])

theorem blames_takeWhile1 : Blames start (takeWhile1 accepts) :=
  .of_plain tracks_takeWhile1 failsPlainly_takeWhile1

theorem blames_one : Blames start (one accepts) :=
  .of_plain tracks_one failsPlainly_one

theorem blames_literal (text : String) : Blames start (literal text) :=
  .of_plain (tracks_literal text) (failsPlainly_literal text)

theorem blames_notFollowedBy {rejects : Char → Bool} : Blames start (notFollowedBy rejects) :=
  .of_plain tracks_notFollowedBy failsPlainly_notFollowedBy

theorem failsPlainly_char (c : Char) : FailsPlainly (char c) := by
  intro cursor failure failed
  simp only [char, bind_eq_failed, pure_ne_failed, and_false, exists_false, or_false] at failed
  exact failsPlainly_one failed

theorem blames_char (c : Char) : Blames start (char c) :=
  .of_plain (tracks_char c) (failsPlainly_char c)

end Characters

section Series

variable {separator : Reader Unit} {item : Reader α}

theorem blames_moreSeparated (apart : Blames start separator) (each : Blames start item)
    (bound : Nat) : Blames start (moreSeparated separator item bound) := by
  induction bound with
  | zero => exact blames_pure []
  | succ bound ih =>
    refine (apart.bind fun _ => each).optional.bind fun found => ?_
    cases found with
    | none => exact blames_pure []
    | some value => exact ih.bind fun rest => blames_pure _

theorem blames_separated (apart : Blames start separator) (each : Blames start item) :
    Blames start (separated separator item) := by
  refine each.optional.bind fun found => ?_
  cases found with
  | none => exact blames_pure []
  | some value =>
    exact blames_remaining.bind fun left =>
      (blames_moreSeparated apart each left.length).bind fun rest => blames_pure _

end Series

section Words

theorem blames_spaces : Blames start spaces :=
  blames_takeWhile.bind fun _ => blames_pure ()

theorem blames_spaces1 : Blames start spaces1 :=
  blames_takeWhile1.bind fun _ => blames_pure ()

theorem blames_keyword (word : String) : Blames start (keyword word) :=
  (blames_literal word).bind fun _ => blames_notFollowedBy

theorem blames_word (word : String) (value : α) :
    Blames start (do keyword word; return value) :=
  (blames_keyword word).bind fun _ => blames_pure value

/-- A line without the mark of a directive is left to other productions. -/
theorem uncommitted_of_directiveStart {cursor : Cursor} {failure : Failure}
    (failed : directiveStart cursor = .failed failure) : failure.committed = false := by
  simp only [directiveStart, spaces, bind_eq_failed, takeWhile_ne_failed, pure_ne_failed,
    column_ne_failed, and_false, exists_false, or_false, false_or] at failed
  obtain ⟨_, _, -, _, middle, -, failed⟩ := failed
  exact congrArg Failure.committed (failsPlainly_char '!' failed)

theorem blames_variableName : Blames start variableName :=
  blames_column.bind fun _ => (blames_char '$').bind fun _ => blames_takeWhile1.bind fun _ =>
    blames_pure _

theorem blames_bareName : Blames start bareName :=
  blames_column.bind fun _ => blames_one.bind fun _ => blames_takeWhile.bind fun _ => blames_pure _

theorem blames_anyName : Blames start anyName :=
  blames_variableName.orElse blames_bareName

/-- What stops a run of characters is not one of them. -/
theorem stops_of_takeWhile {accepts : Char → Bool} {cursor later : Cursor} {found : List Char}
    (read : takeWhile accepts cursor = .read found later) {c : Char}
    (next : later.rest.head? = some c) : accepts c = false := by
  simp only [takeWhile, Outcome.read.injEq] at read
  obtain ⟨-, rfl⟩ := read
  have stops := List.head?_dropWhile_not accepts cursor.rest
  simp only [Cursor.advance] at next
  rwa [next] at stops

/-- A string that is not closed is blamed itself, from its opening quote on. -/
theorem blames_stringLiteral : Blames start stringLiteral where
  tracks := tracks_stringLiteral
  blames cursor failure failed := by
    simp only [stringLiteral, bind_eq_failed, column_eq_read, column_ne_failed,
      takeWhile_ne_failed, pure_ne_failed, false_or, and_false, exists_false, or_false] at failed
    obtain ⟨_, _, ⟨rfl, rfl⟩, failed | ⟨quote, opened, opens, value, stopped, taken, failed⟩⟩ :=
      failed
    · rw [failsPlainly_one failed]
      exact .inl (Failure.isOrdinary_plain cursor)
    obtain ⟨quoted, isQuote⟩ := passes_of_one opens
    obtain ⟨passed, inside⟩ := passes_of_takeWhile taken
    cases unclosed : char quote stopped with
    | read _ later => simp [withClue, expecting, commit, unclosed] at failed
    | failed inner =>
      have open_ : (char quote).Declines stopped :=
        ⟨inner, unclosed, congrArg Failure.committed (failsPlainly_char quote unclosed)⟩
      rw [declines_char] at open_
      simp only [withClue, expecting, commit, unclosed, failsPlainly_char quote unclosed,
        Outcome.failed.injEq] at failed
      subst failed
      refine .inr ⟨[], cursor, quote :: value, .unterminatedString, cursor.passes_nil,
        quoted.trans passed, rfl, rfl, .openString ⟨⟨quote, value, rfl, ?_, ?_⟩, ?_⟩⟩
      · simpa using isQuote
      · simpa [and_assoc] using inside
      · intro c next
        have stops := stops_of_takeWhile taken next
        have different : c ≠ quote := by
          rintro rfl
          exact open_ next
        rw [Bool.not_eq_false'] at stops
        simpa [different] using stops

theorem blames_numberLiteral : Blames start numberLiteral :=
  blames_column.bind fun _ => (blames_char '-').optional.bind fun _ =>
    blames_takeWhile1.bind fun _ =>
      ((blames_char '.').bind fun _ => blames_takeWhile1).optional.bind fun _ =>
        blames_column.bind fun _ => blames_pure _

theorem blames_operator : Blames start operator := by
  refine blames_column.bind fun _ => .bind (blames_choose ?_) fun _ =>
    blames_column.bind fun _ => blames_pure _
  intro reader member
  obtain ⟨operator, _, rfl⟩ := List.mem_map.mp member
  exact (blames_literal _).bind fun _ => blames_pure operator

theorem blames_restOfLine : Blames start restOfLine :=
  blames_column.bind fun _ => blames_takeWhile.bind fun _ => blames_pure _

theorem blames_endOfStatement (completes : Bool) : Blames start (endOfStatement completes) := by
  refine blames_spaces.bind fun _ => blames_column.bind fun stop => ?_
  split
  · exact blames_notFollowedBy.bind fun _ => blames_pure stop
  · exact blames_reject

end Words

end Reader

end DiagramAssist
