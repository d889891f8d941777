import DiagramAssist.Proofs.Reader.Passage

/-! # Readers keep track of where they are

A reader moves forward over the text in front of it, whether it succeeds or fails: the place it
names as its own is behind a piece of that text (`Reader.Tracks`). This is kept by every combinator,
so that it holds of a production because it holds of its parts.
-/

namespace DiagramAssist

/-- Where a reader stands when it is done. -/
def Outcome.cursor {α : Type} : Outcome α → Cursor
  | .read _ next => next
  | .failed failure => failure.stopped

namespace Reader

variable {α β : Type}

/-- The reader stops behind a piece of the text in front of it. -/
def Tracks (reader : Reader α) : Prop :=
  ∀ cursor : Cursor, ∃ taken, cursor.Passes taken (reader cursor).cursor

/-- The reader fails without a clue, where it stands, and lets other readers be tried. -/
def FailsPlainly (reader : Reader α) : Prop :=
  ∀ ⦃cursor failure⦄, reader cursor = .failed failure → failure = ⟨false, [], cursor⟩

/-- A reader that fails only where it stands. -/
theorem FailsPlainly.tracks {reader : Reader α} (plain : FailsPlainly reader)
    (read : ∀ ⦃cursor value later⦄, reader cursor = .read value later →
      ∃ taken, cursor.Passes taken later) : Tracks reader := by
  intro cursor
  cases outcome : reader cursor with
  | read value later => exact read outcome
  | failed failure =>
    rw [plain outcome]
    exact ⟨[], cursor.passes_nil⟩

theorem tracks_pure (value : α) : Tracks (pure value : Reader α) :=
  fun cursor => ⟨[], cursor.passes_nil⟩

theorem tracks_reject : Tracks (reject : Reader α) :=
  fun cursor => ⟨[], cursor.passes_nil⟩

theorem tracks_column : Tracks column :=
  fun cursor => ⟨[], cursor.passes_nil⟩

theorem tracks_remaining : Tracks remaining :=
  fun cursor => ⟨[], cursor.passes_nil⟩

namespace Tracks

theorem passes {reader : Reader α} (tracks : Tracks reader) {cursor later : Cursor} {value : α}
    (read : reader cursor = .read value later) : ∃ taken, cursor.Passes taken later := by
  have stops := tracks cursor
  rwa [read] at stops

/-- The place of a failure. -/
theorem stops {reader : Reader α} (tracks : Tracks reader) {cursor : Cursor} {failure : Failure}
    (failed : reader cursor = .failed failure) : ∃ taken, cursor.Passes taken failure.stopped := by
  have stops := tracks cursor
  rwa [failed] at stops

theorem bind {reader : Reader α} {next : α → Reader β} (first : Tracks reader)
    (second : ∀ value, Tracks (next value)) : Tracks (reader >>= next) := by
  intro cursor
  rw [bind_apply]
  cases outcome : reader cursor with
  | read value middle =>
    obtain ⟨taken, before⟩ := first.passes outcome
    obtain ⟨more, behind⟩ := second value middle
    exact ⟨taken ++ more, before.trans behind⟩
  | failed failure => exact first.stops outcome

/-- A reader that stops where another one does. -/
theorem of_cursor {reader other : Reader α} (tracks : Tracks reader)
    (same : ∀ cursor, (other cursor).cursor = (reader cursor).cursor) : Tracks other :=
  fun cursor => same cursor ▸ tracks cursor

theorem withClue {reader : Reader α} {clue : Clue} (tracks : Tracks reader) :
    Tracks (withClue clue reader) := by
  refine tracks.of_cursor fun cursor => ?_
  simp only [Reader.withClue]
  cases reader cursor <;> rfl

theorem expecting {reader : Reader α} (tracks : Tracks reader) (what : String) :
    Tracks (expecting what reader) :=
  tracks.withClue

theorem commit {reader : Reader α} (tracks : Tracks reader) : Tracks (commit reader) := by
  refine tracks.of_cursor fun cursor => ?_
  simp only [Reader.commit]
  cases reader cursor <;> rfl

theorem relent {reader : Reader α} (tracks : Tracks reader) : Tracks (relent reader) := by
  refine tracks.of_cursor fun cursor => ?_
  simp only [Reader.relent]
  cases reader cursor <;> rfl

theorem directiveRest {reader : Reader α} (tracks : Tracks reader) (start : Nat) (fault : Fault) :
    Tracks (directiveRest start fault reader) :=
  tracks.commit.withClue.withClue

theorem orElse {first second : Reader α} (one : Tracks first) (other : Tracks second) :
    Tracks (orElse first second) := by
  intro cursor
  simp only [Reader.orElse]
  cases outcome : first cursor with
  | read value later => exact one.passes outcome
  | failed failure =>
    dsimp only
    split
    · exact one.stops outcome
    · exact other cursor

theorem optional {reader : Reader α} (tracks : Tracks reader) : Tracks (optional reader) := by
  intro cursor
  simp only [Reader.optional]
  cases outcome : reader cursor with
  | read value later => exact tracks.passes outcome
  | failed failure =>
    dsimp only
    split
    · exact tracks.stops outcome
    · exact ⟨[], cursor.passes_nil⟩

end Tracks

theorem tracks_choose {readers : List (Reader α)} (each : ∀ reader ∈ readers, Tracks reader) :
    Tracks (choose readers) := by
  fun_induction choose readers with
  | case1 => exact tracks_reject
  | case2 reader => exact each reader (List.mem_singleton_self reader)
  | case3 reader rest _ ih =>
    exact (each reader List.mem_cons_self).orElse
      (ih fun other member => each other (List.mem_cons_of_mem reader member))

section Characters

variable {accepts : Char → Bool}

theorem tracks_takeWhile : Tracks (takeWhile accepts) :=
  fun _ => ⟨_, (passes_of_takeWhile rfl).1⟩

theorem failsPlainly_takeWhile1 : FailsPlainly (takeWhile1 accepts) := by
  intro cursor failure failed
  simp only [takeWhile1] at failed
  split at failed
  · exact (Outcome.failed.inj failed).symm
  · cases failed

theorem tracks_takeWhile1 : Tracks (takeWhile1 accepts) :=
  failsPlainly_takeWhile1.tracks fun _ _ _ read => ⟨_, (passes_of_takeWhile1 read).1⟩

theorem failsPlainly_one : FailsPlainly (one accepts) := by
  intro cursor failure failed
  simp only [one] at failed
  split at failed
  · split at failed
    · cases failed
    · exact (Outcome.failed.inj failed).symm
  · exact (Outcome.failed.inj failed).symm

theorem tracks_one : Tracks (one accepts) :=
  failsPlainly_one.tracks fun _ _ _ read => ⟨_, (passes_of_one read).1⟩

theorem failsPlainly_literal (text : String) : FailsPlainly (literal text) := by
  intro cursor failure failed
  simp only [literal] at failed
  split at failed
  · cases failed
  · exact (Outcome.failed.inj failed).symm

theorem tracks_literal (text : String) : Tracks (literal text) :=
  (failsPlainly_literal text).tracks fun _ _ _ read => ⟨_, passes_of_literal read⟩

theorem failsPlainly_notFollowedBy {rejects : Char → Bool} :
    FailsPlainly (notFollowedBy rejects) := by
  intro cursor failure failed
  simp only [notFollowedBy] at failed
  split at failed
  · split at failed
    · exact (Outcome.failed.inj failed).symm
    · cases failed
  · cases failed

theorem tracks_notFollowedBy {rejects : Char → Bool} : Tracks (notFollowedBy rejects) :=
  failsPlainly_notFollowedBy.tracks
    fun cursor _ _ read => ⟨[], eq_of_notFollowedBy read ▸ cursor.passes_nil⟩

theorem tracks_char (c : Char) : Tracks (char c) :=
  tracks_one.bind fun _ => tracks_pure ()

end Characters

section Words

theorem tracks_spaces : Tracks spaces :=
  tracks_takeWhile.bind fun _ => tracks_pure ()

theorem tracks_spaces1 : Tracks spaces1 :=
  tracks_takeWhile1.bind fun _ => tracks_pure ()

theorem tracks_keyword (word : String) : Tracks (keyword word) :=
  (tracks_literal word).bind fun _ => tracks_notFollowedBy

theorem tracks_directiveStart : Tracks directiveStart :=
  tracks_spaces.bind fun _ => tracks_column.bind fun _ => (tracks_char '!').bind fun _ =>
    tracks_pure _

theorem tracks_stringLiteral : Tracks stringLiteral :=
  tracks_column.bind fun _ => tracks_one.bind fun quote => tracks_takeWhile.bind fun _ =>
    ((tracks_char quote).commit.expecting _).withClue.withClue.withClue.bind fun _ =>
      tracks_column.bind fun _ => tracks_pure _

theorem tracks_restOfLine : Tracks restOfLine :=
  tracks_column.bind fun _ => tracks_takeWhile.bind fun _ => tracks_pure _

theorem tracks_endOfStatement (completes : Bool) : Tracks (endOfStatement completes) := by
  refine tracks_spaces.bind fun _ => tracks_column.bind fun stop => ?_
  split
  · exact tracks_notFollowedBy.bind fun _ => tracks_pure stop
  · exact tracks_reject

end Words

end Reader

end DiagramAssist
