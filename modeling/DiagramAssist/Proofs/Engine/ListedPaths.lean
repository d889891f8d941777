import DiagramAssist.Proofs.Engine.Keys

/-! # Paths as they are listed

A path that is looked up is compared with the listed paths as it is and with the extension, both at
once and entry by entry. So a module that is spelled by its full listed path is found under it,
unless an earlier entry of the listing has the path with the extension: then that one is found
(`LibraryEntry.resolve?_path`). An engine whose listing is known answers so, after two turns
(`Traffic.listed_path_resolves_iff`).
-/

namespace DiagramAssist

namespace LibraryEntry

def Distinct (entries : List LibraryEntry) : Prop :=
  (entries.map (·.path)).Nodup

instance (entries : List LibraryEntry) : Decidable (Distinct entries) :=
  inferInstanceAs (Decidable (List.Nodup _))

variable {front behind : List LibraryEntry} {entry : LibraryEntry}

/-- Before an entry no other one has its path. -/
theorem Distinct.path_ne (distinct : Distinct (front ++ entry :: behind)) {other : LibraryEntry}
    (earlier : other ∈ front) : other.path ≠ entry.path := by
  rw [Distinct, List.map_append, List.map_cons] at distinct
  have apart := (List.nodup_append.mp distinct).2.2
  exact apart _ (List.mem_map_of_mem earlier) _ List.mem_cons_self

/-- A listed path leads to the first of the entries before it that has the path with the extension,
and to its own entry if there is none. -/
theorem resolve?_path (distinct : Distinct (front ++ entry :: behind)) (extension : String) :
    resolve? (front ++ entry :: behind) extension entry.path =
      some ((front.find? fun other => other.path == entry.path ++ extension).getD entry).url := by
  have earlier : front.find? (fun other =>
      other.path == entry.path || other.path == entry.path ++ extension) =
        front.find? fun other => other.path == entry.path ++ extension := by
    rw [← List.head?_filter, ← List.head?_filter]
    refine congrArg List.head? (List.filter_congr fun other listed => ?_)
    rw [beq_eq_false_iff_ne.mpr (distinct.path_ne listed), Bool.false_or]
  rw [resolve?, List.find?_append, earlier]
  cases front.find? fun other => other.path == entry.path ++ extension with
  | some other => rfl
  | none => rw [Option.none_or, List.find?_cons_of_pos (by simp)]; rfl

/-- A listed path leads to its own address exactly if no entry before it has the path with the
extension and another address. -/
theorem resolve?_path_eq_iff (distinct : Distinct (front ++ entry :: behind)) (extension : String) :
    resolve? (front ++ entry :: behind) extension entry.path = some entry.url ↔
      ∀ other ∈ front, other.path = entry.path ++ extension → other.url = entry.url := by
  rw [resolve?_path distinct, Option.some.injEq]
  cases found : front.find? fun other => other.path == entry.path ++ extension with
  | none =>
    simp only [List.find?_eq_none, beq_iff_eq] at found
    exact iff_of_true rfl fun other listed same => (found other listed same).elim
  | some first =>
    have named : first.path = entry.path ++ extension := by simpa using List.find?_some found
    have listed := List.mem_of_find?_eq_some found
    refine ⟨fun same other earlier named' => ?_, fun all => all first listed named⟩
    -- Of the entries before it only one has the extended path.
    have single : other = first := by
      refine List.inj_on_of_nodup_map (f := (·.path)) ?_ earlier listed (named'.trans named.symm)
      rw [Distinct, List.map_append] at distinct
      exact (List.nodup_append.mp distinct).1
    rw [single]
    exact same

end LibraryEntry

/-- A lookup finds a listing that is known at once. -/
theorem Lookup.step_arriving_of_known {world : World} {engine : Nat} {entries : List LibraryEntry}
    (known : (world.library engine).value = some entries) :
    Lookup.step engine world .arriving =
      some (world.newCall.1.setLibrary engine (world.library engine), .returned (.ok entries)) := by
  have entered : (world.library engine).enter world.nextCall =
      (world.library engine, .found entries) := by rw [Cell.enter, known]
  have same : World.library { world with nextCall := world.nextCall + 1 } engine =
      world.library engine := rfl
  simp only [step, World.newCall, same, entered, proceed]

namespace Task

variable {world : World} {engine : Nat} {entries : List LibraryEntry} {goal : LibraryGoal}

/-- A task about the library goes by a listing that is known. -/
def Consults (engine : Nat) (goal : LibraryGoal) (entries : List LibraryEntry) (world : World) :
    Task → Prop
  | .looking lookup wanted => wanted = goal ∧ lookup.Finds engine world
  | .finished reply => reply = libraryReply world.config goal (.ok entries)
  | _ => False

theorem abides_consults (goal : LibraryGoal) (entries : List LibraryEntry) :
    Abides engine fun world task => (world.library engine).value = some entries ∧
      task.Consults engine goal entries world where
  keeps {world after task} keeps := by
    rintro ⟨known, consults⟩
    refine ⟨keeps.listing known, ?_⟩
    cases task with
    | looking lookup wanted => exact ⟨consults.1, consults.2.keep keeps⟩
    | finished reply => exact consults.trans (keeps.config ▸ rfl)
    | updating | walking | awaiting | resolving | loading | keying => exact consults.elim
  turns {world task outcome} there turn keeps := by
    rintro ⟨known, consults⟩
    refine ⟨keeps.listing known, ?_⟩
    cases turn with
    | @looked result wanted =>
      obtain ⟨rfl, finds⟩ := consults
      cases result with
      | ok found =>
        cases known.symm.trans finds
        rfl
      | error error => exact finds.elim
    | lookup turn => exact ⟨consults.1, turn.finds known consults.2⟩
    | updated | update | pursue | woken | inclusion | pass | resolved | loaded | failed | load
    | keyed | keying | next | listed => exact consults.elim
  resumes {world task} := by
    rintro ⟨known, consults⟩
    refine ⟨known, ?_⟩
    cases task <;> exact consults

end Task

namespace Traffic

variable {state after : Traffic} {engine : Nat} {entries : List LibraryEntry} {goal : LibraryGoal}

/-- What is asked about a known listing is answered off it. -/
theorem reply_of_known {later : List Event} {reply : Reply} (orderly : state.Orderly)
    (known : (state.world.library engine).value = some entries)
    (ran : state.run? (.ask engine (.library goal) :: later) = some after)
    (answered : after.reply? state.tasks.length = some reply) :
    reply = Task.libraryReply after.world.config goal (.ok entries) := by
  obtain ⟨next, orderly', keeps, present, ran⟩ := run?_ask_eq_some ran orderly
  have begun : (next.world.library engine).value = some entries ∧
      (Task.looking .arriving goal).Consults engine goal entries next.world :=
    ⟨keeps.listing known, rfl, trivial⟩
  obtain ⟨task, present', -, consults⟩ :=
    run?_abides (Task.abides_consults goal entries) orderly' present begun ran
  obtain ⟨engine', finished⟩ := reply?_eq_some_iff.mp answered
  cases present'.symm.trans finished
  exact consults

/-- The task that was asked for last takes a turn. -/
theorem step?_proceed_concat {world : World} {tasks : List (Nat × Task)} {task : Task}
    {outcome : World × Task} (moved : task.step engine world = some outcome) :
    Traffic.step? ⟨world, tasks ++ [(engine, task)]⟩ (.proceed tasks.length) =
      some ⟨outcome.1, tasks ++ [(engine, outcome.2)]⟩ := by
  refine step?_proceed_eq_some_iff.mpr
    ⟨engine, task, List.getElem?_concat_length, outcome, moved, ?_⟩
  rw [List.set_append_right _ _ (Nat.le_refl _), Nat.sub_self, List.set_cons_zero]

/-- What is asked about a known listing is answered after two turns. -/
theorem exists_library_reply (known : (state.world.library engine).value = some entries)
    (goal : LibraryGoal) :
    ∃ after reply, state.run? [.ask engine (.library goal), .proceed state.tasks.length,
        .proceed state.tasks.length] = some after ∧
      after.reply? state.tasks.length = some reply := by
  have there := World.lt_length_of_known known
  obtain ⟨looked, arrived⟩ : ∃ looked, Task.step engine state.world (.looking .arriving goal) =
      some (looked, .looking (.returned (.ok entries)) goal) := by
    simp only [Task.step, Lookup.step_arriving_of_known known, Option.map_some]
    exact ⟨_, rfl⟩
  have ran : state.run? [.ask engine (.library goal), .proceed state.tasks.length,
      .proceed state.tasks.length] = some ⟨looked, state.tasks ++
        [(engine, .finished (Task.libraryReply looked.config goal (.ok entries)))]⟩ := by
    refine run?_cons_eq_some_iff.mpr ⟨_, step?_ask_eq_some_iff.mpr ⟨there, rfl⟩, ?_⟩
    refine run?_cons_eq_some_iff.mpr ⟨_, step?_proceed_concat arrived, ?_⟩
    exact run?_cons_eq_some_iff.mpr ⟨_, step?_proceed_concat rfl, rfl⟩
  exact ⟨_, _, ran, reply?_eq_some_iff.mpr ⟨engine, List.getElem?_concat_length⟩⟩

/-- Whenever an engine has been asked for a path and has answered, either the listing could not be
had, or the listing is known, and if its entries have different paths and one of them has the path
that was asked for, then the answer is the address of that entry exactly if no entry before it has
the path with the extension and another address. If the listing is known, the answer comes after two
turns. -/
theorem listed_path_resolves_iff {config : Config} {source : Source} {engines : Nat}
    {before : List Event} {path : String}
    (ran : (initial config source engines).run? before = some state) :
    (∀ {later : List Event} {after : Traffic} {reply : Reply},
      state.run? (.ask engine (.library (.resolve path)) :: later) = some after →
      after.reply? state.tasks.length = some reply →
      (state.world.library engine).value = none ∧ reply = .address none ∨
        ∃ entries, (after.world.library engine).value = some entries ∧
          ∀ front entry behind, entries = front ++ entry :: behind →
            LibraryEntry.Distinct entries → entry.path = path →
            (reply = .address (some entry.url) ↔
              ∀ other ∈ front, other.path = path ++ config.extension → other.url = entry.url)) ∧
    ((state.world.library engine).value ≠ none → ∃ after reply,
      state.run? [.ask engine (.library (.resolve path)), .proceed state.tasks.length,
        .proceed state.tasks.length] = some after ∧
      after.reply? state.tasks.length = some reply) := by
  obtain ⟨orderly, onward⟩ := (orderly_initial config source engines).run ran
  refine ⟨fun {later after reply} asked answered => ?_, fun known => ?_⟩
  · have settings : after.world.config = config :=
      ((orderly.run asked).2.config).trans onward.config
    have resolves {entries : List LibraryEntry}
        (replied : reply = Task.libraryReply after.world.config (.resolve path) (.ok entries))
        (front : List LibraryEntry) (entry : LibraryEntry) (behind : List LibraryEntry)
        (whole : entries = front ++ entry :: behind) (distinct : LibraryEntry.Distinct entries)
        (named : entry.path = path) :
        reply = .address (some entry.url) ↔
          ∀ other ∈ front, other.path = path ++ config.extension → other.url = entry.url := by
      subst named whole
      rw [replied, settings, Task.libraryReply, Reply.address.injEq]
      exact LibraryEntry.resolve?_path_eq_iff distinct config.extension
    cases known : (state.world.library engine).value with
    | some entries =>
      refine .inr ⟨entries, ?_, resolves (reply_of_known orderly known asked answered)⟩
      exact (orderly.run_keepsListings asked).listing known
    | none =>
      obtain ⟨result, replied, kept⟩ := listing_of_library orderly asked answered
      cases result with
      | error error => exact .inl ⟨rfl, replied⟩
      | ok entries => exact .inr ⟨entries, kept entries rfl, resolves replied⟩
  · obtain ⟨entries, known⟩ := Option.ne_none_iff_exists'.mp known
    exact exists_library_reply known _

def listingSource (entries : List LibraryEntry) : Source where
  document := Supply.missing
  listing _ := ⟨0, .ok entries⟩

/-- The module with the extension is listed behind the one without. -/
theorem listed_path_resolves_in_front :
    ∃ after, (initial .standard (listingSource
        [⟨"b.puml", "https://std/b"⟩, ⟨"a", "https://std/bare"⟩,
          ⟨"a.puml", "https://std/extended"⟩]) 1).run?
        [.ask 0 (.library (.resolve "a")), .proceed 0, .proceed 0, .proceed 0] = some after ∧
      after.reply? 0 = some (.address (some "https://std/bare")) := by
  let source := listingSource [⟨"b.puml", "https://std/b"⟩, ⟨"a", "https://std/bare"⟩,
    ⟨"a.puml", "https://std/extended"⟩]
  have begun : (initial .standard source 1).run? [] = some (initial .standard source 1) := rfl
  obtain ⟨after, url, asked, answered, listed, present⟩ : ∃ after url,
      (initial .standard source 1).run?
        [.ask 0 (.library (.resolve "a")), .proceed 0, .proceed 0, .proceed 0] = some after ∧
      after.reply? 0 = some (.address url) ∧
      (after.world.library 0).value = some [⟨"b.puml", "https://std/b"⟩,
        ⟨"a", "https://std/bare"⟩, ⟨"a.puml", "https://std/extended"⟩] ∧ url.isSome = true :=
    ⟨_, _, rfl, rfl, rfl, by decide +kernel⟩
  refine ⟨after, asked, ?_⟩
  rcases (listed_path_resolves_iff begun).1 asked answered with
    ⟨-, none⟩ | ⟨entries, known, resolves⟩
  · cases none
    cases present
  · cases listed.symm.trans known
    have found := (resolves [⟨"b.puml", "https://std/b"⟩] ⟨"a", "https://std/bare"⟩
      [⟨"a.puml", "https://std/extended"⟩] rfl (by decide +kernel) rfl).mpr (by decide +kernel)
    rw [answered, found]

/-- The other way round the path without the extension leads to the other module. -/
theorem bare_path_leads_to_extended :
    LibraryEntry.Distinct [⟨"a.puml", "https://std/extended"⟩, ⟨"a", "https://std/bare"⟩] ∧
    ∃ after, (initial .standard (listingSource
        [⟨"a.puml", "https://std/extended"⟩, ⟨"a", "https://std/bare"⟩]) 1).run?
        [.ask 0 (.library (.resolve "a")), .proceed 0, .proceed 0, .proceed 0] = some after ∧
      (after.world.library 0).value =
        some [⟨"a.puml", "https://std/extended"⟩, ⟨"a", "https://std/bare"⟩] ∧
      after.reply? 0 = some (.address (some "https://std/extended")) :=
  ⟨by decide +kernel, _, rfl, rfl, congrArg (some ∘ Reply.address) (by decide +kernel)⟩

end Traffic

end DiagramAssist
