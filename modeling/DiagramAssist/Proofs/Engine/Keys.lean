import DiagramAssist.Proofs.Engine.KnownListing
import DiagramAssist.Proofs.Engine.Origin

/-! # Keys by a listing that is known

While the listing of an engine is known, the keys of includes are found one after the other without
waiting: each step finds what the include gives (`Traffic.keys_of_known`), and after some turns of
its own a task that is asked for keys has its answer (`Traffic.exists_keys`).
-/

namespace DiagramAssist

variable {world after : World} {engine : Nat} {entries : List LibraryEntry}

theorem World.lt_length_of_known (known : (world.library engine).value = some entries) :
    engine < world.libraries.length := by
  by_contra beyond
  rw [library, List.getD_eq_getElem?_getD, List.getElem?_eq_none (Nat.le_of_not_lt beyond)] at known
  cases known

/-- An include whose module has been looked up in a known listing keeps its key. -/
theorem Include.Gives.keep {content : Include} {base key : Option String}
    (gives : content.Gives engine base world key)
    (known : (world.library engine).value = some entries) (keeps : world.KeepsListings after) :
    content.Gives engine base after key := by
  cases gives with
  | url kind => exact .url kind
  | path kind => exact .path kind
  | listed kind listed =>
    rw [← keeps.config]
    exact .listed kind (keeps.listing listed)
  | unlisted kind unknown failed => exact nomatch unknown.symm.trans known

/-- Includes lead to keys, one each. -/
def Include.AllGive (engine : Nat) (base : Option String) (world : World)
    (includes : List Include) (keys : List (Option String)) : Prop :=
  List.Forall₂ (fun content key => Include.Gives content engine base world key) includes keys

theorem Include.AllGive.keep {includes : List Include} {keys : List (Option String)}
    {base : Option String} (given : AllGive engine base world includes keys)
    (known : (world.library engine).value = some entries) (keeps : world.KeepsListings after) :
    AllGive engine base after includes keys :=
  List.Forall₂.imp (fun _ _ gives => gives.keep known keeps) given

namespace Lookup

/-- A lookup of a listing that is known: it has not begun, or it has returned the listing. -/
def Finds (engine : Nat) (world : World) : Lookup → Prop
  | .arriving => True
  | .returned (.ok entries) => (world.library engine).value = some entries
  | _ => False

variable {lookup : Lookup} {outcome : World × Lookup}

theorem Finds.keep (finds : lookup.Finds engine world) (keeps : world.KeepsListings after) :
    lookup.Finds engine after := by
  cases lookup with
  | arriving => trivial
  | returned result =>
    cases result with
    | ok entries => exact keeps.listing finds
    | error error => exact finds.elim
  | queued call | fetching pending => exact finds.elim

theorem Turn.finds (turn : Turn engine world lookup outcome)
    (known : (world.library engine).value = some entries) (finds : lookup.Finds engine world) :
    outcome.2.Finds engine outcome.1 := by
  have lists := turn.lists (World.lt_length_of_known known)
  cases turn with
  | arrive entry =>
    cases entry with
    | found value => exact lists
    | queued empty held => exact nomatch empty.symm.trans known
    | holding empty free => exact nomatch empty.symm.trans known
  | receive value | takeOver empty held | deliver ended good | fail ended bad => exact finds.elim

end Lookup

namespace Keying

/-- An include is being resolved by a listing that is known. -/
def Finds (engine : Nat) (base : Option String) (content : Include) (world : World) :
    Keying → Prop
  | .pending asked => asked = content
  | .looking path lookup =>
    content.kind = .standard ∧ path = content.target.value ∧ lookup.Finds engine world
  | .settled key => content.Gives engine base world key

variable {base : Option String} {content : Include} {keying : Keying} {outcome : World × Keying}

theorem Finds.keep (finds : keying.Finds engine base content world)
    (known : (world.library engine).value = some entries) (keeps : world.KeepsListings after) :
    keying.Finds engine base content after := by
  cases keying with
  | pending asked => exact finds
  | looking path lookup => exact ⟨finds.1, finds.2.1, finds.2.2.keep keeps⟩
  | settled key => exact Include.Gives.keep finds known keeps

theorem Turn.finds (turn : Turn engine base world keying outcome)
    (known : (world.library engine).value = some entries)
    (finds : keying.Finds engine base content world) :
    outcome.2.Finds engine base content outcome.1 := by
  cases turn with
  | look kind =>
    cases finds
    exact ⟨kind, rfl, trivial⟩
  | url kind =>
    cases finds
    exact .url kind
  | path kind =>
    cases finds
    exact .path kind
  | lookup turn => exact ⟨finds.1, finds.2.1, turn.finds known finds.2.2⟩
  | listed =>
    obtain ⟨kind, rfl, listed⟩ := finds
    exact .listed kind listed
  | unlisted => exact finds.2.2.elim

/-- A resolution by a listing that is known goes on until there is a key. -/
theorem Finds.goesOn (finds : keying.Finds engine base content world) :
    (∃ key, keying = .settled key) ∨ ∃ outcome, keying.step engine base world = some outcome := by
  cases keying with
  | pending asked =>
    refine .inr ?_
    cases kind : asked.kind <;> simp [step, kind]
  | looking path lookup =>
    refine .inr ?_
    cases lookup with
    | arriving => exact ⟨_, rfl⟩
    | returned result => cases result <;> exact ⟨_, rfl⟩
    | queued call | fetching pending => exact finds.2.2.elim
  | settled key => exact .inl ⟨key, rfl⟩

end Keying

namespace Task

/-- A task finds the keys of includes by a listing that is known: those it has settled are given by
the first includes, and it goes on with the others in order. -/
def Finds (engine : Nat) (base : Option String) (includes : List Include) (world : World) :
    Task → Prop
  | .keying base' settled current rest => base' = base ∧ ∃ earlier,
      Include.AllGive engine base world earlier settled ∧
      match current with
      | none => includes = earlier ++ rest
      | some state => ∃ content, state.Finds engine base content world ∧
          includes = earlier ++ content :: rest
  | .finished reply => ∃ keys, reply = .keys keys ∧
      Include.AllGive engine base world includes keys
  | _ => False

variable {base : Option String} {includes : List Include} {task : Task} {outcome : World × Task}

theorem abides_finds (base : Option String) (includes : List Include)
    (entries : List LibraryEntry) : Abides engine fun world task =>
      (world.library engine).value = some entries ∧ task.Finds engine base includes world where
  keeps {world after task} keeps := by
    rintro ⟨known, finds⟩
    refine ⟨keeps.listing known, ?_⟩
    cases task with
    | keying base' settled current rest =>
      obtain ⟨same, earlier, given, others⟩ := finds
      refine ⟨same, earlier, given.keep known keeps, ?_⟩
      cases current with
      | none => exact others
      | some keying =>
        obtain ⟨content, finds, whole⟩ := others
        exact ⟨content, finds.keep known keeps, whole⟩
    | finished reply =>
      obtain ⟨keys, replied, given⟩ := finds
      exact ⟨keys, replied, given.keep known keeps⟩
    | updating | walking | awaiting | resolving | looking | loading => exact finds.elim
  turns {world task outcome} there turn keeps := by
    rintro ⟨known, finds⟩
    refine ⟨keeps.listing known, ?_⟩
    cases turn with
    | keyed =>
      obtain ⟨same, earlier, given, content, settled, rfl⟩ := finds
      refine ⟨same, earlier ++ [content], ?_, List.append_cons ..⟩
      exact List.rel_append given (.cons settled .nil)
    | keying turn =>
      obtain ⟨rfl, earlier, given, content, finds, whole⟩ := finds
      exact ⟨rfl, earlier, given.keep known keeps, content, turn.finds known finds, whole⟩
    | next =>
      obtain ⟨same, earlier, given, whole⟩ := finds
      exact ⟨same, earlier, given, _, rfl, whole⟩
    | listed =>
      obtain ⟨same, earlier, given, rfl⟩ := finds
      exact ⟨_, rfl, by rwa [List.append_nil]⟩
    | updated | update | pursue | woken | inclusion | pass | resolved | looked | lookup | loaded
    | failed | load => exact finds.elim
  resumes {world task} := by
    rintro ⟨known, finds⟩
    refine ⟨known, ?_⟩
    cases task with
    | resolving => exact finds.elim
    | updating | walking | awaiting | looking | loading | keying | finished => exact finds

/-- How many turns it still takes at most to find the keys of includes. -/
def keyTurns : Task → Nat
  | .keying _ _ current rest => rest.length * 7 + current.elim 0 (fun keying => keying.rank + 1) + 1
  | _ => 0

theorem Turn.keyTurns_lt (turn : Turn engine world task outcome)
    (finds : task.Finds engine base includes world) : outcome.2.keyTurns < task.keyTurns := by
  cases turn with
  | keyed => simp [keyTurns]
  | keying turn =>
    have fewer := turn.rank_lt
    simp only [keyTurns, Option.elim_some]
    omega
  | next =>
    simp only [keyTurns, Option.elim_some, Option.elim_none, Keying.rank, List.length_cons]
    omega
  | listed => simp [keyTurns]
  | updated | update | pursue | woken | inclusion | pass | resolved | looked | lookup | loaded
  | failed | load => exact finds.elim

/-- A task that finds keys by a listing that is known never waits. -/
theorem Finds.goesOn (finds : task.Finds engine base includes world) :
    (∃ keys, task = .finished (.keys keys)) ∨
      ∃ outcome, task.step engine world = some outcome := by
  cases task with
  | keying base' settled current rest =>
    refine .inr ?_
    cases current with
    | none => cases rest <;> exact ⟨_, rfl⟩
    | some keying =>
      obtain ⟨rfl, -, -, content, finds, -⟩ := finds
      rcases finds.goesOn with ⟨key, rfl⟩ | ⟨outcome, moved⟩
      · exact ⟨_, rfl⟩
      · cases keying with
        | settled key => exact ⟨_, rfl⟩
        | pending asked | looking path lookup =>
          exact ⟨_, Option.map_eq_some_iff.mpr ⟨outcome, moved, rfl⟩⟩
  | finished reply =>
    obtain ⟨keys, rfl, -⟩ := finds
    exact .inl ⟨keys, rfl⟩
  | updating | walking | awaiting | resolving | looking | loading => exact finds.elim

end Task

namespace Traffic

variable {state after : Traffic} {events : List Event} {index : Nat} {base : Option String}
  {includes : List Include} {task : Task}

/-- While the listing is known, every answer about the keys of includes gives each its key. -/
theorem keys_of_known {reply : Reply} (orderly : state.Orderly)
    (known : (state.world.library engine).value = some entries)
    (ran : state.run? (.ask engine (.resolveKeys base includes) :: events) = some after)
    (answered : after.reply? state.tasks.length = some reply) :
    ∃ keys, reply = .keys keys ∧ Include.AllGive engine base after.world includes keys := by
  obtain ⟨next, orderly', keeps, present, ran⟩ := run?_ask_eq_some ran orderly
  have begun : (next.world.library engine).value = some entries ∧
      (Task.keying base [] none includes).Finds engine base includes next.world :=
    ⟨keeps.listing known, rfl, [], .nil, rfl⟩
  obtain ⟨task, present', -, finds⟩ :=
    run?_abides (Task.abides_finds base includes entries) orderly' present begun ran
  obtain ⟨engine', finished⟩ := reply?_eq_some_iff.mp answered
  cases present'.symm.trans finished
  exact finds

/-- A task that finds keys by a listing that is known has its answer after some turns of its own. -/
theorem exists_answer (orderly : state.Orderly)
    (present : state.tasks[index]? = some (engine, task))
    (known : (state.world.library engine).value = some entries)
    (finds : task.Finds engine base includes state.world) :
    ∃ count after keys, state.run? (List.replicate count (.proceed index)) = some after ∧
      after.reply? index = some (.keys keys) := by
  induction left : task.keyTurns using Nat.strong_induction_on generalizing state task with
  | _ turns ih =>
    rcases finds.goesOn with ⟨keys, rfl⟩ | ⟨outcome, moved⟩
    · exact ⟨0, state, keys, rfl, reply?_eq_some_iff.mpr ⟨engine, present⟩⟩
    · have went : state.step? (.proceed index) =
          some ⟨outcome.1, state.tasks.set index (engine, outcome.2)⟩ :=
        step?_proceed_eq_some_iff.mpr ⟨engine, task, present, outcome, moved, rfl⟩
      have inside := (List.getElem?_eq_some_iff.mp present).1
      have turn := Task.step_turn moved
      have fewer := turn.keyTurns_lt finds
      obtain ⟨known', finds'⟩ := (Task.abides_finds base includes entries).turns
        (World.lt_length_of_known known) turn (orderly.keepsListings went) ⟨known, finds⟩
      obtain ⟨count, after, keys, ran, answered⟩ := ih _ (left ▸ fewer) (orderly.step went).1
        (List.getElem?_set_self inside) known' finds' rfl
      exact ⟨count + 1, after, keys, run?_cons_eq_some_iff.mpr ⟨_, went, ran⟩, answered⟩

/-- While the listing is known, a task that is asked for keys has its answer after some turns. -/
theorem exists_keys (orderly : state.Orderly)
    (known : (state.world.library engine).value = some entries) (base : Option String)
    (includes : List Include) :
    ∃ count after keys, state.run? (.ask engine (.resolveKeys base includes) ::
        List.replicate count (.proceed state.tasks.length)) = some after ∧
      after.reply? state.tasks.length = some (.keys keys) := by
  obtain ⟨next, went⟩ :
      ∃ next, state.step? (.ask engine (.resolveKeys base includes)) = some next :=
    ⟨_, step?_ask_eq_some_iff.mpr ⟨World.lt_length_of_known known, rfl⟩⟩
  have begun : state.run? [.ask engine (.resolveKeys base includes)] = some next :=
    run?_cons_eq_some_iff.mpr ⟨next, went, rfl⟩
  obtain ⟨next', orderly', keeps, present, same⟩ := run?_ask_eq_some begun orderly
  cases same
  obtain ⟨count, after, keys, ran, answered⟩ :=
    exists_answer orderly' present (keeps.listing known) ⟨rfl, [], .nil, rfl⟩
  exact ⟨count, after, keys, run?_cons_eq_some_iff.mpr ⟨next, went, ran⟩, answered⟩

end Traffic

end DiagramAssist
