import DiagramAssist.Proofs.Engine.Turns

/-! # Tasks keep the order

A task is where its calls are, and one that resolves the includes of a document also works at these
includes. Whatever its next turn is, it leads from an orderly state to an orderly state
(`Task.Turn.leads`), and so does its beginning (`Task.begin_leads`).
-/

namespace DiagramAssist

variable {owners owners' : List String} {world after : World} {engine : Nat}
  {others : Attendance}

namespace Keying

def clients (engine : Nat) : Keying → Attendance
  | .pending _ => 0
  | .looking _ lookup => lookup.clients engine
  | .settled _ => 0

theorem Turn.leads {base : Option String} {keying : Keying} {outcome : World × Keying}
    (turn : Turn engine base world keying outcome)
    (orderly : world.Orderly owners (keying.clients engine + others))
    (known : engine < world.libraries.length) :
    World.Leads owners world owners outcome.1 (outcome.2.clients engine + others) := by
  cases turn with
  | look kind => exact .refl orderly
  | url kind => exact .refl orderly
  | path kind => exact .refl orderly
  | lookup turn => exact turn.leads orderly known
  | listed => exact .refl orderly
  | unlisted => exact .refl orderly

end Keying

namespace Inclusion

def clients (engine : Nat) : Inclusion → Attendance
  | .keying state => state.clients engine
  | .loading load => load.clients
  | .settled _ => 0

/-- What is known of the resolution of an include: above all, the document found has a key. -/
def Sound (owners : List String) (world : World) : Inclusion → Prop
  | .keying _ => True
  | .loading load => load.Sound owners world
  | .settled (some id) => (world.store.context id).key ≠ none
  | .settled none => True

theorem Sound.mono {inclusion : Inclusion} (sound : inclusion.Sound owners world)
    (owned : owners <+: owners') (grows : world.store.Grows after.store) :
    inclusion.Sound owners' after := by
  cases inclusion with
  | keying keying => trivial
  | loading load => exact Load.Sound.mono sound owned grows
  | settled context =>
    cases context with
    | none => trivial
    | some id => exact grows.key_ne_none sound

theorem Turn.leads {base : Option String} {inclusion : Inclusion} {outcome : World × Inclusion}
    (turn : Turn engine base world inclusion outcome)
    (orderly : world.Orderly owners (inclusion.clients engine + others))
    (known : engine < world.libraries.length) (sound : inclusion.Sound owners world) :
    ∃ owners', World.Leads owners world owners' outcome.1 (outcome.2.clients engine + others) ∧
      outcome.2.Sound owners' outcome.1 := by
  cases turn with
  | unresolved => exact ⟨owners, .refl orderly, trivial⟩
  | resolved => exact ⟨owners, .refl orderly, trivial⟩
  | keying turn => exact ⟨owners, turn.leads orderly known, trivial⟩
  | load turn => exact turn.leads orderly sound
  | loaded => exact ⟨owners, .refl orderly, sound⟩
  | failed => exact ⟨owners, .refl orderly, trivial⟩

/-- Where the resolutions of several includes are. -/
def allClients (engine : Nat) (inclusions : List Inclusion) : Attendance :=
  (inclusions.map (clients engine)).sum

@[simp] theorem allClients_cons (inclusion : Inclusion) (rest : List Inclusion) :
    allClients engine (inclusion :: rest) = inclusion.clients engine + allClients engine rest := by
  simp [allClients]

@[simp] theorem allClients_append (passed rest : List Inclusion) :
    allClients engine (passed ++ rest) = allClients engine passed + allClients engine rest := by
  simp [allClients]

theorem allClients_settled (found : List (Option ContextId)) :
    allClients engine (found.map .settled) = 0 := by
  simp [allClients, Function.comp_def, clients]

end Inclusion

namespace Task

def clients (engine : Nat) : Task → Attendance
  | .updating update _ => update.clients
  | .walking _ _ => 0
  | .awaiting _ _ _ _ => 0
  | .resolving target passed rest _ _ =>
    (.includes target, .working) ::ₘ Inclusion.allClients engine (passed ++ rest)
  | .looking lookup _ => lookup.clients engine
  | .loading load => load.clients
  | .keying _ _ (some current) _ => current.clients engine
  | .keying _ _ none _ => 0
  | .finished _ => 0

/-- What is known of a task: its documents are there, and the includes for which it waits are
known or being resolved. -/
def Sound (owners : List String) (world : World) : Task → Prop
  | .updating update _ => update.Sound owners world
  | .walking context _ => context < world.store.length
  | .awaiting _ target context _ =>
    context < world.store.length ∧ (world.store.context target).includes.IsTaken
  | .resolving target passed rest context _ =>
    context < world.store.length ∧ target < world.store.length ∧
      ∀ inclusion ∈ passed ++ rest, inclusion.Sound owners world
  | .looking _ _ => True
  | .loading load => load.Sound owners world
  | .keying _ _ _ _ => True
  | .finished _ => True

theorem Sound.mono {task : Task} (sound : task.Sound owners world) (owned : owners <+: owners')
    (grows : world.store.Grows after.store) : task.Sound owners' after := by
  cases task with
  | updating update goal => exact Update.Sound.mono sound owned grows
  | walking context goal => exact grows.lt_length sound
  | awaiting call target context goal => exact ⟨grows.lt_length sound.1, grows.taken sound.2⟩
  | resolving target passed rest context goal =>
    obtain ⟨there, known, sound⟩ := sound
    exact ⟨grows.lt_length there, grows.lt_length known,
      fun inclusion listed => (sound inclusion listed).mono owned grows⟩
  | looking lookup goal => trivial
  | loading load => exact Load.Sound.mono sound owned grows
  | keying base settled current rest => trivial
  | finished reply => trivial

theorem clients_resume (task : Task) : task.resume.clients engine = task.clients engine := by
  cases task <;> rfl

theorem sound_resume {task : Task} : task.resume.Sound owners world ↔ task.Sound owners world := by
  cases task <;> rfl

/-- A task that needs includes keeps the order. -/
theorem needIncludes_leads (engine : Nat) (orderly : world.Orderly owners others)
    {target context : ContextId}
    (known : target < world.store.length) (there : context < world.store.length)
    (unknown : (world.store.context target).includes.value = none) (goal : Goal) :
    World.Leads owners world owners (needIncludes world target context goal).1
        ((needIncludes world target context goal).2.clients engine + others) ∧
      (needIncludes world target context goal).2.Sound owners
        (needIncludes world target context goal).1 := by
  obtain ⟨held, needed⟩ | ⟨free, needed⟩ := needIncludes_cases world unknown context goal
  · rw [needed, clients, Multiset.zero_add]
    exact ⟨orderly.later rfl rfl rfl rfl (Nat.le_succ _), there, .inr held⟩
  · rw [needed]
    have same := world.store.sameLinks_extract target
    have extracted := orderly.changeStore same.grows same.includes
    have known' : target < (world.store.extract target).length := by rwa [same.length]
    have unknown' : ((world.store.extract target).context target).includes.value = none := by
      rw [same.includes, unknown]
    have pending : Inclusion.allClients engine (inclusions (world.store.context target).table) =
        0 := by
      simp [Inclusion.allClients, inclusions, Function.comp_def, Inclusion.clients, Keying.clients]
    have leads : World.Leads owners { world with store := world.store.extract target } owners
        { world with
          store := (world.store.extract target).update target fun context =>
            { context with
              includes := { (world.store.context target).includes with
                holder := some world.nextCall } }
          nextCall := world.nextCall + 1 }
        ((.includes target, .working) ::ₘ others) := by
      refine extracted.orderly.setIncludes known' unknown' (.inr (Option.some_ne_none _)) ?_ ?_
      · intro ids value
        rw [unknown] at value
        cases value
      · refine extracted.orderly.staffed.hold (.includes target) rfl ?_ ?_ ?_ ?_
        · exact World.Orderly.cellAt_setIncludes_of_ne
        · simp only [World.cellAt, Store.context_update_self known', same.includes]
          rfl
        · exact Cell.value_shape_eq_none.mpr unknown'
        · simp only [World.cellAt, same.includes]
          exact free
    refine ⟨?_, ?_⟩
    · rw [clients, List.nil_append, pending, Multiset.cons_add, Multiset.zero_add]
      exact extracted.trans leads
    · refine ⟨(extracted.trans leads).onward.store.lt_length there,
        (extracted.trans leads).onward.store.lt_length known, fun inclusion listed => ?_⟩
      obtain ⟨content, -, rfl⟩ := List.mem_map.mp listed
      trivial

/-- Pursuing a goal keeps the order. -/
theorem pursue_leads (engine : Nat) (orderly : world.Orderly owners others) {context : ContextId}
    (there : context < world.store.length) (goal : Goal) :
    World.Leads owners world owners (pursue world context goal).1
        ((pursue world context goal).2.clients engine + others) ∧
      (pursue world context goal).2.Sound owners (pursue world context goal).1 := by
  obtain ⟨store, same, ⟨reply, answered⟩ | ⟨target, known, unknown, needed⟩⟩ :=
    pursue_cases orderly.linked there goal
  · rw [answered, clients, Multiset.zero_add]
    exact ⟨orderly.changeStore same.grows same.includes, trivial⟩
  · rw [needed]
    have leads := orderly.changeStore same.grows same.includes
    obtain ⟨further, sound⟩ := needIncludes_leads engine leads.orderly known
      (same.grows.lt_length there) unknown goal
    exact ⟨leads.trans further, sound⟩

/-- Whatever a task does next, it keeps the order. -/
theorem Turn.leads {task : Task} {outcome : World × Task}
    (turn : Turn engine world task outcome)
    (orderly : world.Orderly owners (task.clients engine + others))
    (known : engine < world.libraries.length) (sound : task.Sound owners world) :
    ∃ owners', World.Leads owners world owners' outcome.1 (outcome.2.clients engine + others) ∧
      outcome.2.Sound owners' outcome.1 := by
  cases turn with
  | updated => exact ⟨owners, .refl orderly, Store.lt_length_of_key sound⟩
  | update turn => exact turn.leads orderly sound
  | pursue =>
    rw [clients, Multiset.zero_add] at orderly
    exact ⟨owners, pursue_leads engine orderly sound _⟩
  | woken filled => exact ⟨owners, .refl orderly, sound.1⟩
  | @inclusion target context passed rest inclusion outcome goal turn =>
    obtain ⟨there, there', sound⟩ := sound
    -- The other includes of the task are among the others for this step.
    have split (inclusion : Inclusion) :
        (Task.resolving target passed (inclusion :: rest) context goal).clients engine + others =
          inclusion.clients engine + ((.includes target, .working) ::ₘ
            Inclusion.allClients engine (passed ++ rest) + others) := by
      simp only [clients, Inclusion.allClients_append, Inclusion.allClients_cons]
      simp only [← Multiset.singleton_add]
      ac_rfl
    rw [split] at orderly ⊢
    obtain ⟨owners', leads, settled⟩ := turn.leads orderly known (sound inclusion (by simp))
    refine ⟨owners', leads, leads.onward.store.lt_length there,
      leads.onward.store.lt_length there', ?_⟩
    intro other listed
    rcases List.mem_append.mp listed with before | here
    · exact (sound other (by simp [before])).mono leads.owners leads.onward.store
    · rcases List.mem_cons.mp here with rfl | behind
      · exact settled
      · exact (sound other (by simp [behind])).mono leads.owners leads.onward.store
  | pass stuck =>
    rw [clients, ← List.append_cons] at *
    obtain ⟨there, there', sound⟩ := sound
    exact ⟨owners, .refl orderly, there, there', by simpa using sound⟩
  | @resolved target context found goal =>
    obtain ⟨there, there', sound⟩ := sound
    rw [clients, List.append_nil, Inclusion.allClients_settled, Multiset.cons_add,
      Multiset.zero_add] at orderly
    have unknown := Cell.value_shape_eq_none.mp
      (orderly.staffed.empty_of_working (Multiset.mem_cons_self _ _))
    rw [clients, Multiset.zero_add]
    have leads : World.Leads owners world owners
        { world with store := world.store.resolve target found.reduceOption } others := by
      refine orderly.setIncludes there' unknown (Cell.isTaken_fill .empty found.reduceOption) ?_ ?_
      · intro ids value id listed
        cases value
        have listed : some id ∈ found := List.reduceOption_mem_iff.mp listed
        exact sound (.settled (some id)) (by simpa using listed)
      · refine orderly.staffed.fill (Nat.le_refl _) World.Orderly.cellAt_setIncludes_of_ne ?_
        simp only [World.cellAt, Store.context_update_self there']
        rfl
    exact ⟨owners, leads, leads.onward.store.lt_length there⟩
  | looked => exact ⟨owners, .refl orderly, trivial⟩
  | lookup turn => exact ⟨owners, turn.leads orderly known, trivial⟩
  | loaded => exact ⟨owners, .refl orderly, trivial⟩
  | failed => exact ⟨owners, .refl orderly, trivial⟩
  | load turn => exact turn.leads orderly sound
  | keyed => exact ⟨owners, .refl orderly, trivial⟩
  | keying turn => exact ⟨owners, turn.leads orderly known, trivial⟩
  | next => exact ⟨owners, .refl orderly, trivial⟩
  | listed => exact ⟨owners, .refl orderly, trivial⟩

/-- A task that begins keeps the order. -/
theorem begin_leads (engine : Nat) (orderly : world.Orderly owners others) (command : Command) :
    World.Leads owners world owners (begin world command).1
        ((begin world command).2.clients engine + others) ∧
      (begin world command).2.Sound owners (begin world command).1 := by
  have answered (after : World) (registry : after.registry = world.registry)
      (store : after.store = world.store) (libraries : after.libraries = world.libraries)
      (config : after.config = world.config) (calls : after.nextCall = world.nextCall)
      (reply : Reply) :
      World.Leads owners world owners after ((Task.finished reply).clients engine + others) ∧
        (Task.finished reply).Sound owners after :=
    ⟨by
      rw [clients, Multiset.zero_add]
      exact orderly.later registry store libraries config (Nat.le_of_eq calls.symm), trivial⟩
  have started (task : Task) (nowhere : task.clients engine = 0) (sound : task.Sound owners world) :
      World.Leads owners world owners world (task.clients engine + others) ∧
        task.Sound owners world :=
    ⟨by
      rw [nowhere, Multiset.zero_add]
      exact .refl orderly, sound⟩
  cases command with
  | document reference goal =>
    simp only [begin, locate]
    split
    · next key content _ _ =>
      split
      · exact answered world rfl rfl rfl rfl rfl _
      · next root _ =>
        refine ⟨?_, ?_⟩
        · simp only [Update.begin, clients, Update.clients, Multiset.zero_add]
          exact orderly.addContext (some key) root
        · exact congrArg Context.key (Store.context_add_self world.store (.fresh (some key) root))
    · split
      · next context stored =>
        exact started _ rfl (Store.lt_length_of_key (orderly.keyed_of_get? stored))
      · exact answered world rfl rfl rfl rfl rfl _
    · split
      · exact answered world rfl rfl rfl rfl rfl _
      · next root _ =>
        refine ⟨?_, ?_⟩
        · simp only [clients, Multiset.zero_add]
          exact orderly.addContext none root
        · simp [Sound, World.addContext, Store.add]
    · exact answered world rfl rfl rfl rfl rfl _
  | library goal => exact started (.looking .arriving goal) rfl trivial
  | load key => exact started (.loading (.arriving key)) rfl trivial
  | resolveKeys base includes => exact started (.keying base [] none includes) rfl trivial
  | changeDocument url supply =>
    exact answered (world.changeDocument url supply) rfl rfl rfl rfl rfl .changed
  | changeListing listing =>
    exact answered (world.changeListing listing) rfl rfl rfl rfl rfl .changed

end Task

end DiagramAssist
