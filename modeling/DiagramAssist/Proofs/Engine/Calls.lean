import DiagramAssist.Engine.Library
import DiagramAssist.Proofs.Engine.Order

/-! # Calls keep the order

A lookup, a load or an update is at one post at most. Whatever its next turn is, it leads from an
orderly state to an orderly state, and what is known of the call itself stays true: the slot at
which it is belongs to the key it asks for, and the document that it returns has a key.
-/

namespace DiagramAssist

variable {owners owners' : List String} {world after : World} {rest : Attendance}

namespace Lookup

def clients (engine : Nat) : Lookup → Attendance
  | .arriving => 0
  | .queued call => {(.library engine, .waiting call)}
  | .fetching _ => {(.library engine, .working)}
  | .returned _ => 0

/-- A lookup asks for the listing; or it has queued, and gets the listing or has to fetch it itself;
or its fetch is over, and it stores what it has fetched or fails. -/
inductive Turn (engine : Nat) (world : World) : Lookup → World × Lookup → Prop where
  | arrive {cell : Cell (List LibraryEntry)} {standing : Cell.Standing (List LibraryEntry)}
      (entry : (world.library engine).Entry world.nextCall cell standing) :
      Turn engine world .arriving
        (proceed (World.setLibrary { world with nextCall := world.nextCall + 1 } engine cell)
          world.nextCall standing)
  | receive {call : Nat} {entries : List LibraryEntry}
      (known : (world.library engine).value = some entries) :
      Turn engine world (.queued call) (world, .returned (.ok entries))
  | takeOver {call : Nat} (empty : (world.library engine).value = none)
      (held : (world.library engine).holder = some call) :
      Turn engine world (.queued call) (world.fetchListing.1, .fetching world.fetchListing.2)
  | deliver {pending : Pending (List LibraryEntry)} {entries : List LibraryEntry}
      (ended : world.isOver pending.timer = true) (good : pending.outcome = .ok entries) :
      Turn engine world (.fetching pending)
        (world.setLibrary engine ((world.library engine).fill entries), .returned (.ok entries))
  | fail {pending : Pending (List LibraryEntry)} {error : FetchError}
      (ended : world.isOver pending.timer = true) (bad : pending.outcome = .error error) :
      Turn engine world (.fetching pending)
        (world.setLibrary engine (world.library engine).release, .returned (.error error))

variable {engine : Nat} {lookup : Lookup} {outcome : World × Lookup}

theorem step_turn (went : lookup.step engine world = some outcome) :
    Turn engine world lookup outcome := by
  cases lookup with
  | arriving =>
    have entry := (world.library engine).enter_entry world.nextCall
    cases went
    exact .arrive entry
  | queued call =>
    rcases (world.library engine).standing_cases call with
      ⟨entries, known, standing⟩ | ⟨empty, held, standing⟩ | ⟨-, -, standing⟩
    · simp only [step, standing] at went
      cases went
      exact .receive known
    · simp only [step, standing] at went
      cases went
      exact .takeOver empty held
    · simp only [step, standing] at went
      cases went
  | fetching pending =>
    simp only [step] at went
    by_cases ended : world.isOver pending.timer = true
    · simp only [ended, Bool.not_true, Bool.false_eq_true, ↓reduceIte] at went
      cases fetched : pending.outcome with
      | ok entries =>
        rw [fetched] at went
        cases went
        exact .deliver ended fetched
      | error error =>
        rw [fetched] at went
        cases went
        exact .fail ended fetched
    · simp only [Bool.eq_false_iff.mpr ended, Bool.not_false, ↓reduceIte] at went
      cases went
  | returned result => cases went

theorem clients_proceed (world : World) (call : Nat)
    (standing : Cell.Standing (List LibraryEntry)) :
    (proceed world call standing).2.clients engine =
      (Post.library engine).clients call standing := by
  cases standing <;> rfl

/-- Going on from a standing at most starts a fetch. -/
theorem proceed_leads {clients : Attendance} (orderly : world.Orderly owners clients)
    (call : Nat) (standing : Cell.Standing (List LibraryEntry)) :
    World.Leads owners world owners (proceed world call standing).1 clients := by
  cases standing with
  | found entries => exact .refl orderly
  | queued => exact .refl orderly
  | holding => exact orderly.later rfl rfl rfl rfl (Nat.le_succ _)

/-- Whatever a lookup does next, it keeps the order. -/
theorem Turn.leads (turn : Turn engine world lookup outcome)
    (orderly : world.Orderly owners (lookup.clients engine + rest))
    (known : engine < world.libraries.length) :
    World.Leads owners world owners outcome.1 (outcome.2.clients engine + rest) := by
  have elsewhere {world : World} {cell : Cell (List LibraryEntry)} :=
    @World.Orderly.cellAt_setLibrary_of_ne world engine cell
  cases turn with
  | @arrive cell standing entry =>
    rw [clients, Multiset.zero_add] at orderly
    have entered : World.Staffed
        (World.setLibrary { world with nextCall := world.nextCall + 1 } engine cell)
        ((Post.library engine).clients world.nextCall standing + rest) :=
      orderly.staffed.enter entry rfl elsewhere rfl
        (congrArg Cell.shape (World.Orderly.library_setLibrary_self known))
    have leads := orderly.setLibrary entered
    rw [clients_proceed]
    exact leads.trans (proceed_leads leads.orderly _ _)
  | receive filled =>
    rw [clients, Multiset.singleton_add] at orderly
    refine orderly.restaff ?_
    rw [clients, Multiset.zero_add]
    refine orderly.staffed.leave ?_
    simp [World.cellAt, Cell.shape, filled]
  | takeOver empty held =>
    rw [clients, Multiset.singleton_add] at orderly
    rw [clients, Multiset.singleton_add]
    have leads := orderly.restaff
      (orderly.staffed.takeOver (Cell.value_shape_eq_none.mpr empty) held)
    exact leads.trans (leads.orderly.later rfl rfl rfl rfl (Nat.le_succ _))
  | @deliver pending entries ended good =>
    rw [clients, Multiset.singleton_add] at orderly
    rw [clients, Multiset.zero_add]
    refine orderly.setLibrary (orderly.staffed.fill (Nat.le_refl _) elsewhere ?_)
    exact congrArg Cell.shape (World.Orderly.library_setLibrary_self known)
  | fail ended bad =>
    rw [clients, Multiset.singleton_add] at orderly
    rw [clients, Multiset.zero_add]
    refine orderly.setLibrary (orderly.staffed.release (Nat.le_refl _) elsewhere ?_)
    refine (congrArg Cell.shape (World.Orderly.library_setLibrary_self known)).trans ?_
    exact Cell.shape_release _

end Lookup

/-- What is owned stays owned. -/
theorem owner_kept (owned : owners <+: owners') {slot : SlotId} {key : String}
    (owner : owners[slot]? = some key) : owners'[slot]? = some key := by
  obtain ⟨more, rfl⟩ := owned
  rw [List.getElem?_append_left (List.getElem?_eq_some_iff.mp owner).1, owner]

namespace Load

def clients : Load → Attendance
  | .arriving _ => 0
  | .queued _ call slot => {(.slot slot, .waiting call)}
  | .fetching _ slot _ => {(.slot slot, .working)}
  | .returned _ => 0

/-- The slot at which a load is belongs to its key, and a document that it returns has a key. -/
def Sound (owners : List String) (world : World) : Load → Prop
  | .arriving _ => True
  | .queued key _ slot => owners[slot]? = some key
  | .fetching key slot _ => owners[slot]? = some key
  | .returned (.ok id) => (world.store.context id).key ≠ none
  | .returned (.error _) => True

variable {load : Load} {outcome : World × Load}

theorem Sound.mono (sound : load.Sound owners world) (owned : owners <+: owners')
    (grows : world.store.Grows after.store) : load.Sound owners' after := by
  cases load with
  | arriving key => trivial
  | queued key call slot => exact owner_kept owned sound
  | fetching key slot pending => exact owner_kept owned sound
  | returned result =>
    cases result with
    | ok id => exact grows.key_ne_none sound
    | error error => trivial

theorem clients_proceed (world : World) (key : String) (call : Nat) (slot : SlotId)
    (standing : Cell.Standing ContextId) :
    (proceed world key call slot standing).2.clients = (Post.slot slot).clients call standing := by
  cases standing <;> rfl

/-- Going on from a standing at most starts a fetch. -/
theorem proceed_leads {clients : Attendance} (orderly : world.Orderly owners clients)
    (key : String) (call : Nat) (slot : SlotId) (standing : Cell.Standing ContextId) :
    World.Leads owners world owners (proceed world key call slot standing).1 clients := by
  cases standing with
  | found id => exact .refl orderly
  | queued => exact .refl orderly
  | holding => exact orderly.later rfl rfl rfl rfl (Nat.le_succ _)

/-- Whatever a load does next, it keeps the order. -/
theorem Turn.leads (turn : Turn world load outcome)
    (orderly : world.Orderly owners (load.clients + rest)) (sound : load.Sound owners world) :
    ∃ owners', World.Leads owners world owners' outcome.1 (outcome.2.clients + rest) ∧
      outcome.2.Sound owners' outcome.1 := by
  cases turn with
  | @arrive key registry slot standing arrival =>
    rw [clients, Multiset.zero_add] at orderly
    obtain ⟨owners', leads, owner⟩ := orderly.arrive arrival
    refine ⟨owners', ?_, ?_⟩
    · rw [clients_proceed]
      exact leads.trans (proceed_leads leads.orderly _ _ _ _)
    · cases arrival with
      | found shown => exact orderly.stored_keyed shown.2
      | queued current empty held => exact owner
      | holding current empty free => exact owner
      | claimed missing => exact owner
  | receive filled =>
    rw [clients, Multiset.singleton_add] at orderly
    rw [clients, Multiset.zero_add]
    refine ⟨owners, orderly.restaff (orderly.staffed.leave ?_), orderly.stored_keyed filled⟩
    simp [World.cellAt, Cell.shape, filled]
  | takeOver empty held =>
    rw [clients, Multiset.singleton_add] at orderly
    rw [clients, Multiset.singleton_add]
    have leads := orderly.restaff
      (orderly.staffed.takeOver (Cell.value_shape_eq_none.mpr empty) held)
    exact ⟨owners, leads.trans (leads.orderly.later rfl rfl rfl rfl (Nat.le_succ _)), sound⟩
  | @deliver key slot pending context ended good =>
    rw [clients, Multiset.singleton_add] at orderly
    rw [clients, Multiset.zero_add]
    obtain ⟨root, rfl⟩ := fresh_of_loaded good
    have added := orderly.addContext (some key) root
    have keyed : ((world.store.add (.fresh (some key) root)).1.context world.store.length).key =
        some key := by
      rw [Store.context_add_self]
      rfl
    have stored := added.orderly.succeed (keyed.trans sound.symm)
    refine ⟨owners, added.trans stored, ?_⟩
    exact fun missing => Option.some_ne_none _ (keyed.symm.trans missing)
  | @fail key slot pending error ended bad =>
    rw [clients, Multiset.singleton_add] at orderly
    rw [clients, Multiset.zero_add]
    exact ⟨owners, orderly.fail key, trivial⟩

end Load

namespace Update

def clients : Update → Attendance
  | .arriving _ _ => 0
  | .queued _ _ call slot => {(.slot slot, .waiting call)}
  | .returned _ => 0

/-- The slot at which an update waits belongs to its key, its document has the key, and so has the
document that it returns. -/
def Sound (owners : List String) (world : World) : Update → Prop
  | .arriving key fresh => (world.store.context fresh).key = some key
  | .queued key fresh _ slot =>
    (world.store.context fresh).key = some key ∧ owners[slot]? = some key
  | .returned id => (world.store.context id).key ≠ none

variable {update : Update} {outcome : World × Update}

theorem Sound.mono (sound : update.Sound owners world) (owned : owners <+: owners')
    (grows : world.store.Grows after.store) : update.Sound owners' after := by
  have kept {id : ContextId} {key : String} (keyed : (world.store.context id).key = some key) :
      (after.store.context id).key = some key := by
    rw [grows.key (by simp [keyed]), keyed]
  cases update with
  | arriving key fresh => exact kept sound
  | queued key fresh call slot => exact ⟨kept sound.1, owner_kept owned sound.2⟩
  | returned id => exact grows.key_ne_none sound

/-- Settling changes no tree but that of the stored document, or starts again. -/
theorem settle_leads {key : String} {fresh stored : ContextId} {slot : SlotId}
    (orderly : world.Orderly owners rest) (mine : (world.store.context fresh).key = some key)
    (filled : (world.registry.cell slot).value = some stored) :
    World.Leads owners world owners (settle world key fresh slot stored).1
        ((settle world key fresh slot stored).2.clients + rest) ∧
      (settle world key fresh slot stored).2.Sound owners
        (settle world key fresh slot stored).1 := by
  by_cases current : world.registry.slot? key = some slot
  · rw [settle_of_current world fresh stored current, clients, Multiset.zero_add]
    have same : world.store.SameLinks (if stored = fresh then world.store
        else world.store.update stored fun context =>
          { context with root := (world.store.context fresh).root }) := by
      split
      · exact .refl _
      · exact world.store.sameLinks_root stored _
    have leads := orderly.changeStore same.grows same.includes
    exact ⟨leads, leads.orderly.stored_keyed filled⟩
  · rw [settle_of_lost world fresh stored current, clients, Multiset.zero_add]
    exact ⟨.refl orderly, mine⟩

/-- The update fills the slot that it holds, and settles. -/
theorem fill_leads {key : String} {fresh : ContextId} {slot : SlotId}
    (orderly : world.Orderly owners ((.slot slot, .working) ::ₘ rest))
    (mine : (world.store.context fresh).key = some key) (owner : owners[slot]? = some key) :
    let filled := { world with registry := world.registry.succeed slot fresh }
    World.Leads owners world owners (settle filled key fresh slot fresh).1
        ((settle filled key fresh slot fresh).2.clients + rest) ∧
      (settle filled key fresh slot fresh).2.Sound owners
        (settle filled key fresh slot fresh).1 := by
  intro filled
  have known := orderly.staffed.slot_known (Multiset.mem_cons_self _ _)
  have leads := orderly.succeed (mine.trans owner.symm)
  have value : (filled.registry.cell slot).value = some fresh := by
    simp only [filled, Registry.cell_succeed known, if_pos]
  obtain ⟨settled, sound⟩ := settle_leads leads.orderly mine value
  exact ⟨leads.trans settled, sound⟩

/-- Whatever an update does next, it keeps the order. -/
theorem Turn.leads (turn : Turn world update outcome)
    (orderly : world.Orderly owners (update.clients + rest)) (sound : update.Sound owners world) :
    ∃ owners', World.Leads owners world owners' outcome.1 (outcome.2.clients + rest) ∧
      outcome.2.Sound owners' outcome.1 := by
  cases turn with
  | @arrive key fresh registry slot standing arrival =>
    rw [clients, Multiset.zero_add] at orderly
    obtain ⟨owners', leads, owner⟩ := orderly.arrive arrival
    have filled {id : ContextId} (found : standing = .found id) :
        (registry.cell slot).value = some id := by
      rw [arrival.sameDocuments.values]
      cases arrival with
      | found shown =>
        cases found
        exact shown.2
      | queued current empty held => cases found
      | holding current empty free => cases found
      | claimed missing => cases found
    refine ⟨owners', ?_⟩
    cases standing with
    | found stored =>
      have ordered := leads.orderly
      rw [Post.clients, Multiset.zero_add] at ordered
      obtain ⟨settled, sound⟩ := settle_leads ordered sound (filled rfl)
      exact ⟨leads.trans settled, sound⟩
    | queued => exact ⟨leads, sound, owner⟩
    | holding =>
      have ordered := leads.orderly
      rw [Post.clients, Multiset.singleton_add] at ordered
      obtain ⟨settled, sound⟩ := fill_leads ordered sound owner
      exact ⟨leads.trans settled, sound⟩
  | receive filled =>
    rw [clients, Multiset.singleton_add] at orderly
    have leads := orderly.restaff (orderly.staffed.leave (by
      simp [World.cellAt, Cell.shape, filled]))
    obtain ⟨settled, sound⟩ := settle_leads leads.orderly sound.1 filled
    exact ⟨owners, leads.trans settled, sound⟩
  | takeOver empty held =>
    rw [clients, Multiset.singleton_add] at orderly
    have leads := orderly.restaff
      (orderly.staffed.takeOver (Cell.value_shape_eq_none.mpr empty) held)
    obtain ⟨settled, sound⟩ := fill_leads leads.orderly sound.1 sound.2
    exact ⟨owners, leads.trans settled, sound⟩

end Update

end DiagramAssist
