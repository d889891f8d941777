import DiagramAssist.Engine.World
import DiagramAssist.Proofs.Engine.Clients
import DiagramAssist.Proofs.Registry.Stability
import DiagramAssist.Proofs.Store.Growth

/-! # Order in the state of engines

Calls wait at posts: at the slots of the registry, at the library listings and at the includes of
documents. A state is orderly for the calls at its posts (`World.Orderly`) when every cell is served
by the calls at it, when each slot has one owner, that is, belongs to one key, and when what is
stored in a slot is a document with the key of the owner. Slots are never given up, so a step can
only make the list of owners longer.

Whatever the engines do leads from an orderly state to an orderly state in which nothing is
forgotten (`World.Leads`). There is one lemma for each thing that can be done to a cell.
-/

namespace DiagramAssist

/-- Where calls wait and work. -/
inductive Post where
  | slot (slot : SlotId)
  | library (engine : Nat)
  | includes (target : ContextId)
deriving DecidableEq

/-- The calls there are, each at its post. -/
abbrev Attendance : Type :=
  Multiset (Post × Cell.Client)

/-- The calls at some post. -/
def clientsAt (post : Post) (clients : Attendance) : Multiset Cell.Client :=
  (clients.filter fun client => client.1 = post).map Prod.snd

section ClientsAt

variable {post other : Post} {client : Cell.Client} {clients : Attendance}

@[simp] theorem clientsAt_cons_self :
    clientsAt post ((post, client) ::ₘ clients) = client ::ₘ clientsAt post clients := by
  simp [clientsAt]

theorem clientsAt_cons_of_ne (different : post ≠ other) :
    clientsAt post ((other, client) ::ₘ clients) = clientsAt post clients := by
  simp [clientsAt, different.symm]

@[simp] theorem mem_clientsAt : client ∈ clientsAt post clients ↔ (post, client) ∈ clients := by
  simp [clientsAt]

end ClientsAt

/-- How a call that has asked for a value stays at a post. -/
def Post.clients {α : Type} (post : Post) (call : Nat) :
    Cell.Standing α → Attendance
  | .found _ => 0
  | .queued => {(post, .waiting call)}
  | .holding => {(post, .working)}

/-- A cell without its value. -/
def Cell.shape {α : Type} (cell : Cell α) : Cell Unit :=
  ⟨cell.value.map fun _ => (), cell.holder, cell.queue⟩

@[simp] theorem Cell.value_shape_eq_none {α : Type} {cell : Cell α} :
    cell.shape.value = none ↔ cell.value = none :=
  Option.map_eq_none_iff

theorem Cell.shape_release {α : Type} (cell : Cell α) :
    cell.release.shape = cell.shape.release := by
  rcases cell with ⟨value, holder, _ | ⟨next, rest⟩⟩ <;> rfl

/-- What asking for the value of a cell does. -/
inductive Cell.Entry {α : Type} (cell : Cell α) (call : Nat) : Cell α → Cell.Standing α → Prop where
  | found {value : α} (known : cell.value = some value) : Entry cell call cell (.found value)
  | queued (empty : cell.value = none) (held : cell.holder ≠ none) :
      Entry cell call { cell with queue := cell.queue ++ [call] } .queued
  | holding (empty : cell.value = none) (free : cell.holder = none) :
      Entry cell call { cell with holder := some call } .holding

theorem Cell.enter_entry {α : Type} (cell : Cell α) (call : Nat) :
    cell.Entry call (cell.enter call).1 (cell.enter call).2 := by
  rcases cell with ⟨_ | value, _ | holder, queue⟩
  · exact .holding rfl rfl
  · exact .queued rfl (Option.some_ne_none _)
  · exact .found rfl
  · exact .found rfl

namespace World

def cellAt (world : World) : Post → Cell Unit
  | .slot slot => (world.registry.cell slot).shape
  | .library engine => (world.library engine).shape
  | .includes target => (world.store.context target).includes.shape

/-- Every cell is served by the calls at it. -/
def Staffed (world : World) (clients : Attendance) : Prop :=
  ∀ post, (world.cellAt post).Served world.nextCall (clientsAt post clients)

namespace Staffed

variable {world after : World} {clients clients' : Attendance} {here : Post}

/-- One cell changes, and who is at it. -/
theorem change (staffed : world.Staffed clients) (here : Post)
    (calls : world.nextCall ≤ after.nextCall)
    (cells : ∀ post ≠ here, after.cellAt post = world.cellAt post)
    (people : ∀ post ≠ here, clientsAt post clients' = clientsAt post clients)
    (served : (after.cellAt here).Served after.nextCall (clientsAt here clients')) :
    after.Staffed clients' := by
  intro post
  by_cases same : post = here
  · subst same
    exact served
  · rw [cells post same, people post same]
    exact (staffed post).mono calls

/-- No cell changes. -/
theorem keep (staffed : world.Staffed clients) (calls : world.nextCall ≤ after.nextCall)
    (cells : ∀ post, after.cellAt post = world.cellAt post) : after.Staffed clients := by
  intro post
  rw [cells post]
  exact (staffed post).mono calls

theorem hold (staffed : world.Staffed clients) (here : Post)
    (calls : after.nextCall = world.nextCall + 1)
    (cells : ∀ post ≠ here, after.cellAt post = world.cellAt post)
    (cell : after.cellAt here = { world.cellAt here with holder := some world.nextCall })
    (empty : (world.cellAt here).value = none) (free : (world.cellAt here).holder = none) :
    after.Staffed ((here, .working) ::ₘ clients) := by
  refine staffed.change here (calls ▸ Nat.le_succ _) cells (fun _ => clientsAt_cons_of_ne) ?_
  rw [cell, calls, clientsAt_cons_self]
  exact (staffed here).hold empty free

theorem enqueue (staffed : world.Staffed clients) (here : Post)
    (calls : after.nextCall = world.nextCall + 1)
    (cells : ∀ post ≠ here, after.cellAt post = world.cellAt post)
    (cell : after.cellAt here =
      { world.cellAt here with queue := (world.cellAt here).queue ++ [world.nextCall] })
    (empty : (world.cellAt here).value = none) (held : (world.cellAt here).holder ≠ none) :
    after.Staffed ((here, .waiting world.nextCall) ::ₘ clients) := by
  refine staffed.change here (calls ▸ Nat.le_succ _) cells (fun _ => clientsAt_cons_of_ne) ?_
  rw [cell, calls, clientsAt_cons_self]
  exact (staffed here).enqueue empty held

/-- A call asks for the value of a cell. -/
theorem enter {α : Type} {cell cell' : Cell α} {standing : Cell.Standing α}
    (staffed : world.Staffed clients) (entry : cell.Entry world.nextCall cell' standing)
    (calls : after.nextCall = world.nextCall + 1)
    (cells : ∀ post ≠ here, after.cellAt post = world.cellAt post)
    (before : world.cellAt here = cell.shape) (behind : after.cellAt here = cell'.shape) :
    after.Staffed (here.clients world.nextCall standing + clients) := by
  cases entry with
  | found known =>
    rw [Post.clients, Multiset.zero_add]
    refine staffed.keep (calls ▸ Nat.le_succ _) fun post => ?_
    by_cases same : post = here
    · rw [same, before, behind]
    · exact cells post same
  | queued empty held =>
    rw [Post.clients, Multiset.singleton_add]
    refine staffed.enqueue here calls cells ?_ ?_ ?_
    · rw [before, behind]
      rfl
    · rw [before]
      exact Cell.value_shape_eq_none.mpr empty
    · rw [before]
      exact held
  | holding empty free =>
    rw [Post.clients, Multiset.singleton_add]
    refine staffed.hold here calls cells ?_ ?_ ?_
    · rw [before, behind]
      rfl
    · rw [before]
      exact Cell.value_shape_eq_none.mpr empty
    · rw [before]
      exact free

theorem leave {call : Nat} (staffed : world.Staffed ((here, .waiting call) ::ₘ clients))
    (known : (world.cellAt here).value ≠ none) : world.Staffed clients := by
  refine staffed.change here (Nat.le_refl _) (fun _ _ => rfl)
    (fun _ different => (clientsAt_cons_of_ne different).symm) ?_
  have served := staffed here
  rw [clientsAt_cons_self] at served
  exact served.leave known

theorem takeOver {call : Nat} (staffed : world.Staffed ((here, .waiting call) ::ₘ clients))
    (empty : (world.cellAt here).value = none)
    (held : (world.cellAt here).holder = some call) :
    world.Staffed ((here, .working) ::ₘ clients) := by
  refine staffed.change here (Nat.le_refl _) (fun _ _ => rfl)
    (fun _ different => ?_) ?_
  · rw [clientsAt_cons_of_ne different, clientsAt_cons_of_ne different]
  · have served := staffed here
    rw [clientsAt_cons_self] at served ⊢
    exact served.takeOver empty held

theorem fill (staffed : world.Staffed ((here, .working) ::ₘ clients))
    (calls : world.nextCall ≤ after.nextCall)
    (cells : ∀ post ≠ here, after.cellAt post = world.cellAt post)
    (cell : after.cellAt here = (world.cellAt here).fill ()) : after.Staffed clients := by
  refine staffed.change here calls cells
    (fun _ different => (clientsAt_cons_of_ne different).symm) ?_
  have served := staffed here
  rw [clientsAt_cons_self] at served
  rw [cell]
  exact (served.fill ()).mono calls

theorem release (staffed : world.Staffed ((here, .working) ::ₘ clients))
    (calls : world.nextCall ≤ after.nextCall)
    (cells : ∀ post ≠ here, after.cellAt post = world.cellAt post)
    (cell : after.cellAt here = (world.cellAt here).release) : after.Staffed clients := by
  refine staffed.change here calls cells
    (fun _ different => (clientsAt_cons_of_ne different).symm) ?_
  have served := staffed here
  rw [clientsAt_cons_self] at served
  rw [cell]
  exact served.release.mono calls

/-- Where somebody is at work there is no value yet. -/
theorem empty_of_working (staffed : world.Staffed clients) (working : (here, .working) ∈ clients) :
    (world.cellAt here).value = none :=
  (staffed here).empty_of_working (mem_clientsAt.mpr working)

theorem taken {client : Cell.Client} (staffed : world.Staffed clients)
    (listed : (here, client) ∈ clients) :
    (world.cellAt here).value ≠ none ∨ (world.cellAt here).holder ≠ none :=
  (staffed here).taken (mem_clientsAt.mpr listed)

/-- A slot at which somebody is has been made. -/
theorem slot_known {slot : SlotId} {client : Cell.Client} (staffed : world.Staffed clients)
    (listed : (.slot slot, client) ∈ clients) : slot < world.registry.slots.length := by
  rcases Nat.lt_or_ge slot world.registry.slots.length with known | unknown
  · exact known
  · have taken := staffed.taken listed
    simp [cellAt, Registry.cell_of_unknown unknown, Cell.empty, Cell.shape] at taken

end Staffed

/-- Order in a state with calls at its posts. The owners are the keys to which the slots belong. -/
structure Orderly (owners : List String) (clients : Attendance) (world : World) :
    Prop where
  staffed : world.Staffed clients
  owned : owners.length = world.registry.slots.length
  current : ∀ {key : String} {slot : SlotId}, world.registry.slot? key = some slot →
    owners[slot]? = some key
  stored : ∀ {slot : SlotId} {id : ContextId}, (world.registry.cell slot).value = some id →
    (world.store.context id).key = owners[slot]?
  linked : world.store.Linked

/-- Nothing is forgotten from one state to another. -/
structure Onward (before after : World) : Prop where
  config : after.config = before.config
  libraries : after.libraries.length = before.libraries.length
  store : before.store.Grows after.store
  shows : ∀ {key : String} {slot : SlotId} {id : ContextId},
    before.registry.Shows key slot id → after.registry.Shows key slot id

namespace Onward

theorem refl (world : World) : Onward world world :=
  ⟨rfl, rfl, .refl _, id⟩

theorem trans {first second third : World} (left : Onward first second)
    (right : Onward second third) : Onward first third where
  config := right.config.trans left.config
  libraries := right.libraries.trans left.libraries
  store := left.store.trans right.store
  shows shown := right.shows (left.shows shown)

theorem get? {before after : World} (onward : Onward before after) {key : String} {id : ContextId}
    (stored : before.registry.get? key = some id) : after.registry.get? key = some id := by
  rw [Registry.get?_eq_some_iff] at stored ⊢
  obtain ⟨slot, shown⟩ := stored
  exact ⟨slot, onward.shows shown⟩

end Onward

/-- Something is done that leaves order and forgets nothing. -/
structure Leads (owners : List String) (world : World) (owners' : List String) (after : World)
    (clients : Attendance) : Prop where
  orderly : after.Orderly owners' clients
  owners : owners <+: owners'
  onward : world.Onward after

theorem Leads.refl {owners : List String} {world : World} {clients : Attendance}
    (orderly : world.Orderly owners clients) : Leads owners world owners world clients :=
  ⟨orderly, List.prefix_rfl, .refl _⟩

/-- What is done next. -/
theorem Leads.trans {owners owners' owners'' : List String} {world next after : World}
    {clients clients' : Attendance} (left : Leads owners world owners' next clients)
    (right : Leads owners' next owners'' after clients') :
    Leads owners world owners'' after clients' :=
  ⟨right.orderly, left.owners.trans right.owners, left.onward.trans right.onward⟩

@[simp] theorem library_initial (config : Config) (source : Source) (engines engine : Nat) :
    (initial config source engines).library engine = .empty := by
  simp only [library, initial, List.getD_eq_getElem?_getD, List.getElem?_replicate]
  split <;> rfl

theorem orderly_initial (config : Config) (source : Source) (engines : Nat) :
    (initial config source engines).Orderly [] 0 where
  staffed post := by
    refine .free ?_ rfl
    cases post with
    | slot slot => rfl
    | library engine =>
      rw [cellAt, library_initial]
      rfl
    | includes target => rfl
  owned := rfl
  current := nofun
  stored := nofun
  linked := nofun

namespace Orderly

variable {owners : List String} {clients clients' : Attendance} {world : World}

/-- A document that is stored has a key. -/
theorem stored_keyed (orderly : world.Orderly owners clients) {slot : SlotId} {id : ContextId}
    (filled : (world.registry.cell slot).value = some id) :
    (world.store.context id).key ≠ none := by
  have known : slot < owners.length := orderly.owned ▸ Registry.known_of_value filled
  rw [orderly.stored filled, List.getElem?_eq_getElem known]
  exact Option.some_ne_none _

/-- A document that is stored under a key has the key. -/
theorem key_of_get? (orderly : world.Orderly owners clients) {key : String} {id : ContextId}
    (stored : world.registry.get? key = some id) : (world.store.context id).key = some key := by
  obtain ⟨slot, shown⟩ := Registry.get?_eq_some_iff.mp stored
  exact (orderly.stored shown.2).trans (orderly.current shown.1)

theorem keyed_of_get? (orderly : world.Orderly owners clients) {key : String} {id : ContextId}
    (stored : world.registry.get? key = some id) : (world.store.context id).key ≠ none := by
  rw [orderly.key_of_get? stored]
  exact Option.some_ne_none _

/-- Who is at the posts changes, and nothing else. -/
theorem restaff (orderly : world.Orderly owners clients) (staffed : world.Staffed clients') :
    Leads owners world owners world clients' :=
  ⟨{ orderly with staffed }, List.prefix_rfl, .refl _⟩

/-- Time passes, numbers are given out, or something is fetched. -/
theorem later (orderly : world.Orderly owners clients) {after : World}
    (registry : after.registry = world.registry) (store : after.store = world.store)
    (libraries : after.libraries = world.libraries) (config : after.config = world.config)
    (calls : world.nextCall ≤ after.nextCall) : Leads owners world owners after clients := by
  rcases after with ⟨clock, config', source, attempts, log, store', registry', libraries', nextCall⟩
  subst registry store libraries config
  refine ⟨?_, List.prefix_rfl, rfl, rfl, .refl _, id⟩
  refine { orderly with staffed := orderly.staffed.keep calls fun post => ?_ }
  cases post <;> rfl

/-- Documents are added or change, but not what they include. -/
theorem changeStore (orderly : world.Orderly owners clients) {store : Store}
    (grows : world.store.Grows store)
    (links : ∀ id, (store.context id).includes = (world.store.context id).includes) :
    Leads owners world owners { world with store } clients where
  orderly :=
    { orderly with
      staffed := orderly.staffed.keep (Nat.le_refl _) fun post => by
        cases post with
        | slot slot => rfl
        | library engine => rfl
        | includes target => simp only [cellAt, links]
      stored := fun filled => by
        rw [grows.key (orderly.stored_keyed filled)]
        exact orderly.stored filled
      linked := fun {id ids} known other listed => by
        rw [links] at known
        exact grows.key_ne_none (orderly.linked known other listed) }
  owners := List.prefix_rfl
  onward := ⟨rfl, rfl, grows, id⟩

/-- A document is added of which nothing has been resolved. -/
theorem addContext (orderly : world.Orderly owners clients) (key : Option String) (root : Root) :
    Leads owners world owners (world.addContext (.fresh key root)).1 clients := by
  have links (id : ContextId) :
      ((world.store.add (.fresh key root)).1.context id).includes =
        (world.store.context id).includes := by
    rcases Nat.lt_trichotomy id world.store.length with known | rfl | unknown
    · rw [Store.context_add_of_lt known]
    · rw [Store.context_add_self, Store.context_of_le (Nat.le_refl _)]
      rfl
    · have unknown' : (world.store.add (.fresh key root)).1.length ≤ id := by
        simpa [Store.add] using Nat.succ_le_of_lt unknown
      rw [Store.context_of_le unknown', Store.context_of_le (Nat.le_of_lt unknown)]
  exact orderly.changeStore (world.store.grows_add _) links

section Slots

variable {slot : SlotId} {key : String}

/-- The cells of a state when only a slot changes. -/
private theorem cellAt_of_slot {after : World} (store : after.store = world.store)
    (libraries : after.libraries = world.libraries)
    (cells : ∀ other ≠ slot, after.registry.cell other = world.registry.cell other)
    (post : Post) (different : post ≠ .slot slot) : after.cellAt post = world.cellAt post := by
  cases post with
  | slot other => rw [cellAt, cells other fun same => different (congrArg Post.slot same), cellAt]
  | library engine => simp only [cellAt, library, libraries]
  | includes target => rw [cellAt, store, cellAt]

/-- A call asks for a key. A slot made for it belongs to the key. -/
theorem arrive (orderly : world.Orderly owners clients) {registry : Registry}
    {standing : Cell.Standing ContextId}
    (arrival : world.registry.Arrival key world.nextCall registry slot standing) :
    ∃ owners', Leads owners world owners'
        { world with registry, nextCall := world.nextCall + 1 }
        ((Post.slot slot).clients world.nextCall standing + clients) ∧
      owners'[slot]? = some key := by
  have values := arrival.sameDocuments.values
  have onward : world.Onward { world with registry, nextCall := world.nextCall + 1 } :=
    ⟨rfl, rfl, .refl _, (arrival.sameDocuments.shows _ _ _).mpr⟩
  -- A slot that the key has already keeps its owner, whatever becomes of its cell.
  have there {cell : Cell ContextId} (current : world.registry.slot? key = some slot)
      (entry : (world.registry.cell slot).Entry world.nextCall cell standing)
      (same : registry = world.registry.setCell slot cell) :
      ∃ owners', Leads owners world owners'
          { world with registry, nextCall := world.nextCall + 1 }
          ((Post.slot slot).clients world.nextCall standing + clients) ∧
        owners'[slot]? = some key := by
    subst same
    have owner := orderly.current current
    have known : slot < world.registry.slots.length := by
      rw [← orderly.owned]
      exact (List.getElem?_eq_some_iff.mp owner).1
    refine ⟨owners, ⟨⟨?_, ?_, orderly.current, ?_, orderly.linked⟩, List.prefix_rfl, onward⟩, owner⟩
    · refine orderly.staffed.enter entry rfl ?_ rfl ?_
      · refine cellAt_of_slot rfl rfl fun other different => ?_
        exact Registry.cell_setCell_of_ne _ _ _ different
      · simp only [cellAt, Registry.cell_setCell_self _ _ _ known]
    · rw [Registry.length_setCell, orderly.owned]
    · intro other id filled
      rw [values] at filled
      exact orderly.stored filled
  cases arrival with
  | found shown => exact there shown.1 (.found shown.2) (Registry.setCell_cell _ _).symm
  | queued current empty held =>
    exact there current (.queued empty (by simp [held])) rfl
  | holding current empty free => exact there current (.holding empty free) rfl
  | claimed missing =>
    have cell := Registry.cell_claimed world.registry
      (world.registry.table ++ [(key, world.registry.slots.length)]) world.nextCall
    have unused := Registry.cell_of_unknown (Nat.le_refl world.registry.slots.length)
    have older {other : SlotId} {owner : String} (owned : owners[other]? = some owner) :
        (owners ++ [key])[other]? = some owner := by
      rw [List.getElem?_append_left (List.getElem?_eq_some_iff.mp owned).1, owned]
    have newest : (owners ++ [key])[world.registry.slots.length]? = some key := by
      rw [← orderly.owned, List.getElem?_concat_length]
    refine ⟨owners ++ [key], ⟨⟨?_, ?_, ?_, ?_, orderly.linked⟩, List.prefix_append _ _, onward⟩,
      newest⟩
    · have entry : (Cell.empty : Cell ContextId).Entry world.nextCall _ .holding := .holding rfl rfl
      refine orderly.staffed.enter entry rfl ?_ ?_ ?_
      · refine cellAt_of_slot rfl rfl fun other different => ?_
        rw [cell, if_neg different]
      · rw [cellAt, unused]
      · simp only [cellAt, cell, if_pos]
        rfl
    · rw [List.length_append, List.length_append, orderly.owned]
      rfl
    · intro other slot current
      rw [Registry.slot?_claimed missing] at current
      split at current
      · next same =>
        cases current
        rw [same]
        exact newest
      · exact older (orderly.current current)
    · intro slot id filled
      rw [values] at filled
      have known := Registry.known_of_value filled
      rw [List.getElem?_append_left (by rwa [orderly.owned])]
      exact orderly.stored filled

/-- The call that works for a slot fills it with a document of the owner. -/
theorem succeed (orderly : world.Orderly owners ((.slot slot, .working) ::ₘ clients))
    {id : ContextId} (key : (world.store.context id).key = owners[slot]?) :
    Leads owners world owners { world with registry := world.registry.succeed slot id }
      clients := by
  have working := Multiset.mem_cons_self (Post.slot slot, Cell.Client.working) clients
  have known := orderly.staffed.slot_known working
  have empty := Cell.value_shape_eq_none.mp (orderly.staffed.empty_of_working working)
  refine ⟨⟨?_, ?_, orderly.current, ?_, orderly.linked⟩, List.prefix_rfl, rfl, rfl, .refl _, ?_⟩
  · refine orderly.staffed.fill (Nat.le_refl _) ?_ ?_
    · refine cellAt_of_slot rfl rfl fun other different => ?_
      rw [Registry.cell_succeed known, if_neg different]
    · simp only [cellAt, Registry.cell_succeed known, if_pos]
      rfl
  · rw [Registry.succeed, Registry.length_setCell, orderly.owned]
  · intro other stored filled
    rw [Registry.cell_succeed known] at filled
    split at filled
    · next here =>
      cases filled
      rw [key, here]
    · exact orderly.stored filled
  · exact fun shown => shown.succeed empty id

/-- The call that works for a slot fails. -/
theorem fail (orderly : world.Orderly owners ((.slot slot, .working) ::ₘ clients)) (key : String) :
    Leads owners world owners { world with registry := world.registry.fail key slot } clients := by
  classical
  have known := orderly.staffed.slot_known (Multiset.mem_cons_self _ _)
  have same := world.registry.fail_sameDocuments key slot
  refine ⟨⟨?_, ?_, ?_, ?_, orderly.linked⟩, List.prefix_rfl, rfl, rfl, .refl _,
    (same.shows _ _ _).mpr⟩
  · refine orderly.staffed.release (Nat.le_refl _) ?_ ?_
    · refine cellAt_of_slot rfl rfl fun other different => ?_
      rw [Registry.cell_fail, Registry.cell_setCell_of_ne _ _ _ different]
    · simp only [cellAt, Registry.cell_fail, Registry.cell_setCell_self _ _ _ known,
        Cell.shape_release]
  · rw [Registry.fail_eq, Registry.length_setCell, orderly.owned]
  · intro other slot current
    rw [Registry.slot?_fail] at current
    split at current
    · cases current
    · exact orderly.current current
  · intro other id filled
    rw [same.values] at filled
    exact orderly.stored filled

end Slots

section Libraries

variable {engine : Nat} {cell : Cell (List LibraryEntry)}

theorem library_setLibrary_self (known : engine < world.libraries.length) :
    (world.setLibrary engine cell).library engine = cell := by
  simp only [library, setLibrary, List.getD_eq_getElem?_getD, List.getElem?_set_self known,
    Option.getD_some]

theorem library_setLibrary_of_ne {other : Nat} (different : other ≠ engine) :
    (world.setLibrary engine cell).library other = world.library other := by
  simp only [library, setLibrary, List.getD_eq_getElem?_getD, List.getElem?_set_ne different.symm]

theorem cellAt_setLibrary_of_ne (post : Post) (different : post ≠ .library engine) :
    (world.setLibrary engine cell).cellAt post = world.cellAt post := by
  cases post with
  | slot slot => rfl
  | library other =>
    rw [cellAt, library_setLibrary_of_ne fun same => different (congrArg Post.library same), cellAt]
  | includes target => rfl

/-- Something is done to a listing, perhaps with a new number. -/
theorem setLibrary (orderly : world.Orderly owners clients) {nextCall : Nat}
    (staffed : (World.setLibrary { world with nextCall } engine cell).Staffed clients') :
    Leads owners world owners (World.setLibrary { world with nextCall } engine cell) clients' :=
  ⟨{ orderly with staffed }, List.prefix_rfl, rfl, List.length_set, .refl _, id⟩

end Libraries

section Includes

variable {target : ContextId} {cell : Cell (List ContextId)}

theorem cellAt_setIncludes_of_ne (post : Post) (different : post ≠ .includes target) :
    cellAt { world with store := world.store.update target fun context =>
      { context with includes := cell } } post = world.cellAt post := by
  cases post with
  | slot slot => rfl
  | library engine => rfl
  | includes other =>
    have different : other ≠ target := fun same => different (congrArg Post.includes same)
    simp only [cellAt, Store.context_update_of_ne different]

/-- Something is done to includes that are not known, perhaps with a new number. -/
theorem setIncludes (orderly : world.Orderly owners clients) {nextCall : Nat}
    (known : target < world.store.length)
    (unknown : (world.store.context target).includes.value = none) (taken : cell.IsTaken)
    (keyed : ∀ ids, cell.value = some ids → ∀ id ∈ ids, (world.store.context id).key ≠ none)
    (staffed : Staffed { world with
      store := world.store.update target fun context => { context with includes := cell }
      nextCall } clients') :
    Leads owners world owners { world with
      store := world.store.update target fun context => { context with includes := cell }
      nextCall } clients' := by
  have grows : world.store.Grows (world.store.update target fun context =>
      { context with includes := cell }) := Store.grows_update (.withIncludes unknown taken)
  refine ⟨⟨staffed, orderly.owned, orderly.current, ?_, ?_⟩, List.prefix_rfl, rfl, rfl, grows, id⟩
  · intro slot id filled
    rw [grows.key (orderly.stored_keyed filled)]
    exact orderly.stored filled
  · intro id ids value other listed
    apply grows.key_ne_none
    by_cases here : id = target
    · subst here
      rw [Store.context_update_self known] at value
      exact keyed ids value other listed
    · rw [Store.context_update_of_ne here] at value
      exact orderly.linked value other listed

end Includes

end Orderly

end World

end DiagramAssist
