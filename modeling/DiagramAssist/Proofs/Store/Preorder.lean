import DiagramAssist.Proofs.Store.Contexts
import Mathlib.Data.Finset.Card
import Mathlib.Logic.Relation

/-! # The depth-first preorder of an include graph

Documents include each other in any way, along cycles too. The preorder of the graph starts with a
document and goes on with what lies below its includes, in the order in which they are written;
a document whose key has been entered is skipped. As long as every key stands for one document, the
preorder exists (`IncludeGraph.exists_preorder`), it is unique (`Preorder.unique`), and it lists
every reachable document (`IncludeGraph.mem_preorder_iff`) just once
(`IncludeGraph.nodup_preorder`).
-/

namespace DiagramAssist.Store

/-- Whether a document can be reached from another along includes. -/
def Reachable (graph : ContextId → List ContextId) : ContextId → ContextId → Prop :=
  Relation.ReflTransGen fun id target => target ∈ graph id

/-- The include graph below a document of the store. The includes that the store knows are those of
the graph; whatever is included has a key, which only the document itself may lack; and there is one
document for a key. -/
structure IncludeGraph (store : Store) (start : ContextId) (graph : ContextId → List ContextId) :
    Prop where
  known : start < store.length
  resolved : ∀ {id : ContextId} {includes : List ContextId}, Reachable graph start id →
    (store.context id).includes.value = some includes → includes = graph id
  keyed : ∀ {id target : ContextId}, Reachable graph start id → target ∈ graph id →
    (store.context target).key ≠ none
  once : ∀ {id other : ContextId}, Reachable graph start id → Reachable graph start other →
    (store.context id).key ≠ none → (store.context id).key = (store.context other).key → id = other

/-- The order in which a depth-first search enters documents when it visits some of them in turn and
has been at the keys of others. -/
inductive Preorder (store : Store) (graph : ContextId → List ContextId) :
    (seen ids order : List ContextId) → Prop where
  | nil {seen : List ContextId} : Preorder store graph seen [] []
  | skip {seen rest order : List ContextId} {id : ContextId} (known : store.isSeen seen id = true)
      (along : Preorder store graph seen rest order) : Preorder store graph seen (id :: rest) order
  | enter {seen rest below order : List ContextId} {id : ContextId}
      (new : store.isSeen seen id = false)
      (down : Preorder store graph (id :: seen) (graph id) below)
      (along : Preorder store graph (below.reverse ++ id :: seen) rest order) :
      Preorder store graph seen (id :: rest) (id :: (below ++ order))

section Seen

variable {store : Store} {seen more : List ContextId} {id : ContextId}

theorem isSeen_iff : store.isSeen seen id = true ↔
    (store.context id).key ≠ none ∧
      ∃ other ∈ seen, (store.context other).key = (store.context id).key := by
  simp only [isSeen]
  cases (store.context id).key with
  | none => simp
  | some key => simp

theorem isSeen_mono (subset : seen ⊆ more) (known : store.isSeen seen id = true) :
    store.isSeen more id = true := by
  obtain ⟨keyed, other, member, same⟩ := isSeen_iff.mp known
  exact isSeen_iff.mpr ⟨keyed, other, subset member, same⟩

theorem isSeen_anti (subset : seen ⊆ more) (new : store.isSeen more id = false) :
    store.isSeen seen id = false := by
  rw [Bool.eq_false_iff] at new ⊢
  exact fun known => new (isSeen_mono subset known)

theorem isSeen_of_mem (keyed : (store.context id).key ≠ none) (member : id ∈ seen) :
    store.isSeen seen id = true :=
  isSeen_iff.mpr ⟨keyed, id, member, rfl⟩

end Seen

namespace Preorder

variable {store : Store} {graph : ContextId → List ContextId} {seen ids order : List ContextId}

theorem unique {other : List ContextId} (preorder : Preorder store graph seen ids order)
    (preorder' : Preorder store graph seen ids other) : order = other := by
  induction preorder generalizing other with
  | nil =>
    cases preorder'
    rfl
  | skip known along ih =>
    cases preorder' with
    | skip known' along' => exact ih along'
    | enter new' down' along' =>
      rw [known] at new'
      cases new'
  | enter new down along ihDown ihAlong =>
    cases preorder' with
    | skip known' along' =>
      rw [new] at known'
      cases known'
    | enter new' down' along' =>
      cases ihDown down'
      rw [ihAlong along']

/-- Whatever is entered lies below one of the documents visited. -/
theorem reachable (preorder : Preorder store graph seen ids order) {found : ContextId}
    (member : found ∈ order) : ∃ id ∈ ids, Reachable graph id found := by
  induction preorder with
  | nil => cases member
  | skip known along ih =>
    obtain ⟨id, listed, path⟩ := ih member
    exact ⟨id, List.mem_cons_of_mem _ listed, path⟩
  | @enter seen rest below order id new down along ihDown ihAlong =>
    rcases List.mem_cons.mp member with rfl | member
    · exact ⟨found, List.mem_cons_self, .refl⟩
    · rcases List.mem_append.mp member with member | member
      · obtain ⟨target, listed, path⟩ := ihDown member
        exact ⟨id, List.mem_cons_self, .head listed path⟩
      · obtain ⟨other, listed, path⟩ := ihAlong member
        exact ⟨other, List.mem_cons_of_mem _ listed, path⟩

/-- What is entered has a key at which the search has not been. -/
theorem isNew (preorder : Preorder store graph seen ids order) {found : ContextId}
    (member : found ∈ order) : store.isSeen seen found = false := by
  induction preorder with
  | nil => cases member
  | skip known along ih => exact ih member
  | enter new down along ihDown ihAlong =>
    rcases List.mem_cons.mp member with rfl | member
    · exact new
    · rcases List.mem_append.mp member with member | member
      · exact isSeen_anti (List.subset_cons_self _ _) (ihDown member)
      · refine isSeen_anti ?_ (ihAlong member)
        exact List.Subset.trans (List.subset_cons_self _ _) (List.subset_append_right _ _)

/-- No key is entered twice. -/
theorem pairwise (preorder : Preorder store graph seen ids order) :
    order.Pairwise fun earlier later => store.isSeen [earlier] later = false := by
  induction preorder with
  | nil => exact .nil
  | skip known along ih => exact ih
  | @enter seen rest below order id new down along ihDown ihAlong =>
    rw [List.pairwise_cons, List.pairwise_append]
    refine ⟨?_, ihDown, ihAlong, ?_⟩
    · intro later member
      rcases List.mem_append.mp member with member | member
      · exact isSeen_anti (by simp) (down.isNew member)
      · exact isSeen_anti (by simp) (along.isNew member)
    · intro earlier member later member'
      exact isSeen_anti (by simp [member]) (along.isNew member')

/-- What the search has been at, after a document, what lies below it and what comes behind. -/
private theorem reverse_enter (id : ContextId) (below order seen : List ContextId) :
    (id :: (below ++ order)).reverse ++ seen = order.reverse ++ (below.reverse ++ id :: seen) := by
  simp

/-- All documents visited are entered, unless the search has been at their keys. -/
theorem covers (preorder : Preorder store graph seen ids order) {id : ContextId}
    (listed : id ∈ ids) : id ∈ order ∨ store.isSeen (order.reverse ++ seen) id = true := by
  induction preorder with
  | nil => cases listed
  | skip known along ih =>
    rcases List.mem_cons.mp listed with rfl | listed
    · exact .inr (isSeen_mono (List.subset_append_right _ _) known)
    · exact ih listed
  | enter new down along ihDown ihAlong =>
    rcases List.mem_cons.mp listed with rfl | listed
    · exact .inl List.mem_cons_self
    · rw [reverse_enter]
      rcases ihAlong listed with member | known
      · exact .inl (List.mem_cons_of_mem _ (List.mem_append_right _ member))
      · exact .inr known

/-- What a search has entered is closed under includes when the search is over. A document may be
skipped while it is still being searched; whoever entered it follows its includes. -/
theorem closed (preorder : Preorder store graph seen ids order) {id target : ContextId}
    (member : id ∈ order) (edge : target ∈ graph id) :
    target ∈ order ∨ store.isSeen (order.reverse ++ seen) target = true := by
  induction preorder with
  | nil => cases member
  | skip known along ih => exact ih member
  | @enter seen rest below order first new down along ihDown ihAlong =>
    rw [reverse_enter]
    have fromDown (reached : target ∈ below ∨
        store.isSeen (below.reverse ++ first :: seen) target = true) :
        target ∈ first :: (below ++ order) ∨
          store.isSeen (order.reverse ++ (below.reverse ++ first :: seen)) target = true := by
      rcases reached with entered | known
      · exact .inl (List.mem_cons_of_mem _ (List.mem_append_left _ entered))
      · exact .inr (isSeen_mono (List.subset_append_right _ _) known)
    rcases List.mem_cons.mp member with rfl | member
    · exact fromDown (down.covers edge)
    · rcases List.mem_append.mp member with member | member
      · exact fromDown (ihDown member)
      · rcases ihAlong member with entered | known
        · exact .inl (List.mem_cons_of_mem _ (List.mem_append_right _ entered))
        · exact .inr known

end Preorder

/-- A document that is not in the store has no key. -/
theorem lt_length_of_key {store : Store} {id : ContextId} (keyed : (store.context id).key ≠ none) :
    id < store.length := by
  rcases Nat.lt_or_ge id store.length with known | unknown
  · exact known
  · rw [context_of_le unknown] at keyed
    exact (keyed rfl).elim

/-- What a store knows of its includes is a graph if the keys of its documents are different and
whatever is included has one. -/
theorem includeGraph_of_distinct {store : Store}
    (keyed : ∀ context ∈ store, ∀ target ∈ context.includes.value.getD [],
      (store.context target).key ≠ none)
    (distinct : store.Pairwise fun first second => first.key = none ∨ first.key ≠ second.key)
    {start : ContextId} (known : start < store.length) :
    store.IncludeGraph start fun id => (store.context id).includes.value.getD [] where
  known := known
  resolved _ value := by rw [value, Option.getD_some]
  keyed {id target} _ edge := by
    rcases Nat.lt_or_ge id store.length with known | unknown
    · rw [context_of_lt known] at edge
      exact keyed _ (List.getElem_mem known) target edge
    · rw [context_of_le unknown] at edge
      cases edge
  once {id other} _ _ keyed same := by
    have known := lt_length_of_key keyed
    have known' : other < store.length := lt_length_of_key (same ▸ keyed)
    have different {first second : Nat} (known : first < store.length)
        (known' : second < store.length) (before : first < second)
        (keyed : (store.context first).key ≠ none) :
        (store.context first).key ≠ (store.context second).key := by
      have pair := List.pairwise_iff_getElem.mp distinct first second known known' before
      rw [context_of_lt known] at keyed ⊢
      rw [context_of_lt known']
      exact pair.resolve_left keyed
    rcases Nat.lt_trichotomy id other with before | here | behind
    · exact (different known known' before keyed same).elim
    · exact here
    · exact (different known' known behind (same ▸ keyed) same.symm).elim

/-- An unsaved document that includes `a` and `b`. Both include `c`, which includes `a` again, and
`a` includes itself too. -/
def diamond : Store :=
  let callable : Callable := ⟨.function, ⟨"f", default⟩, [], .text none, default⟩
  let inner : Declaration := ⟨"x", .variable .local, default⟩
  let global : Declaration := ⟨"y", .variable .global, default⟩
  [⟨none, default, some ⟨[inner], [], [⟨"z", default⟩], []⟩, ⟨some [1, 2], none, []⟩⟩,
    ⟨some "a", default, some ⟨[inner, global], [], [], []⟩, ⟨some [3, 1], none, []⟩⟩,
    ⟨some "b", default, some ⟨[], [callable], [], []⟩, ⟨some [3], none, []⟩⟩,
    ⟨some "c", default, some ⟨[global], [callable], [⟨"z", default⟩], []⟩, ⟨some [1], none, []⟩⟩]

theorem includeGraph_diamond :
    diamond.IncludeGraph 0 fun id => (diamond.context id).includes.value.getD [] :=
  includeGraph_of_distinct (by decide) (by decide) (by decide)

/-- The documents at whose keys a search has not been. -/
private def unseen (store : Store) (seen : List ContextId) : Finset ContextId :=
  (Finset.range store.length).filter fun id => store.isSeen seen id = false

private theorem card_unseen_cons {store : Store} {seen : List ContextId} {id : ContextId}
    (keyed : (store.context id).key ≠ none) (new : store.isSeen seen id = false) :
    (store.unseen (id :: seen)).card < (store.unseen seen).card := by
  apply Finset.card_lt_card
  rw [Finset.ssubset_iff_of_subset]
  · refine ⟨id, ?_, ?_⟩
    · simp [unseen, new, lt_length_of_key keyed]
    · simp [unseen, isSeen_of_mem keyed List.mem_cons_self]
  · intro other member
    simp only [unseen, Finset.mem_filter] at member ⊢
    exact ⟨member.1, isSeen_anti (List.subset_cons_self _ _) member.2⟩

private theorem card_unseen_append (store : Store) (more seen : List ContextId) :
    (store.unseen (more ++ seen)).card ≤ (store.unseen seen).card := by
  apply Finset.card_le_card
  intro other member
  simp only [unseen, Finset.mem_filter] at member ⊢
  exact ⟨member.1, isSeen_anti (List.subset_append_right _ _) member.2⟩

namespace IncludeGraph

variable {store : Store} {start : ContextId} {graph : ContextId → List ContextId}

theorem keyed_of_reachable (includes : store.IncludeGraph start graph) {id target : ContextId}
    (reached : Reachable graph start id) (edge : target ∈ graph id) {found : ContextId}
    (path : Reachable graph target found) : (store.context found).key ≠ none := by
  rcases path.cases_tail with rfl | ⟨last, path, edge'⟩
  · exact includes.keyed reached edge
  · exact includes.keyed ((reached.tail edge).trans path) edge'

theorem lt_length (includes : store.IncludeGraph start graph) {id : ContextId}
    (reached : Reachable graph start id) : id < store.length := by
  rcases reached.cases_tail with rfl | ⟨last, reached, edge⟩
  · exact includes.known
  · exact lt_length_of_key (includes.keyed reached edge)

/-- Among documents with keys every step of a search is at a new key or leaves a shorter list. -/
private theorem exists_preorder_below (includes : store.IncludeGraph start graph) (bound : Nat)
    {seen ids : List ContextId} (enough : (store.unseen seen).card < bound)
    (reached : ∀ id ∈ ids, Reachable graph start id)
    (keyed : ∀ id ∈ ids, (store.context id).key ≠ none) :
    ∃ order, Preorder store graph seen ids order := by
  induction bound generalizing seen ids with
  | zero => cases enough
  | succ bound ihBound =>
    induction ids with
    | nil => exact ⟨[], .nil⟩
    | cons id rest ihRest =>
      have reachedRest : ∀ other ∈ rest, Reachable graph start other := fun other listed =>
        reached other (List.mem_cons_of_mem _ listed)
      have keyedRest : ∀ other ∈ rest, (store.context other).key ≠ none := fun other listed =>
        keyed other (List.mem_cons_of_mem _ listed)
      cases known : store.isSeen seen id with
      | true =>
        obtain ⟨order, along⟩ := ihRest reachedRest keyedRest
        exact ⟨order, .skip known along⟩
      | false =>
        have here := reached id List.mem_cons_self
        have fewer := card_unseen_cons (keyed id List.mem_cons_self) known
        have fewerBelow : (store.unseen (id :: seen)).card < bound := by omega
        obtain ⟨below, down⟩ := ihBound fewerBelow (fun target edge => here.tail edge)
          (fun target edge => includes.keyed here edge)
        have fewerBehind : (store.unseen (below.reverse ++ id :: seen)).card < bound :=
          Nat.lt_of_le_of_lt (store.card_unseen_append below.reverse (id :: seen)) fewerBelow
        obtain ⟨order, along⟩ := ihBound fewerBehind reachedRest keyedRest
        exact ⟨id :: (below ++ order), .enter known down along⟩

/-- A search from the document itself: it is entered first, whether it has a key or not. -/
theorem exists_preorder (includes : store.IncludeGraph start graph) :
    ∃ below, Preorder store graph [start] (graph start) below ∧
      Preorder store graph [] [start] (start :: below) := by
  obtain ⟨below, down⟩ := includes.exists_preorder_below _ (Nat.lt_succ_self _)
    (fun target edge => .single edge) (fun target edge => includes.keyed .refl edge)
  have new : store.isSeen [] start = false := by
    rw [Bool.eq_false_iff, ne_eq, isSeen_iff]
    rintro ⟨-, other, member, -⟩
    cases member
  have whole := Preorder.enter new down .nil
  rw [List.append_nil] at whole
  exact ⟨below, down, whole⟩

variable {order : List ContextId}

/-- A search enters just what can be reached. -/
theorem mem_preorder_iff (includes : store.IncludeGraph start graph)
    (preorder : Preorder store graph [] [start] order) {id : ContextId} :
    id ∈ order ↔ Reachable graph start id := by
  have sound {found : ContextId} (member : found ∈ order) : Reachable graph start found := by
    obtain ⟨root, listed, path⟩ := preorder.reachable member
    rwa [List.mem_singleton.mp listed] at path
  -- A search that has been at the key of a document has been at the document.
  have entered {found : ContextId} (reached : Reachable graph start found)
      (known : found ∈ order ∨ store.isSeen (order.reverse ++ []) found = true) :
      found ∈ order := by
    rcases known with member | known
    · exact member
    · obtain ⟨keyed, other, member, same⟩ := isSeen_iff.mp known
      rw [List.append_nil, List.mem_reverse] at member
      rwa [includes.once reached (sound member) keyed same.symm]
  refine ⟨sound, fun path => ?_⟩
  induction path with
  | refl => exact entered .refl (preorder.covers (List.mem_singleton_self start))
  | tail path edge ih => exact entered (path.tail edge) (preorder.closed ih edge)

/-- A search enters no document twice. -/
theorem nodup_preorder (includes : store.IncludeGraph start graph)
    (preorder : Preorder store graph [] [start] order) : order.Nodup := by
  obtain ⟨below, down, whole⟩ := includes.exists_preorder
  obtain rfl := preorder.unique whole
  have keyed {found : ContextId} (member : found ∈ below) : (store.context found).key ≠ none := by
    obtain ⟨target, edge, path⟩ := down.reachable member
    exact includes.keyed_of_reachable .refl edge path
  have pairwise := List.pairwise_cons.mp preorder.pairwise
  -- Only the first document may lack a key, and it is not below itself then.
  have different {earlier later : ContextId} (member : later ∈ below)
      (new : store.isSeen [earlier] later = false) : earlier ≠ later := by
    rintro rfl
    rw [isSeen_of_mem (keyed member) List.mem_cons_self] at new
    cases new
  refine List.nodup_cons.mpr ⟨fun member => different member (pairwise.1 start member) rfl, ?_⟩
  exact pairwise.2.imp_of_mem fun _ member new => different member new

/-- Below the first document the preorder lists all others that can be reached. -/
theorem mem_below_iff {below : List ContextId} (includes : store.IncludeGraph start graph)
    (preorder : Preorder store graph [] [start] (start :: below)) {id : ContextId} :
    id ∈ below ↔ Reachable graph start id ∧ id ≠ start := by
  rw [← includes.mem_preorder_iff preorder, List.mem_cons]
  have absent := (List.nodup_cons.mp (includes.nodup_preorder preorder)).1
  constructor
  · intro member
    refine ⟨.inr member, ?_⟩
    rintro rfl
    exact absent member
  · exact fun listed => listed.1.resolve_left listed.2

end IncludeGraph

end DiagramAssist.Store
