import DiagramAssist.Proofs.Store.Growth
import DiagramAssist.Proofs.Store.Walk

/-! # The trail of a walk

A walk sees nothing of documents but their keys and, as far as they are known, their includes: it
walks on a chart. Its trail follows from the chart alone (`Trail.unique`), without any bound on the
number of documents. Two documents with one key may be in reach, since a load may have returned a
document that its key has lost; the trail enters the one it comes to first.

A chart can be copied into another that knows more. A walk that has ended leaves the same trail
there (`Trail.map`), and one that is blocked leaves the beginning of a trail (`Trail.map_suffix`).
-/

namespace DiagramAssist

/-- What a walk sees of documents. -/
structure Chart (Node : Type) where
  key : Node → Option String
  /-- What is included, if it is known. -/
  links : Node → Option (List Node)

/-- In which way a walk has ended. -/
inductive Finish where
  | complete
  | stopped
  | blocked
deriving DecidableEq

namespace Chart

variable {Node Other : Type}

/-- A document with a key is new where no document with this key has been entered; any other is
always new. -/
def IsNew (chart : Chart Node) (entered : List Node) (node : Node) : Prop :=
  chart.key node ≠ none → ∀ other ∈ entered, chart.key other ≠ chart.key node

/-- The way through the documents on a stack: `final` are all documents entered in the end, the last
one first. -/
inductive Trail (chart : Chart Node) (stops : Node → Bool) :
    (entered stack final : List Node) → Finish → Prop where
  | done {entered : List Node} : Trail chart stops entered [] entered .complete
  | skip {entered stack final : List Node} {finish : Finish} {node : Node}
      (seen : ¬chart.IsNew entered node) (rest : Trail chart stops entered stack final finish) :
      Trail chart stops entered (node :: stack) final finish
  | stop {entered stack : List Node} {node : Node} (new : chart.IsNew entered node)
      (stop : stops node = true) :
      Trail chart stops entered (node :: stack) (node :: entered) .stopped
  | block {entered stack : List Node} {node : Node} (new : chart.IsNew entered node)
      (goes : stops node = false) (unknown : chart.links node = none) :
      Trail chart stops entered (node :: stack) (node :: entered) .blocked
  | enter {entered stack final below : List Node} {finish : Finish} {node : Node}
      (new : chart.IsNew entered node) (goes : stops node = false)
      (known : chart.links node = some below)
      (rest : Trail chart stops (node :: entered) (below ++ stack) final finish) :
      Trail chart stops entered (node :: stack) final finish

/-- One chart is copied into another that may know more. -/
structure Copies (Within : Node → Prop) (copy : Node → Other) (chart : Chart Node)
    (other : Chart Other) : Prop where
  key : ∀ {node : Node}, Within node → other.key (copy node) = chart.key node
  links : ∀ {node : Node} {below : List Node}, Within node → chart.links node = some below →
    other.links (copy node) = some (below.map copy)
  closed : ∀ {node : Node} {below : List Node}, Within node → chart.links node = some below →
    ∀ next ∈ below, Within next

theorem Copies.isNew {Within : Node → Prop} {copy : Node → Other} {chart : Chart Node}
    {other : Chart Other} (copies : Copies Within copy chart other) {entered : List Node}
    {node : Node} (inside : ∀ found ∈ entered, Within found) (within : Within node) :
    other.IsNew (entered.map copy) (copy node) ↔ chart.IsNew entered node := by
  simp only [IsNew, List.forall_mem_map, copies.key within]
  refine forall_congr' fun _ => forall₂_congr fun found member => ?_
  rw [copies.key (inside found member)]

/-- Two charts show the same documents, and the same includes of them but for the documents that
count as passed. -/
structure Alike (passed : Node → Bool) (chart other : Chart Node) : Prop where
  key : other.key = chart.key
  links : ∀ {node : Node}, passed node = false →
    (other.links node).map (List.filter (!passed ·)) =
      (chart.links node).map (List.filter (!passed ·))

namespace Trail

variable {chart : Chart Node} {stops : Node → Bool} {entered stack final : List Node}
  {finish : Finish}

/-- A trail only goes on from what has been entered. -/
theorem suffix (trail : Trail chart stops entered stack final finish) : entered <:+ final := by
  induction trail with
  | done => exact List.suffix_rfl
  | skip seen rest ih => exact ih
  | stop new stop => exact List.suffix_cons _ _
  | block new goes unknown => exact List.suffix_cons _ _
  | enter new goes known rest ih => exact (List.suffix_cons _ _).trans ih

theorem unique {final' : List Node} {finish' : Finish}
    (trail : Trail chart stops entered stack final finish)
    (trail' : Trail chart stops entered stack final' finish') :
    final = final' ∧ finish = finish' := by
  induction trail with
  | done =>
    cases trail'
    exact ⟨rfl, rfl⟩
  | skip seen rest ih =>
    cases trail' with
    | skip _ rest' => exact ih rest'
    | stop new => exact (seen new).elim
    | block new => exact (seen new).elim
    | enter new => exact (seen new).elim
  | stop new stop =>
    cases trail' with
    | skip seen => exact (seen new).elim
    | stop => exact ⟨rfl, rfl⟩
    | block _ goes => simp [goes] at stop
    | enter _ goes => simp [goes] at stop
  | block new goes unknown =>
    cases trail' with
    | skip seen => exact (seen new).elim
    | stop _ stop => simp [goes] at stop
    | block => exact ⟨rfl, rfl⟩
    | enter _ _ known => simp [known] at unknown
  | enter new goes known rest ih =>
    cases trail' with
    | skip seen => exact (seen new).elim
    | stop _ stop => simp [goes] at stop
    | block _ _ unknown => simp [known] at unknown
    | enter _ _ known' rest' =>
      rw [known] at known'
      cases known'
      exact ih rest'

/-- A trail stays among documents that include only each other. -/
theorem inside {Within : Node → Prop} (trail : Trail chart stops entered stack final finish)
    (closed : ∀ {node : Node} {below : List Node}, Within node → chart.links node = some below →
      ∀ next ∈ below, Within next)
    (start : ∀ node ∈ entered, Within node) (ahead : ∀ node ∈ stack, Within node) :
    ∀ node ∈ final, Within node := by
  induction trail with
  | done => exact start
  | skip seen rest ih => exact ih start (List.forall_mem_cons.mp ahead).2
  | stop new stop => exact List.forall_mem_cons.mpr ⟨(List.forall_mem_cons.mp ahead).1, start⟩
  | block new goes unknown =>
    exact List.forall_mem_cons.mpr ⟨(List.forall_mem_cons.mp ahead).1, start⟩
  | enter new goes known rest ih =>
    obtain ⟨here, ahead⟩ := List.forall_mem_cons.mp ahead
    apply ih (List.forall_mem_cons.mpr ⟨here, start⟩)
    exact List.forall_mem_append.mpr ⟨closed here known, ahead⟩

/-- Everything entered before the last document includes what is known. -/
theorem links_known (trail : Trail chart stops entered stack final finish)
    (ended : finish ≠ .blocked) (start : ∀ node ∈ entered, chart.links node ≠ none) :
    ∀ node ∈ final, chart.links node ≠ none ∨ stops node = true := by
  induction trail with
  | done => exact fun node member => .inl (start node member)
  | skip seen rest ih => exact ih ended start
  | stop new stop =>
    refine List.forall_mem_cons.mpr ⟨.inr stop, fun node member => .inl (start node member)⟩
  | block new goes unknown => exact (ended rfl).elim
  | enter new goes known rest ih =>
    exact ih ended (List.forall_mem_cons.mpr ⟨by simp [known], start⟩)

section Copies

variable {Within : Node → Prop} {copy : Node → Other} {other : Chart Other} {stops' : Other → Bool}

/-- A walk that has ended leaves the same trail on a chart that knows more. -/
theorem map (trail : Trail chart stops entered stack final finish)
    (copies : Copies Within copy chart other)
    (same : ∀ node ∈ final, stops' (copy node) = stops node)
    (start : ∀ node ∈ entered, Within node) (ahead : ∀ node ∈ stack, Within node)
    (ended : finish ≠ .blocked) :
    Trail other stops' (entered.map copy) (stack.map copy) (final.map copy) finish := by
  induction trail with
  | done => exact .done
  | skip seen rest ih =>
    obtain ⟨here, ahead⟩ := List.forall_mem_cons.mp ahead
    exact .skip (mt (copies.isNew start here).mp seen) (ih same start ahead ended)
  | stop new stop =>
    obtain ⟨here, ahead⟩ := List.forall_mem_cons.mp ahead
    exact .stop ((copies.isNew start here).mpr new) ((same _ List.mem_cons_self).trans stop)
  | block new goes unknown => exact (ended rfl).elim
  | enter new goes known rest ih =>
    obtain ⟨here, ahead⟩ := List.forall_mem_cons.mp ahead
    have passed := same _ (rest.suffix.subset List.mem_cons_self)
    refine .enter ((copies.isNew start here).mpr new) (passed.trans goes)
      (copies.links here known) ?_
    rw [← List.map_append, ← List.map_cons]
    exact ih same (List.forall_mem_cons.mpr ⟨here, start⟩)
      (List.forall_mem_append.mpr ⟨copies.closed here known, ahead⟩) ended

/-- What a walk has entered is the beginning of a trail on a chart that knows more. -/
theorem map_suffix (trail : Trail chart stops entered stack final finish)
    (copies : Copies Within copy chart other)
    (same : ∀ node, Within node → stops' (copy node) = stops node)
    (start : ∀ node ∈ entered, Within node) (ahead : ∀ node ∈ stack, Within node)
    {final' : List Other} {finish' : Finish}
    (trail' : Trail other stops' (entered.map copy) (stack.map copy) final' finish') :
    final.map copy <:+ final' := by
  induction trail with
  | done => exact trail'.suffix
  | skip seen rest ih =>
    obtain ⟨here, ahead⟩ := List.forall_mem_cons.mp ahead
    have seen := mt (copies.isNew start here).mp seen
    cases trail' with
    | skip _ rest' => exact ih start ahead rest'
    | stop new => exact (seen new).elim
    | block new => exact (seen new).elim
    | enter new => exact (seen new).elim
  | stop new stop =>
    obtain ⟨here, ahead⟩ := List.forall_mem_cons.mp ahead
    have new := (copies.isNew start here).mpr new
    cases trail' with
    | skip seen => exact (seen new).elim
    | stop => exact List.suffix_rfl
    | block => exact List.suffix_rfl
    | enter _ _ _ rest' => exact rest'.suffix
  | block new goes unknown =>
    obtain ⟨here, ahead⟩ := List.forall_mem_cons.mp ahead
    have new := (copies.isNew start here).mpr new
    cases trail' with
    | skip seen => exact (seen new).elim
    | stop => exact List.suffix_rfl
    | block => exact List.suffix_rfl
    | enter _ _ _ rest' => exact rest'.suffix
  | enter new goes known rest ih =>
    obtain ⟨here, ahead⟩ := List.forall_mem_cons.mp ahead
    have new := (copies.isNew start here).mpr new
    have links := copies.links here known
    cases trail' with
    | skip seen => exact (seen new).elim
    | stop _ stop =>
      rw [same _ here, goes] at stop
      cases stop
    | block _ _ unknown =>
      rw [links] at unknown
      cases unknown
    | enter _ _ links' rest' =>
      rw [links] at links'
      cases links'
      rw [← List.map_append, ← List.map_cons] at rest'
      exact ih (List.forall_mem_cons.mpr ⟨here, start⟩)
        (List.forall_mem_append.mpr ⟨copies.closed here known, ahead⟩) rest'

end Copies

/-- Where a walk goes through to the end, one that may stop on the way is not blocked. -/
theorem not_blocked (trail : Trail chart (fun _ => false) entered stack final finish)
    (ended : finish ≠ .blocked) {final' : List Node} {finish' : Finish}
    (trail' : Trail chart stops entered stack final' finish') : finish' ≠ .blocked := by
  induction trail with
  | done =>
    cases trail'
    exact ended
  | skip seen rest ih =>
    cases trail' with
    | skip _ rest' => exact ih ended rest'
    | stop new => exact (seen new).elim
    | block new => exact (seen new).elim
    | enter new => exact (seen new).elim
  | stop new stop => cases stop
  | block new goes unknown => exact (ended rfl).elim
  | enter new goes known rest ih =>
    cases trail' with
    | skip seen => exact (seen new).elim
    | stop => exact nofun
    | block _ _ unknown => simp [known] at unknown
    | enter _ _ known' rest' =>
      rw [known] at known'
      cases known'
      exact ih ended rest'

/-- A blocked walk has just entered a document whose includes are not known. -/
theorem blocked (trail : Trail chart stops entered stack final .blocked) :
    ∃ node before, final = node :: before ∧ chart.links node = none ∧ stops node = false := by
  generalize ending : Finish.blocked = finish at trail
  induction trail with
  | done => cases ending
  | skip seen rest ih => exact ih ending
  | stop new stop => cases ending
  | block new goes unknown => exact ⟨_, _, rfl, unknown, goes⟩
  | enter new goes known rest ih => exact ih ending

section Exchange

variable {other : Chart Node}

/-- Documents that are not new are skipped. -/
theorem skips {skipped : List Node} (seen : ∀ node ∈ skipped, ¬chart.IsNew entered node)
    (rest : Trail chart stops entered stack final finish) :
    Trail chart stops entered (skipped ++ stack) final finish := by
  induction skipped with
  | nil => exact rest
  | cons node skipped ih =>
    obtain ⟨here, seen⟩ := List.forall_mem_cons.mp seen
    exact .skip here (ih seen)

/-- Behind the document at which a walk has begun, documents with its key are never entered. So they
may be left out of the lists of includes, or added, and the first document may be another one with
the same key: the trail goes through the same documents behind it. -/
theorem exchange_behind {passed : Node → Bool} {first first' : Node} {before stack' : List Node}
    (trail : Trail chart stops (before ++ [first]) stack final finish)
    (alike : Alike passed chart other) (same : chart.key first' = chart.key first)
    (keyed : ∀ {node : Node}, passed node = true →
      chart.key node ≠ none ∧ chart.key node = chart.key first)
    (ahead : stack'.filter (!passed ·) = stack.filter (!passed ·)) :
    ∃ behind, final = behind ++ [first] ∧
      Trail other stops (before ++ [first']) stack' (behind ++ [first']) finish := by
  have isNew {before : List Node} {node : Node} :
      other.IsNew (before ++ [first']) node ↔ chart.IsNew (before ++ [first]) node := by
    simp only [IsNew, alike.key, List.forall_mem_append, List.forall_mem_singleton, same]
  have seen {before : List Node} {node : Node} (own : passed node = true) :
      ¬chart.IsNew (before ++ [first]) node := fun new =>
    new (keyed own).1 first (List.mem_append_right _ List.mem_cons_self) (keyed own).2.symm
  -- What stands before a document that has not been passed is skipped.
  have skipping {before stack stack' : List Node} {node : Node} (here : passed node = false)
      (ahead : stack'.filter (!passed ·) = (node :: stack).filter (!passed ·)) :
      ∃ behind, behind.filter (!passed ·) = stack.filter (!passed ·) ∧
        ∀ {final : List Node} {finish : Finish},
          Trail other stops (before ++ [first']) (node :: behind) final finish →
            Trail other stops (before ++ [first']) stack' final finish := by
    rw [List.filter_cons_of_pos (by simp [here]), List.filter_eq_cons_iff] at ahead
    obtain ⟨skipped, behind, rfl, own, -, ahead⟩ := ahead
    refine ⟨behind, ahead, fun trail => skips (fun found listed => ?_) trail⟩
    exact mt isNew.mp (seen (by simpa using own found listed))
  generalize start : before ++ [first] = entered at trail
  induction trail generalizing before stack' with
  | done =>
    subst start
    have own : ∀ node ∈ stack', passed node = true := by simpa using ahead
    refine ⟨before, rfl, ?_⟩
    rw [← List.append_nil stack']
    exact skips (fun node listed => mt isNew.mp (seen (own node listed))) .done
  | @skip entered stack final finish node old rest ih =>
    subst start
    cases here : passed node with
    | true =>
      rw [List.filter_cons_of_neg (by simp [here])] at ahead
      exact ih ahead rfl
    | false =>
      obtain ⟨later, ahead, skips⟩ := skipping here ahead
      obtain ⟨behind, rfl, trail⟩ := ih ahead rfl
      exact ⟨behind, rfl, skips (.skip (mt isNew.mp old) trail)⟩
  | @stop entered stack node new stop =>
    subst start
    have here : passed node = false := Bool.eq_false_iff.mpr fun own => seen own new
    obtain ⟨later, -, skips⟩ := skipping here ahead
    exact ⟨node :: before, rfl, skips (.stop (isNew.mpr new) stop)⟩
  | @block entered stack node new goes unknown =>
    subst start
    have here : passed node = false := Bool.eq_false_iff.mpr fun own => seen own new
    obtain ⟨later, -, skips⟩ := skipping here ahead
    have links := alike.links here
    rw [unknown, Option.map_none, Option.map_eq_none_iff] at links
    exact ⟨node :: before, rfl, skips (.block (isNew.mpr new) goes links)⟩
  | @enter entered stack final below finish node new goes known rest ih =>
    subst start
    have here : passed node = false := Bool.eq_false_iff.mpr fun own => seen own new
    obtain ⟨later, ahead, skips⟩ := skipping here ahead
    have links := alike.links here
    rw [known, Option.map_some, Option.map_eq_some_iff] at links
    obtain ⟨below', known', links⟩ := links
    obtain ⟨behind, rfl, trail⟩ := @ih (node :: before) (below' ++ later)
      (by rw [List.filter_append, List.filter_append, links, ahead]) rfl
    exact ⟨behind, rfl, skips (.enter (isNew.mpr new) goes known' trail)⟩

/-- As soon as the first document has been entered, it may be another one with the same key. -/
theorem exchange {passed : Node → Bool} {first first' : Node} {stack' : List Node}
    (trail : Trail chart stops [first] stack final finish) (alike : Alike passed chart other)
    (same : chart.key first' = chart.key first)
    (keyed : ∀ {node : Node}, passed node = true →
      chart.key node ≠ none ∧ chart.key node = chart.key first)
    (ahead : stack'.filter (!passed ·) = stack.filter (!passed ·)) :
    ∃ behind, final = behind ++ [first] ∧
      Trail other stops [first'] stack' (behind ++ [first']) finish := by
  rw [← List.nil_append [first]] at trail
  exact trail.exchange_behind alike same keyed ahead

end Exchange

end Trail

end Chart

namespace Store

/-- What a walk sees of the documents of a store. -/
def chart (store : Store) : Chart ContextId where
  key id := (store.context id).key
  links id := (store.context id).includes.value

/-- What is known later is known earlier and perhaps more. -/
theorem Grows.copies {first second : Store} (grows : Grows first second) (linked : first.Linked) :
    Chart.Copies (· < first.length) id first.chart second.chart where
  key known := (grows.context known).key
  links _ known := by
    rw [List.map_id]
    exact grows.includes known
  closed _ known next listed := lt_length_of_key (linked known next listed)

theorem isNew_chart {store : Store} {entered : List ContextId} {id : ContextId} :
    store.chart.IsNew entered id ↔ store.isSeen entered id = false := by
  rw [← Bool.not_eq_true, isSeen_iff]
  simp only [Chart.IsNew, chart, ne_eq, not_and, not_exists]

/-- How the end of a walk shows in what it has entered. -/
inductive Walk.Ends : Walk → Finish → Prop where
  | complete {entered : List ContextId} : Ends ⟨entered, .complete⟩ .complete
  | stopped {entered : List ContextId} {id : ContextId} : Ends ⟨id :: entered, .stopped id⟩ .stopped
  | blocked {entered : List ContextId} {id : ContextId} : Ends ⟨id :: entered, .blocked id⟩ .blocked

section Walks

variable {store : Store} (stops : ContextId → Bool)

/-- A walk that only has documents with keys before it leaves a trail, if its bound is not below the
number of documents on the stack and includes of documents that can still be entered. -/
theorem walkFrom_trail (linked : store.Linked) (bound : Nat) (entered stack spare : List ContextId)
    (keyed : ∀ id ∈ stack, (store.context id).key ≠ none)
    (left : ∀ id < store.length, id ∉ entered → id ∈ spare)
    (enough : stack.length + store.edgesOf spare ≤ bound) :
    ∃ finish, store.chart.Trail stops entered stack
      (walkFrom store stops bound entered stack).entered finish ∧
      (walkFrom store stops bound entered stack).Ends finish := by
  induction bound generalizing entered stack spare with
  | zero =>
    obtain rfl : stack = [] := List.length_eq_zero_iff.mp (by omega)
    exact ⟨.complete, .done, .complete⟩
  | succ bound ih =>
    rcases stack with _ | ⟨id, stack⟩
    · exact ⟨.complete, .done, .complete⟩
    obtain ⟨here, keyed⟩ := List.forall_mem_cons.mp keyed
    rw [List.length_cons] at enough
    rw [walkFrom]
    split
    · next seen =>
      obtain ⟨finish, trail, ends⟩ := ih entered stack spare keyed left (by omega)
      refine ⟨finish, .skip ?_ trail, ends⟩
      simp [isNew_chart, seen]
    · next unseen =>
      have new : store.chart.IsNew entered id := isNew_chart.mpr (by simpa using unseen)
      split
      · next stop => exact ⟨.stopped, .stop new stop, .stopped⟩
      · next goes =>
        rw [Bool.not_eq_true] at goes
        split
        · next unknown => exact ⟨.blocked, .block new goes unknown, .blocked⟩
        · next includes known =>
          -- The document has not been entered, so its includes have been counted.
          have listed : id ∈ spare :=
            left id (lt_length_of_key here) fun member => unseen (isSeen_of_mem here member)
          have edges : store.edgesOf spare = includes.length + store.edgesOf (spare.erase id) := by
            simp only [edgesOf]
            rw [((List.perm_cons_erase listed).flatMap_right _).length_eq, List.flatMap_cons,
              List.length_append, known, Option.getD_some]
          obtain ⟨finish, trail, ends⟩ :=
            ih (id :: entered) (includes ++ stack) (spare.erase id)
              (List.forall_mem_append.mpr ⟨linked known, keyed⟩)
              (fun other there new => by
                rw [List.mem_cons, not_or] at new
                exact (List.mem_erase_of_ne new.1).mpr (left other there new.2))
              (by rw [List.length_append]; omega)
          exact ⟨finish, .enter new goes known trail, ends⟩

/-- A walk leaves a trail. -/
theorem walk_trail (linked : store.Linked) (start : ContextId) :
    ∃ finish, store.chart.Trail stops [] [start] (store.walk stops start).entered finish ∧
      (store.walk stops start).Ends finish := by
  have new : store.chart.IsNew [] start := isNew_chart.mpr (by
    rw [← Bool.not_eq_true, isSeen_iff]
    simp)
  rw [walk, walkFrom, if_neg (by simpa [isNew_chart] using new)]
  split
  · next stop => exact ⟨.stopped, .stop new stop, .stopped⟩
  · next goes =>
    rw [Bool.not_eq_true] at goes
    split
    · next unknown => exact ⟨.blocked, .block new goes unknown, .blocked⟩
    · next includes known =>
      have there : start < store.length := lt_length_of_includes (.inl (by simp [known]))
      have distinct : (start :: (List.range store.length).erase start).Nodup :=
        List.nodup_cons.mpr ⟨List.nodup_range.not_mem_erase, List.nodup_range.erase _⟩
      have edges := store.edgesOf_le_edgeCount distinct
      rw [edgesOf, List.flatMap_cons, List.length_append, known, Option.getD_some] at edges
      obtain ⟨finish, trail, ends⟩ := walkFrom_trail stops linked store.edgeCount [start]
        (includes ++ []) ((List.range store.length).erase start)
        (by simpa using linked known)
        (fun other there new => by
          rw [List.mem_singleton] at new
          exact (List.mem_erase_of_ne new).mpr (List.mem_range.mpr there))
        (by simpa [edgesOf] using edges)
      exact ⟨finish, .enter new goes known trail, ends⟩

end Walks

end Store

end DiagramAssist
