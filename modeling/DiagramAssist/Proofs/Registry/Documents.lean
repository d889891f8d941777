import DiagramAssist.Proofs.Registry.Interleaving
import DiagramAssist.Proofs.Store.Contexts

/-! # Where documents are

A document is added to the store before it is put into a slot, and it keeps its key for good. The
document that an update has made shows under its key only once the update has returned, although
until then it may stand in a slot that the key has lost.
-/

namespace DiagramAssist

/-- Where documents are. A document is in slots of its own key only; one that an update still has to
store shows nowhere; one that an update has returned shows under its key; and a document that shows
is in no other slot, unless an update has returned it. -/
structure Documented (owner : SlotId → String) (registry : Registry) (store : Store)
    (calls : List Call) : Prop where
  stored : ∀ {slot : SlotId} {context : ContextId}, (registry.cell slot).value = some context →
    context < store.length ∧ (store.context context).key = some (owner slot)
  offered : ∀ {index : Nat} {call : Call} {key : String} {fresh : ContextId},
    calls[index]? = some call → call.offer? = some (key, fresh) →
    fresh < store.length ∧ (store.context fresh).key = some key ∧
      ∀ key' slot, ¬registry.Shows key' slot fresh
  offeredOnce : ∀ {index other : Nat} {call call' : Call} {key key' : String} {fresh : ContextId},
    calls[index]? = some call → call.offer? = some (key, fresh) →
    calls[other]? = some call' → call'.offer? = some (key', fresh) → index = other
  settled : ∀ {context : ContextId}, Call.update (.returned context) ∈ calls →
    context < store.length ∧
      ∃ key, (store.context context).key = some key ∧ registry.get? key = some context
  twice : ∀ {key : String} {slot other : SlotId} {context : ContextId},
    registry.Shows key slot context → (registry.cell other).value = some context →
    other = slot ∨ Call.update (.returned context) ∈ calls

namespace Documented

variable {owner owner' : SlotId → String} {registry after : Registry} {store store' : Store}
  {calls : List Call} {index : Nat} {old new : Call}

/-- What is known of the other calls when one goes on. -/
private theorem mem_set_iff (present : calls[index]? = some old)
    (unfinished : ∀ context, old ≠ .update (.returned context)) (context : ContextId) :
    Call.update (.returned context) ∈ calls.set index new ↔
      new = .update (.returned context) ∨ Call.update (.returned context) ∈ calls := by
  simp only [List.mem_iff_getElem?, getElem?_set_eq_some present]
  constructor
  · rintro ⟨other, ⟨-, same⟩ | ⟨-, found⟩⟩
    · exact .inl same
    · exact .inr ⟨other, found⟩
  · rintro (same | ⟨other, found⟩)
    · exact ⟨index, .inl ⟨rfl, same⟩⟩
    · refine ⟨other, .inr ⟨?_, found⟩⟩
      rintro rfl
      rw [present] at found
      exact unfinished context (Option.some.inj found)

/-- A call that goes on offers nothing new. -/
private theorem offered_before (present : calls[index]? = some old)
    (offers : ∀ offer, new.offer? = some offer → old.offer? = some offer) {other : Nat}
    {call : Call} {offer : String × ContextId} (found : (calls.set index new)[other]? = some call)
    (offered : call.offer? = some offer) :
    ∃ call', calls[other]? = some call' ∧ call'.offer? = some offer := by
  rcases (getElem?_set_eq_some present new other call).mp found with ⟨rfl, rfl⟩ | ⟨-, found⟩
  · exact ⟨old, present, offers _ offered⟩
  · exact ⟨call, found, offered⟩

/-- A step that fills no slot. If the call is an update that returns, its document shows. -/
theorem keep (documented : Documented owner registry store calls)
    (present : calls[index]? = some old)
    (unfinished : ∀ context, old ≠ .update (.returned context))
    (same : registry.SameDocuments after) (keys : store.KeepsKeys store')
    (owners : ∀ slot < registry.slots.length, owner' slot = owner slot)
    (offers : ∀ offer, new.offer? = some offer → old.offer? = some offer)
    (returns : ∀ context, new = .update (.returned context) → ∃ slot key,
      registry.Shows key slot context ∧ owner slot = key) :
    Documented owner' after store' (calls.set index new) := by
  have get? (key : String) (context : ContextId) :
      after.get? key = some context ↔ registry.get? key = some context := by
    simp only [Registry.get?_eq_some_iff, same.shows]
  refine ⟨?_, ?_, ?_, ?_, ?_⟩
  · intro slot context filled
    rw [same.values] at filled
    obtain ⟨known, key⟩ := documented.stored filled
    rw [owners slot (Registry.known_of_value filled), keys.key known]
    exact ⟨keys.known known, key⟩
  · intro other call key fresh found offered
    obtain ⟨call', found, offered⟩ := offered_before present offers found offered
    obtain ⟨known, key, unseen⟩ := documented.offered found offered
    refine ⟨keys.known known, (keys.key known).trans key, fun key' slot shown => ?_⟩
    exact unseen key' slot ((same.shows key' slot fresh).mp shown)
  · intro first second call call' key key' fresh found offered found' offered'
    obtain ⟨_, found, offered⟩ := offered_before present offers found offered
    obtain ⟨_, found', offered'⟩ := offered_before present offers found' offered'
    exact documented.offeredOnce found offered found' offered'
  · intro context returned
    rcases (mem_set_iff present unfinished context).mp returned with returned | returned
    · obtain ⟨slot, key, shown, belongs⟩ := returns context returned
      obtain ⟨known, stored⟩ := documented.stored shown.2
      have found := Registry.get?_eq_some_iff.mpr ⟨slot, shown⟩
      refine ⟨keys.known known, key, ?_, (get? key context).mpr found⟩
      rw [keys.key known, stored, belongs]
    · obtain ⟨known, key, stored, shown⟩ := documented.settled returned
      exact ⟨keys.known known, key, (keys.key known).trans stored, (get? key context).mpr shown⟩
  · intro key slot other context shown filled
    rw [same.values] at filled
    rcases documented.twice ((same.shows key slot context).mp shown) filled with here | returned
    · exact .inl here
    · exact .inr ((mem_set_iff present unfinished context).mpr (.inr returned))

/-- A step that fills an empty slot with a document that shows nowhere. If the key still has the
slot, then the document shows under it from then on: it may not be offered any longer, and if it is
in another slot too then an update returns it. If the key has lost the slot, the call may try
again. -/
theorem fill (documented : Documented owner registry store calls)
    (present : calls[index]? = some old)
    (unfinished : ∀ context, old ≠ .update (.returned context)) {slot : SlotId}
    {context : ContextId} (known : slot < registry.slots.length)
    (empty : (registry.cell slot).value = none) (keys : store.KeepsKeys store')
    (stored : context < store'.length ∧ (store'.context context).key = some (owner slot))
    (unseen : ∀ key' slot', ¬registry.Shows key' slot' context)
    (mine : ∀ {other : Nat} {call : Call} {key : String}, calls[other]? = some call →
      call.offer? = some (key, context) → other = index)
    (offers : ∀ offer, new.offer? = some offer →
      old.offer? = some offer ∧ ∀ key, registry.slot? key ≠ some slot)
    (returns : ∀ returned, new = .update (.returned returned) →
      returned = context ∧ registry.slot? (owner slot) = some slot)
    (shared : ∀ {other : SlotId} {key : String}, registry.slot? key = some slot →
      (registry.cell other).value = some context → new = .update (.returned context)) :
    Documented owner (registry.succeed slot context) store' (calls.set index new) := by
  have split := getElem?_set_eq_some present new
  have shows := Registry.shows_succeed known context
  -- What showed before still shows, since the slot was empty.
  have kept {key : String} {other : SlotId} {shown : ContextId}
      (before : registry.Shows key other shown) :
      (registry.succeed slot context).Shows key other shown := by
    rw [shows, if_neg]
    · exact before
    · rintro rfl
      rw [before.2] at empty
      cases empty
  have again (offer : String × ContextId) (offered : new.offer? = some offer) :=
    (offers offer offered).1
  refine ⟨?_, ?_, ?_, ?_, ?_⟩
  · intro other shown filled
    rw [Registry.cell_succeed known] at filled
    split at filled
    · next here =>
      cases filled
      rw [here]
      exact stored
    · obtain ⟨known, key⟩ := documented.stored filled
      exact ⟨keys.known known, (keys.key known).trans key⟩
  · intro other call key fresh found offered
    obtain ⟨call', found', offered'⟩ := offered_before present again found offered
    obtain ⟨known, key, hidden⟩ := documented.offered found' offered'
    refine ⟨keys.known known, (keys.key known).trans key, fun key' slot' shown => ?_⟩
    rw [shows] at shown
    split at shown
    · -- Only the call that fills the slot offers the document, and then the key has lost the slot.
      obtain ⟨current, rfl⟩ := shown
      have here := mine found' offered'
      rcases (split other call).mp found with ⟨-, rfl⟩ | ⟨elsewhere, -⟩
      · exact (offers _ offered).2 key' current
      · exact elsewhere here
    · exact hidden key' slot' shown
  · intro first second call call' key key' fresh found offered found' offered'
    obtain ⟨_, found, offered⟩ := offered_before present again found offered
    obtain ⟨_, found', offered'⟩ := offered_before present again found' offered'
    exact documented.offeredOnce found offered found' offered'
  · intro shown returned
    rcases (mem_set_iff present unfinished shown).mp returned with returned | returned
    · obtain ⟨rfl, current⟩ := returns shown returned
      refine ⟨stored.1, owner slot, stored.2, Registry.get?_eq_some_iff.mpr ⟨slot, ?_⟩⟩
      rw [shows, if_pos rfl]
      exact ⟨current, rfl⟩
    · obtain ⟨known, key, stored, shown⟩ := documented.settled returned
      obtain ⟨slot', shown⟩ := Registry.get?_eq_some_iff.mp shown
      exact ⟨keys.known known, key, (keys.key known).trans stored,
        Registry.get?_eq_some_iff.mpr ⟨slot', kept shown⟩⟩
  · intro key slot' other shown before filled
    rw [shows] at before
    rw [Registry.cell_succeed known] at filled
    split at before
    · next here =>
      obtain ⟨current, rfl⟩ := before
      split at filled
      · next here' => exact .inl (here'.trans here.symm)
      · exact .inr ((mem_set_iff present unfinished _).mpr (.inl (shared current filled)))
    · split at filled
      · cases filled
        exact (unseen _ _ before).elim
      · rcases documented.twice before filled with same | returned
        · exact .inl same
        · exact .inr ((mem_set_iff present unfinished _).mpr (.inr returned))

/-- A call joins. The document that it offers, if it does, has just been added. -/
theorem join (documented : Documented owner registry store calls) (keys : store.KeepsKeys store')
    (unfinished : ∀ context, new ≠ .update (.returned context))
    (offers : ∀ {key : String} {fresh : ContextId}, new.offer? = some (key, fresh) →
      store.length ≤ fresh ∧ fresh < store'.length ∧ (store'.context fresh).key = some key) :
    Documented owner registry store' (calls ++ [new]) := by
  have split := getElem?_concat_eq_some calls new
  have mem (context : ContextId) :
      Call.update (.returned context) ∈ calls ++ [new] ↔
        Call.update (.returned context) ∈ calls := by
    rw [List.mem_append, List.mem_singleton]
    exact or_iff_left (unfinished context).symm
  refine ⟨?_, ?_, ?_, ?_, ?_⟩
  · intro slot context filled
    obtain ⟨known, key⟩ := documented.stored filled
    exact ⟨keys.known known, (keys.key known).trans key⟩
  · intro index call key fresh found offered
    rcases (split _ _).mp found with found | ⟨-, rfl⟩
    · obtain ⟨known, key, hidden⟩ := documented.offered found offered
      exact ⟨keys.known known, (keys.key known).trans key, hidden⟩
    · obtain ⟨later, known, key⟩ := offers offered
      refine ⟨known, key, fun key' slot shown => ?_⟩
      exact Nat.not_lt_of_le later (documented.stored shown.2).1
  · intro first second call call' key key' fresh found offered found' offered'
    rcases (split _ _).mp found with found | ⟨rfl, rfl⟩
    · have known := (documented.offered found offered).1
      rcases (split _ _).mp found' with found' | ⟨-, rfl⟩
      · exact documented.offeredOnce found offered found' offered'
      · exact (Nat.not_lt_of_le (offers offered').1 known).elim
    · rcases (split _ _).mp found' with found' | ⟨rfl, -⟩
      · exact (Nat.not_lt_of_le (offers offered).1 (documented.offered found' offered').1).elim
      · rfl
  · intro context returned
    obtain ⟨known, key, stored, shown⟩ := documented.settled ((mem context).mp returned)
    exact ⟨keys.known known, key, (keys.key known).trans stored, shown⟩
  · intro key slot other context shown filled
    rcases documented.twice shown filled with same | returned
    · exact .inl same
    · exact .inr ((mem context).mpr returned)

end Documented

end DiagramAssist
