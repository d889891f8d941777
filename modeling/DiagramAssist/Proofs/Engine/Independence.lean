import DiagramAssist.Proofs.Engine.Progress

/-! # Answers do not depend on the schedule

Engines that share a registry carry out queries about buffers, interleaved in any way, while the
source provides the same after delays that are not too long. Every query that is answered is
answered as on a fresh engine that carries out nothing else, and every query that such an engine
answers can still be answered, whatever has happened so far (`Traffic.answered_as_alone`).

That a query gets answered is shown by following its walk. Once nobody resolves includes, the walk
either ends, or it is blocked by a document whose includes nobody resolves; then its task resolves
them, and the next walk is longer. No walk enters more documents than there are pages on the trail
that the source provides.
-/

namespace DiagramAssist

namespace Query

/-- The walk of a query is blocked after it has entered some documents. -/
def Blocked (query : Query) (store : Store) (context : ContextId) (entered : List ContextId) :
    Prop :=
  store.chart.Trail (fun id => query.stops (store.page id)) [] [context] entered .blocked

variable {query : Query} {store later : Store} {context target : ContextId}
  {before entered : List ContextId}

/-- Where the includes are known that have blocked a walk, it gets further. -/
theorem Blocked.longer (blocked : query.Blocked store context (target :: before))
    (linked : store.Linked) (there : context < store.length) (grows : store.Grows later)
    (pages : store.KeepsPages later) (known : (later.context target).includes.value ≠ none)
    (blocked' : query.Blocked later context entered) :
    (target :: before).length < entered.length := by
  have further : (target :: before).map id <:+ entered :=
    Chart.Trail.map_suffix blocked (grows.copies linked)
      (fun id known => congrArg query.stops (pages.page known)) nofun (by simpa using there)
      blocked'
  rw [List.map_id] at further
  refine Nat.lt_of_le_of_ne further.length_le fun same => ?_
  -- Otherwise the later walk is blocked by the same document.
  obtain rfl := further.eq_of_length same
  obtain ⟨node, rest, entered, unknown, -⟩ := Chart.Trail.blocked blocked'
  cases entered
  exact known unknown

/-- A walk enters no more documents than there are pages on the trail that is provided. -/
theorem Blocked.length_le {provision : Provision} {own : Option String} {world : World}
    {final : List Page} {finish : Finish} (blocked : query.Blocked world.store context entered)
    (faithful : world.Faithful provision own) (linked : world.store.Linked)
    (there : context < world.store.length)
    (trail : provision.chart.Trail query.stops [] [world.store.page context] final finish) :
    entered.length ≤ final.length := by
  have begun : entered.map world.store.page <:+ final :=
    Chart.Trail.map_suffix blocked (faithful.copies linked) (fun _ _ => rfl) nofun
      (by simpa using there) trail
  simpa using begun.length_le

end Query

namespace Traffic

/-- No includes are being resolved. -/
def IsQuiet (state : Traffic) : Prop :=
  ∀ entry ∈ state.tasks, entry.2.flushed = entry.2

variable {config : Config} {provision : Provision} {own : Option String} {commands : List Command}
  {state after : Traffic} {events : List Event} {index engine : Nat} {wanted : Inquiry}
  {reply : Reply}

theorem flushed_flushed (task : Task) : task.flushed.flushed = task.flushed := by
  cases task <;> rfl

theorem exists_quiet (faithful : state.Faithful config provision own commands)
    (orderly : state.Orderly) :
    ∃ after, state.ComesTo after ∧ after.IsQuiet ∧ after.tasks = state.flushed := by
  obtain ⟨after, comes, tasks⟩ := exists_flushed faithful orderly
  refine ⟨after, comes, fun entry listed => ?_, tasks⟩
  rw [tasks, flushed] at listed
  obtain ⟨before, -, rfl⟩ := List.mem_map.mp listed
  exact flushed_flushed _

/-- While no includes are being resolved, nobody works or waits anywhere. -/
theorem IsQuiet.nobody (quiet : state.IsQuiet)
    (faithful : state.Faithful config provision own commands) : clients state.tasks = 0 := by
  refine Multiset.eq_zero_of_forall_notMem fun client there => ?_
  obtain ⟨⟨engine, task⟩, listed, there⟩ := mem_clients.mp there
  obtain ⟨index, present⟩ := List.getElem?_of_mem listed
  obtain ⟨command, -, wanted, -, honest⟩ := faithful.tasks.held present
  obtain ⟨target, passed, rest, context, goal, rfl⟩ := honest.resolving_of_clients there
  cases quiet _ listed

/-- While no includes are being resolved, those are known that have been asked for. -/
theorem IsQuiet.known (quiet : state.IsQuiet)
    (faithful : state.Faithful config provision own commands) (orderly : state.Orderly)
    {target : ContextId} (taken : (state.world.store.context target).includes.IsTaken) :
    (state.world.store.context target).includes.value ≠ none := by
  obtain ⟨owners, ordered⟩ := orderly
  refine taken.elim id fun held empty => ?_
  have served := ordered.world.staffed (.includes target)
  rw [quiet.nobody faithful] at served
  obtain ⟨client, listed, -⟩ :=
    served.exists_isFor (Cell.value_shape_eq_none.mpr empty) held
  exact Multiset.notMem_zero _ listed

/-- The task of a query about a document. -/
theorem Faithful.honest (faithful : state.Faithful config provision own commands)
    (asked : commands[index]? = some wanted.command) {task : Task}
    (present : state.tasks[index]? = some (engine, task)) :
    task.Honest provision own wanted state.world := by
  obtain ⟨other, same, honest⟩ :=
    faithful.tasks.holds asked ((Nat.zero_add index).symm ▸ present)
  rwa [Inquiry.command_injective same]

/-- A reply is what the query is to be answered with. -/
theorem Faithful.answers (faithful : state.Faithful config provision own commands)
    (asked : commands[index]? = some wanted.command) (answered : state.reply? index = some reply) :
    wanted.Expects provision reply := by
  obtain ⟨engine, present⟩ := reply?_eq_some_iff.mp answered
  exact faithful.honest asked present

section Walking

variable {query : Query} {context : ContextId}

/-- When no includes are being resolved, a walk ends, or the task resolves the includes that block
it. -/
theorem IsQuiet.pursues (quiet : state.IsQuiet)
    (faithful : state.Faithful config provision own commands) (orderly : state.Orderly)
    (present : state.tasks[index]? = some (engine, .walking context query.goal)) :
    (∃ after reply, state.ComesTo after ∧ after.reply? index = some reply) ∨
      ∃ target before after passed rest,
        query.Blocked state.world.store context (target :: before) ∧ state.ComesTo after ∧
          after.tasks[index]? =
            some (engine, .resolving target passed rest context query.goal) := by
  have inside := (List.getElem?_eq_some_iff.mp present).1
  have linked : state.world.store.Linked := by
    obtain ⟨owners, ordered⟩ := orderly
    exact ordered.world.linked
  have goes : Task.step engine state.world (.walking context query.goal) =
      some (Task.pursue state.world context query.goal) := rfl
  have comes := comes_to_proceeded present goes
  obtain ⟨entered, finish, trail, ⟨-, answered⟩ | ⟨target, before, rfl, rfl, unknown, needed⟩⟩ :=
    query.pursue_eq linked context
  · rw [answered] at comes
    exact .inl ⟨_, _, comes, reply?_eq_some_iff.mpr ⟨engine, List.getElem?_set_self inside⟩⟩
  · obtain ⟨held, -⟩ | ⟨-, resolves⟩ := Task.needIncludes_cases
      { state.world with store := state.world.store.extractAll (target :: before) } unknown context
      query.goal
    · rw [(state.world.store.sameLinks_extractAll _).includes] at unknown
      refine (quiet.known faithful orderly (.inr ?_) unknown).elim
      rwa [(state.world.store.sameLinks_extractAll _).includes] at held
    · rw [needed, resolves] at comes
      exact .inr ⟨target, before, _, _, _, trail, comes, List.getElem?_set_self inside⟩

/-- When no includes are being resolved, a walk ends, or it gets further after the includes that
block it have been resolved. -/
theorem IsQuiet.walks (quiet : state.IsQuiet)
    (faithful : state.Faithful config provision own commands) (orderly : state.Orderly)
    (present : state.tasks[index]? = some (engine, .walking context query.goal)) :
    (∃ after reply, state.ComesTo after ∧ after.reply? index = some reply) ∨
      ∃ entered after, query.Blocked state.world.store context entered ∧ state.ComesTo after ∧
        after.IsQuiet ∧ after.tasks[index]? = some (engine, .walking context query.goal) ∧
        ∀ entered', query.Blocked after.world.store context entered' →
          entered.length < entered'.length := by
  obtain answered | ⟨target, before, next, passed, rest, blocked, comes, resolves⟩ :=
    quiet.pursues faithful orderly present
  · exact .inl answered
  obtain ⟨orderly', onward⟩ := comes.orderly orderly
  obtain ⟨faithful', pages⟩ := comes.faithful faithful orderly
  obtain ⟨after, comes', quiet', tasks⟩ := exists_quiet faithful' orderly'
  obtain ⟨orderly'', onward'⟩ := comes'.orderly orderly'
  obtain ⟨faithful'', pages'⟩ := comes'.faithful faithful' orderly'
  have walking : after.tasks[index]? = some (engine, .walking context query.goal) := by
    rw [tasks, flushed, List.getElem?_map, resolves]
    rfl
  have taken : (next.world.store.context target).includes.IsTaken := by
    obtain ⟨owners, ordered⟩ := orderly'
    have working : (.includes target, .working) ∈ clients next.tasks :=
      mem_clients.mpr ⟨_, List.mem_of_getElem? resolves, Multiset.mem_cons_self _ _⟩
    exact (ordered.world.staffed.taken working).imp_left (mt Cell.value_shape_eq_none.mpr)
  have known := quiet'.known faithful'' orderly'' (onward'.store.taken taken)
  refine .inr ⟨_, after, blocked, comes.trans comes', quiet', walking, fun entered' blocked' => ?_⟩
  obtain ⟨owners, ordered⟩ := orderly
  have there := ordered.sound _ (List.mem_of_getElem? present)
  exact blocked.longer ordered.world.linked there (onward.store.trans onward'.store)
    (pages.trans pages') known blocked'

/-- A walk gets to its end: it gets further each time, and no further than the trail that is
provided. -/
theorem IsQuiet.answers (quiet : state.IsQuiet)
    (faithful : state.Faithful config provision own commands) (orderly : state.Orderly)
    (present : state.tasks[index]? = some (engine, .walking context query.goal))
    {final : List Page} {finish : Finish}
    (trail : provision.chart.Trail query.stops [] [state.world.store.page context] final finish)
    (left : Nat) (bound : ∀ entered, query.Blocked state.world.store context entered →
      final.length < entered.length + left) :
    ∃ after reply, state.ComesTo after ∧ after.reply? index = some reply := by
  induction left generalizing state with
  | zero =>
    obtain answered | ⟨entered, -, blocked, -⟩ := quiet.walks faithful orderly present
    · exact answered
    · obtain ⟨owners, ordered⟩ := orderly
      have there := ordered.sound _ (List.mem_of_getElem? present)
      have short := blocked.length_le faithful.world ordered.world.linked there trail
      exact (Nat.not_lt_of_le short (bound entered blocked)).elim
  | succ left ih =>
    obtain answered | ⟨entered, next, blocked, comes, quiet', present', longer⟩ :=
      quiet.walks faithful orderly present
    · exact answered
    · obtain ⟨faithful', pages⟩ := comes.faithful faithful orderly
      obtain ⟨owners, ordered⟩ := orderly
      have there := ordered.sound _ (List.mem_of_getElem? present)
      obtain ⟨orderly', -⟩ := comes.orderly ⟨owners, ordered⟩
      rw [← pages.page there] at trail
      obtain ⟨after, reply, comes', answered⟩ :=
        ih quiet' faithful' orderly' present' trail fun entered' blocked' => by
          have further := longer entered' blocked'
          have close := bound entered blocked
          omega
      exact ⟨after, reply, comes.trans comes', answered⟩

end Walking

/-- The task of a query about a document comes to its answer or to a walk, with no includes being
resolved. -/
theorem comes_to_walk (faithful : state.Faithful config provision own commands)
    (orderly : state.Orderly) (asked : commands[index]? = some wanted.command) :
    (∃ after reply, state.ComesTo after ∧ after.reply? index = some reply) ∨
      ∃ after engine context, state.ComesTo after ∧ after.IsQuiet ∧
        after.tasks[index]? = some (engine, .walking context wanted.query.goal) := by
  obtain ⟨next, comes, quiet, -⟩ := exists_quiet faithful orderly
  obtain ⟨faithful, -⟩ := comes.faithful faithful orderly
  obtain ⟨orderly, -⟩ := comes.orderly orderly
  have inside : index < next.tasks.length := by
    rw [faithful.tasks.length, Nat.zero_add]
    exact (List.getElem?_eq_some_iff.mp asked).1
  obtain ⟨⟨engine, task⟩, present⟩ : ∃ entry, next.tasks[index]? = some entry :=
    ⟨_, List.getElem?_eq_getElem inside⟩
  have honest := faithful.honest asked present
  cases task with
  | finished reply => exact .inl ⟨next, reply, comes, reply?_eq_some_iff.mpr ⟨engine, present⟩⟩
  | walking context goal =>
    obtain ⟨rfl, -⟩ := honest
    exact .inr ⟨next, engine, context, comes, quiet, present⟩
  | awaiting call target context goal =>
    -- The includes for which the task waits are known, so it goes on to walk.
    obtain ⟨rfl, -⟩ := honest
    have taken : (next.world.store.context target).includes.IsTaken := by
      obtain ⟨owners, ordered⟩ := orderly
      exact (ordered.sound _ (List.mem_of_getElem? present)).2
    have known := quiet.known faithful orderly taken
    have woken : Task.step engine next.world
        (.awaiting call target context wanted.query.goal) =
          some (next.world, .walking context wanted.query.goal) :=
      if_pos (Option.isSome_iff_ne_none.mpr known)
    have walks := comes_to_proceeded present woken
    obtain ⟨after, comes', quiet', tasks⟩ :=
      exists_quiet (walks.faithful faithful orderly).1 (walks.orderly orderly).1
    refine .inr ⟨after, engine, context, comes.trans (walks.trans comes'), quiet', ?_⟩
    rw [tasks, flushed, List.getElem?_map, List.getElem?_set_self inside]
    rfl
  | resolving target passed rest context goal => cases quiet _ (List.mem_of_getElem? present)
  | updating update goal => exact honest.elim
  | looking lookup goal => exact honest.elim
  | loading load => exact honest.elim
  | keying base settled current rest => exact honest.elim

/-- A query about a document that is to be answered with something can be answered with it. -/
theorem comes_to_answer (faithful : state.Faithful config provision own commands)
    (orderly : state.Orderly) (asked : commands[index]? = some wanted.command)
    (expected : wanted.Expects provision reply) :
    ∃ after, state.ComesTo after ∧ after.reply? index = some reply := by
  have answered : ∃ after reply, state.ComesTo after ∧ after.reply? index = some reply := by
    obtain answered | ⟨next, engine, context, comes, quiet, present⟩ :=
      comes_to_walk faithful orderly asked
    · exact answered
    obtain ⟨faithful, -⟩ := comes.faithful faithful orderly
    obtain ⟨orderly, -⟩ := comes.orderly orderly
    obtain ⟨-, shows⟩ := faithful.honest asked present
    obtain ⟨final, finish, trail, -⟩ := shows.expects.mp expected
    obtain ⟨after, reply, comes', answered⟩ := quiet.answers faithful orderly present trail
      (final.length + 1) fun entered _ => by omega
    exact ⟨after, reply, comes.trans comes', answered⟩
  obtain ⟨after, reply', comes, answered⟩ := answered
  have same := expected.unique ((comes.faithful faithful orderly).1.answers asked answered)
  exact ⟨after, comes, same ▸ answered⟩

section Buffers

variable {wanted : BufferQuery}

/-- A reply about a buffer is what the query is to be answered with. -/
theorem Faithful.expects (faithful : state.Faithful config provision own commands)
    (asked : commands[index]? = some wanted.command) (answered : state.reply? index = some reply) :
    wanted.inquiry.Expects provision reply :=
  faithful.answers (show commands[index]? = some wanted.inquiry.command from asked) answered

/-- A query about a buffer that is to be answered with something can be answered with it. -/
theorem comes_to_reply (faithful : state.Faithful config provision own commands)
    (orderly : state.Orderly) (asked : commands[index]? = some wanted.command)
    (expected : wanted.inquiry.Expects provision reply) :
    ∃ after, state.ComesTo after ∧ after.reply? index = some reply :=
  comes_to_answer faithful orderly
    (show commands[index]? = some wanted.inquiry.command from asked) expected

/-- A query about a buffer is answered by a fresh engine that carries out nothing else. -/
def AnsweredAlone (config : Config) (source : Source) (wanted : BufferQuery) (reply : Reply) :
    Prop :=
  ∃ events after, (∀ event ∈ events, event.Internal) ∧
    (initial config source 1).run? (.ask 0 wanted.command :: events) = some after ∧
    after.reply? 0 = some reply

/-- A fresh engine answers with what is to be answered. -/
theorem answeredAlone_iff_of_brings {source : Source}
    (brings : source.Brings config provision none) :
    AnsweredAlone config source wanted reply ↔ wanted.inquiry.Expects provision reply := by
  have fresh := faithful_of_brings brings 1
  have orderly := orderly_initial config source 1
  constructor
  · rintro ⟨events, after, internal, ran, answered⟩
    obtain ⟨faithful, -⟩ := fresh.run orderly (List.forall_mem_cons.mpr ⟨.ask 0 wanted,
      fun event listed => (internal event listed).allowed⟩) ran
    exact faithful.expects rfl answered
  · intro expected
    obtain ⟨begun, went⟩ : ∃ begun,
        (initial config source 1).step? (.ask 0 wanted.command) = some begun :=
      ⟨_, step?_ask_eq_some_iff.mpr ⟨Nat.zero_lt_one, rfl⟩⟩
    obtain ⟨faithful, -⟩ := fresh.step orderly (.ask 0 wanted) went
    have asked : ([] ++ asked [.ask 0 wanted.command])[0]? = some wanted.command := rfl
    obtain ⟨after, ⟨events, internal, ran⟩, answered⟩ :=
      comes_to_reply faithful (orderly.step went).1 asked expected
    exact ⟨events, after, internal, run?_cons_eq_some_iff.mpr ⟨begun, went, ran⟩, answered⟩

theorem answeredAlone_iff {source : Source} (provides : source.Provides config provision) :
    AnsweredAlone config source wanted reply ↔ wanted.inquiry.Expects provision reply :=
  answeredAlone_iff_of_brings (provides.brings none)

end Buffers

/-- However engines that share a registry carry out queries about buffers: what has been answered is
just what a fresh engine answers that carries out nothing else; what such an engine answers can
still be answered; and includes that are known lead to the pages that are provided for them, in the
order in which they are written. -/
theorem answered_as_alone {source : Source} {engines : Nat}
    (provides : source.Provides config provision)
    (allowed : ∀ event ∈ events, event.Allowed config provision)
    (ran : (initial config source engines).run? events = some state) :
    (∀ {index : Nat} {wanted : BufferQuery} {reply : Reply},
      (Traffic.asked events)[index]? = some wanted.command →
      state.reply? index = some reply →
        ∀ reply', AnsweredAlone config source wanted reply' ↔ reply' = reply) ∧
    (∀ {index : Nat} {wanted : BufferQuery} {reply : Reply},
      (Traffic.asked events)[index]? = some wanted.command →
      AnsweredAlone config source wanted reply →
        ∃ later after, (∀ event ∈ later, event.Internal) ∧ state.run? later = some after ∧
          after.reply? index = some reply) ∧
    ∀ {id : ContextId} {ids : List ContextId},
      (state.world.store.context id).includes.value = some ids →
        ids.map state.world.store.page =
          (state.world.store.context id).table.includes.filterMap
            (provision.target? (state.world.store.context id).key) := by
  have orderly := orderly_initial config source engines
  obtain ⟨faithful, -⟩ := (faithful_initial provides engines).run orderly allowed ran
  rw [List.nil_append] at faithful
  refine ⟨fun asked answered reply' => ?_, fun asked alone => ?_, faithful.world.links⟩
  · have expected := faithful.expects asked answered
    rw [answeredAlone_iff provides]
    refine ⟨fun expected' => expected'.unique expected, ?_⟩
    rintro rfl
    exact expected
  · obtain ⟨after, ⟨later, internal, ran'⟩, answered⟩ :=
      comes_to_reply faithful (orderly.run ran).1 asked ((answeredAlone_iff provides).mp alone)
    exact ⟨later, after, internal, ran', answered⟩

/-- Of two documents the first comes later. -/
def slowFirst : Source :=
  (Source.none.withDocument "mem:a" ⟨20, .ok ⟨"!define A", .utf8⟩⟩).withDocument "mem:b"
    ⟨10, .ok ⟨"!define B", .utf8⟩⟩

theorem slowFirst_provides : slowFirst.Provides .standard (slowFirst.provision .standard) where
  extension := rfl
  document _ := rfl
  documentInTime same url := by
    cases same
    simp only [slowFirst, Source.withDocument, Source.none, Supply.missing]
    split_ifs
    · exact Nat.le_of_ble_eq_true rfl
    · exact Nat.le_of_ble_eq_true rfl
    · exact Nat.zero_le _
  listing _ := rfl
  listingInTime _ _ := Nat.zero_le _

/-- Suggestions for a buffer that includes both documents. -/
def wantsBoth : BufferQuery :=
  ⟨"!includeurl mem:a\n!includeurl mem:b", .suggestions default .all⟩

/-- Suggestions for a buffer that includes the second document and a missing one. -/
def wantsSecond : BufferQuery :=
  ⟨"!includeurl mem:b\n!includeurl mem:none", .suggestions default .all⟩

/-- The second query joins the fetch that the first one has begun, and is answered before it. -/
def crossed : List Event :=
  List.flatten [[.ask 0 wantsBoth.command, .ask 0 wantsSecond.command],
    List.replicate 9 (.proceed 0), List.replicate 11 (.proceed 1), [.wait 10, .resume 0],
    List.replicate 4 (.proceed 0), [.resume 1], List.replicate 8 (.proceed 1),
    [.wait 20, .resume 0], List.replicate 8 (.proceed 0)]

def labels : Reply → List String
  | .items items => items.map (·.label)
  | _ => []

theorem answered_as_alone_when_crossed : ∃ state reply reply',
    (initial .standard slowFirst 1).run? crossed = some state ∧
    state.reply? 0 = some reply ∧ labels reply = ["A", "B"] ∧
    AnsweredAlone .standard slowFirst wantsBoth reply ∧
    state.reply? 1 = some reply' ∧ labels reply' = ["B"] ∧
    AnsweredAlone .standard slowFirst wantsSecond reply' := by
  have shown : ((initial .standard slowFirst 1).run? crossed).map (fun state =>
      ((state.reply? 0).map labels, (state.reply? 1).map labels)) =
        some (some ["A", "B"], some ["B"]) := by decide +kernel
  obtain ⟨state, ran, shown⟩ := Option.map_eq_some_iff.mp shown
  obtain ⟨both, second⟩ := Prod.mk.inj shown
  obtain ⟨reply, answered, items⟩ := Option.map_eq_some_iff.mp both
  obtain ⟨reply', answered', items'⟩ := Option.map_eq_some_iff.mp second
  have provides := slowFirst_provides
  have allowed : ∀ event ∈ crossed, event.Allowed .standard (slowFirst.provision .standard) := by
    simp [crossed, or_imp, forall_and, Event.Allowed.ask, Event.Allowed.proceed,
      Event.Allowed.resume, Event.Allowed.wait]
  have alone := answered_as_alone provides allowed ran
  exact ⟨state, reply, reply', ran, answered, items, (alone.1 rfl answered reply).mpr rfl,
    answered', items', (alone.1 rfl answered' reply').mpr rfl⟩

end Traffic

end DiagramAssist
