import DiagramAssist.Engine.World

/-! # Loading and storing documents

A load gets the document under a key, fetching and parsing it if nobody has; calls for one key share
one fetch as long as it does not fail. An update stores a tree under a key: it waits for a load of
that key that is under way, and its tree is the one that ends up stored.
-/

namespace DiagramAssist

/-- A call for the document under a key. -/
inductive Load where
  | arriving (key : String)
  | queued (key : String) (call : Nat) (slot : SlotId)
  | fetching (key : String) (slot : SlotId) (pending : Pending Payload)
  | returned (result : Except LoadError ContextId)

def Payload.toContext (payload : Payload) (key : String) : Except LoadError Context :=
  match payload.decode key with
  | .error error => .error (.fetch error)
  | .ok text =>
    match parse text with
    | .error error => .error (.parse key error)
    | .ok root => .ok (.fresh (some key) root)

/-- The document that a fetch brought for a key. -/
def loaded (key : String) (outcome : Except FetchError Payload) : Except LoadError Context :=
  match outcome with
  | .error error => .error (.fetch error)
  | .ok payload => payload.toContext key

namespace Load

instance : Inhabited Load := ⟨.arriving ""⟩

/-- Goes on from how the call stands with the slot. -/
def proceed (world : World) (key : String) (call : Nat) (slot : SlotId) :
    Cell.Standing ContextId → World × Load
  | .found context => (world, .returned (.ok context))
  | .queued => (world, .queued key call slot)
  | .holding =>
    let (world, pending) := world.fetchDocument key
    (world, .fetching key slot pending)

def step (world : World) : Load → Step Load
  | .arriving key =>
    let (world, call) := world.newCall
    let (registry, slot, standing) := world.registry.arrive key call
    some (proceed { world with registry } key call slot standing)
  | .queued key call slot =>
    match world.registry.standing slot call with
    | .queued => none
    | standing => some (proceed world key call slot standing)
  | .fetching key slot pending =>
    if !world.isOver pending.timer then none
    else
      match loaded key pending.outcome with
      | .ok context =>
        let (world, id) := world.addContext context
        some ({ world with registry := world.registry.succeed slot id }, .returned (.ok id))
      | .error error =>
        some ({ world with registry := world.registry.fail key slot }, .returned (.error error))
  | .returned _ => none

/-- When a waiting load goes on by itself. -/
def due? : Load → Option Nat
  | .fetching _ _ pending => some pending.timer.due
  | _ => none

/-- The number of the wait that is over, if the load waited and can go on. -/
def woken? (world : World) : Load → Option Nat
  | .queued _ call slot => (world.registry.cell slot).woken? call
  | .fetching _ _ pending => world.ended? pending.timer
  | _ => none

end Load

/-- A call that stores a tree under a key; `fresh` is the document made for it. -/
inductive Update where
  | arriving (key : String) (fresh : ContextId)
  | queued (key : String) (fresh : ContextId) (call : Nat) (slot : SlotId)
  | returned (context : ContextId)

namespace Update

instance : Inhabited Update := ⟨.returned 0⟩

def begin (world : World) (key : String) (root : Root) : World × Update :=
  let (world, fresh) := world.addContext (.fresh (some key) root)
  (world, .arriving key fresh)

/-- The slot holds a document. If the key still has the slot, that document takes the new tree;
otherwise the update starts again. -/
def settle (world : World) (key : String) (fresh : ContextId) (slot : SlotId)
    (stored : ContextId) : World × Update :=
  if !world.registry.holds key slot then (world, .arriving key fresh)
  else if stored = fresh then (world, .returned stored)
  else
    let root := (world.store.context fresh).root
    ({ world with store := world.store.update stored fun context => { context with root } },
      .returned stored)

/-- Goes on from how the call stands with the slot. -/
def proceed (world : World) (key : String) (fresh : ContextId) (call : Nat) (slot : SlotId) :
    Cell.Standing ContextId → World × Update
  | .queued => (world, .queued key fresh call slot)
  | .found stored => settle world key fresh slot stored
  | .holding =>
    settle { world with registry := world.registry.succeed slot fresh } key fresh slot fresh

def step (world : World) : Update → Step Update
  | .arriving key fresh =>
    let (world, call) := world.newCall
    let (registry, slot, standing) := world.registry.arrive key call
    some (proceed { world with registry } key fresh call slot standing)
  | .queued key fresh call slot =>
    match world.registry.standing slot call with
    | .queued => none
    | standing => some (proceed world key fresh call slot standing)
  | .returned _ => none

/-- The number of the wait that is over, if the update waited and can go on. -/
def woken? (world : World) : Update → Option Nat
  | .queued _ _ call slot => (world.registry.cell slot).woken? call
  | _ => none

end Update

end DiagramAssist
