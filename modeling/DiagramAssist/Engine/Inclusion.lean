import DiagramAssist.Address.Basic
import DiagramAssist.Engine.Library
import DiagramAssist.Engine.Load

/-! # Resolving includes

An include is turned into the key of a document: a module of the standard library by the listing, an
absolute address as it is written, a path relative to the key of the including document. The
document is then loaded. An include that cannot be resolved, fetched or parsed is left out.
-/

namespace DiagramAssist

/-- The key of a path as seen from a document. -/
def resolvePath? (base : Option String) (path : String) : Option String := do
  let address ← Address.parse? (← base)
  return (← address.join? path).render

/-- An include being resolved to a key. -/
inductive Keying where
  | pending (content : Include)
  | looking (path : String) (lookup : Lookup)
  | settled (key : Option String)

namespace Keying

/-- The next step towards the key of an include in the document with the key `base`. -/
def step (engine : Nat) (base : Option String) (world : World) : Keying → Step Keying
  | .pending content =>
    match content.kind with
    | .standard => some (world, .looking content.target.value .arriving)
    | .url => some (world, .settled (some content.target.value))
    | .path => some (world, .settled (resolvePath? base content.target.value))
  | .looking path lookup =>
    match lookup with
    | .returned (.ok entries) =>
      some (world, .settled (LibraryEntry.resolve? entries world.config.extension path))
    | .returned (.error _) => some (world, .settled none)
    | lookup => (lookup.step engine world).map fun (world, lookup) => (world, .looking path lookup)
  | .settled _ => none

/-- When a waiting resolution goes on by itself. -/
def due? : Keying → Option Nat
  | .looking _ lookup => lookup.due?
  | _ => none

/-- The number of the wait that is over, if the resolution waited and can go on. -/
def woken? (engine : Nat) (world : World) : Keying → Option Nat
  | .looking _ lookup => lookup.woken? engine world
  | _ => none

end Keying

/-- An include being resolved to a document. -/
inductive Inclusion where
  | keying (keying : Keying)
  | loading (load : Load)
  | settled (context : Option ContextId)

namespace Inclusion

/-- The next step towards the document of an include. -/
def step (engine : Nat) (base : Option String) (world : World) : Inclusion → Step Inclusion
  | .keying (.settled none) => some (world, .settled none)
  | .keying (.settled (some key)) => some (world, .loading (.arriving key))
  | .keying state => (state.step engine base world).map fun (world, state) => (world, .keying state)
  | .loading (.returned (.ok context)) => some (world, .settled (some context))
  | .loading (.returned (.error _)) => some (world, .settled none)
  | .loading load => (load.step world).map fun (world, load) => (world, .loading load)
  | .settled _ => none

/-- When a waiting resolution goes on by itself. -/
def due? : Inclusion → Option Nat
  | .keying state => state.due?
  | .loading load => load.due?
  | .settled _ => none

/-- The number of the wait that is over, if the resolution waited and can go on. -/
def woken? (engine : Nat) (world : World) : Inclusion → Option Nat
  | .keying state => state.woken? engine world
  | .loading load => load.woken? world
  | .settled _ => none

/-- The documents of includes that are all settled, in the order of the includes. -/
def contexts? : List Inclusion → Option (List ContextId)
  | [] => some []
  | .settled context :: rest => do
    let later ← contexts? rest
    match context with
    | some context => return context :: later
    | none => return later
  | _ :: _ => none

end Inclusion

end DiagramAssist
