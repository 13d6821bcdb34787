import NamedCaches.Bench.Loader
import NamedCaches.Bench.Listener
import NamedCaches.Bench.Store
import NamedCaches.Bench.Handler
import NamedCaches.Registry
set_option autoImplicit false
/-!
# Bench sessions

A session drives one registry, and caches of its own, with the bench's collaborators. It keeps
the registry, the standalone caches by the name the session gave them, and the bench world.

A step addresses a cache either by its session name or by manager and cache name; looking a
managed cache up builds its manager first, and that build may fail. Operations run on the cache
and on the world, and the cache they leave behind replaces the old one where it is kept.

Managers and caches are numbered by the session in the order it first shows them: a manager is
one instance per name, a managed cache one per manager and name, and every standalone cache the
session creates is a new instance, also when it reuses a name.
-/

namespace NamedCaches

/-- A cache of the test bench. -/
abbrev BenchCache := Cache BenchLoader BenchListener BenchHandler BenchStore

/-- A manager of the test bench. -/
abbrev BenchManager := Manager BenchLoader BenchListener BenchHandler BenchStore

/-- A registry of the test bench. -/
abbrev BenchRegistry := Registry BenchLoader BenchListener BenchHandler BenchStore World

/-- An operation on a cache of the test bench. -/
abbrev BenchOp (α : Type) := CacheM BenchLoader BenchListener BenchHandler BenchStore World α

/-- A registry over the bench's factories, with the engine as every cache's store and the null
sink as every cache's first listener. -/
def BenchRegistry.create (base : Source) (named : List (String × Source))
    (defaultHandler : BenchHandler) : BenchRegistry where
  files := Files.empty
  base
  named
  loaders := BenchLoader.factories
  handlers := BenchHandler.factories
  defaultHandler
  sink := .sink
  storeFor s := BenchStore.engine <$> Engine.create s
  managers := []

/-- A cache instance of a session. -/
inductive Instance where
  /-- The cache a manager built under a name. -/
  | managed (manager : Option String) (name : String)
  /-- The cache the session created as its `serial`-th own cache. -/
  | standalone (serial : Nat)
  deriving DecidableEq, Repr, Inhabited

/-- How a step names a cache. -/
inductive Address where
  /-- A cache the session created, by the name it was given. -/
  | standalone (name : String)
  /-- A cache a manager declares. -/
  | managed (manager : Option String) (name : String)
  deriving DecidableEq, Repr, Inhabited

/-- What looking a cache up finds. -/
inductive Lookup where
  /-- The session created no cache of that name. -/
  | unknown
  /-- The manager could not be built, or the cache could not. -/
  | failed (f : Failure)
  /-- The manager declares no cache of that name. -/
  | absent
  /-- The cache. -/
  | found (i : Instance) (c : BenchCache)
  deriving Inhabited

/-- The number of an item in a list of items numbered in order of appearance, and the list
with the item added if it is new. -/
def numbering {α : Type} [DecidableEq α] (x : α) (seen : List α) : Nat × List α :=
  match seen.idxOf? x with
  | some i => (i, seen)
  | none => (seen.length, seen ++ [x])

/-- The state of a session. -/
structure Session where
  registry : BenchRegistry
  /-- The caches the session created, by name, with their serial numbers. -/
  standalone : List (String × Nat × BenchCache) := []
  /-- The number of caches the session created so far. -/
  created : Nat := 0
  /-- The managers shown so far, in order. -/
  managersShown : List (Option String) := []
  /-- The cache instances shown so far, in order. -/
  cachesShown : List Instance := []
  world : World := {}

namespace Session

/-- Runs an action on the world. -/
def onWorld {α : Type} (act : StateM World α) : StateM Session α := do
  let s ← get
  let (a, w) := act.run s.world
  set { s with world := w }
  pure a

/-- Runs an action on the registry and the world. -/
def onRegistry {α : Type} (act : StateT BenchRegistry (StateM World) α) : StateM Session α := do
  let s ← get
  let ((a, r), w) := (act.run s.registry).run s.world
  set { s with registry := r, world := w }
  pure a

/-- The manager of a name, built on first use. -/
def manager (name : Option String) : StateM Session (Except Failure BenchManager) :=
  onRegistry (Registry.getManager name)

/-- Replaces a built manager. -/
def setManager (m : BenchManager) : StateM Session Unit :=
  modify fun s => { s with registry := s.registry.setManager m }

/-- The number of a manager, which it gets when first shown. -/
def managerNumber (name : Option String) : StateM Session Nat := do
  let s ← get
  let (n, seen) := numbering name s.managersShown
  set { s with managersShown := seen }
  pure n

/-- The number of a cache instance, which it gets when first shown. -/
def cacheNumber (i : Instance) : StateM Session Nat := do
  let s ← get
  let (n, seen) := numbering i s.cachesShown
  set { s with cachesShown := seen }
  pure n

/-- Keeps a new cache of the session's own under a name, replacing one of that name. -/
def create (name : String) (c : BenchCache) : StateM Session Instance := do
  let s ← get
  set { s with standalone := (name, s.created, c) :: s.standalone.filter (·.1 != name),
               created := s.created + 1 }
  pure (.standalone s.created)

/-- Finds the cache an address names. -/
def locate : Address → StateM Session Lookup
  | .standalone name => do
    match (← get).standalone.lookup name with
    | some (serial, c) => pure (.found (.standalone serial) c)
    | none => pure .unknown
  | .managed m name => do
    match ← onRegistry (Registry.getCache m name) with
    | .error f => pure (.failed f)
    | .ok none => pure .absent
    | .ok (some c) => pure (.found (.managed m name) c)

/-- Puts back the cache an operation left behind. -/
def keep (i : Instance) (c : BenchCache) : StateM Session Unit :=
  match i with
  | .standalone serial =>
    modify fun s => { s with standalone := s.standalone.map fun (n, k, old) =>
      if k == serial then (n, k, c) else (n, k, old) }
  | .managed m name =>
    modify fun s => match s.registry.managers.lookup m with
      | some mgr => { s with registry := s.registry.setManager (mgr.setCache name c) }
      | none => s

/-- Runs an operation on a found cache and keeps the cache it leaves behind. -/
def run {α : Type} (i : Instance) (c : BenchCache) (op : BenchOp α) :
    StateM Session (Except Failure α × BenchCache) := do
  let (r, c') ← onWorld ((op.run).run c)
  keep i c'
  pure (r, c')

end Session

end NamedCaches
