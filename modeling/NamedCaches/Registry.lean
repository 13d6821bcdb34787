import NamedCaches.Cache.Ops
import NamedCaches.Config.Source
import NamedCaches.Config.Properties
set_option autoImplicit false
/-!
# Managers and the registry

A registry resolves manager names (`none` is the default manager) to managers. The first request
for a name merges the named source registered under that name, if any, over the base source and
builds every declared cache, in name order; later requests get the same manager. A failed
request memoises nothing, so the next one builds again from the sources.

Building a cache classifies its problems. These sink the whole manager, in this order: its
handler names an unknown handler factory, its handler properties do not parse, the handler
factory fails, its loader names an unknown loader factory, its loader properties do not parse.
The caches already built are then disposed. These only make the cache unusable, and the cache is
disposed and remembered with its failure: the loader factory fails to build the template, the
template cannot be cloned for the cache, the clone's `init` fails.

A cache starts with the registry's default listener and store. Its loader template is built from
the parsed properties when the declaration gives `properties` (even empty), and from the
declaration's environment otherwise; the template is cloned for the cache and disposed.
-/

namespace NamedCaches

/-- Builds loaders from declarations: from an environment object, or for a named cache from
parsed properties. -/
structure LoaderFactory (L W : Type) where
  create : List (String × Json.Value) → StateM W (Except Failure L)
  createFor : String → Properties → StateM W (Except Failure L)

/-- Builds a failure handler from parsed properties. -/
structure HandlerFactory (H W : Type) where
  create : Properties → StateM W (Except Failure H)

/-- The caches one merged configuration declares: the usable ones, and the failed ones with why,
both in name order. -/
structure Manager (L E H S : Type) where
  name : Option String
  caches : List (String × Cache L E H S)
  failed : List (String × Failure)
  deriving Inhabited

namespace Manager

variable {L E H S W : Type}

/-- The manager's name in log lines. -/
def label (m : Manager L E H S) : String := m.name.getD "default"

/-- The names of the usable caches, in order. -/
def cacheNames (m : Manager L E H S) : List String := m.caches.map Prod.fst

/-- A declared cache: its failure if it could not be built, `none` if it was never declared. -/
def getCache [Journal W] (m : Manager L E H S) (name : String) :
    StateM W (Except Failure (Option (Cache L E H S))) := do
  match Json.Fields.get? name m.failed with
  | some f => pure (.error f)
  | none =>
    match Json.Fields.get? name m.caches with
    | some c => pure (.ok (some c))
    | none =>
      logLine .debug Target.manager
        ("Cache '" ++ name ++ "' not declared in manager '" ++ m.label ++ "'")
      pure (.ok none)

/-- Replaces a usable cache. -/
def setCache (m : Manager L E H S) (name : String) (c : Cache L E H S) : Manager L E H S :=
  { m with caches := Json.Fields.insert name c m.caches }

/-- Runs an operation on a cache outside any manager, keeping the cache it leaves behind. -/
def runOn {α : Type} (c : Cache L E H S) (op : CacheM L E H S W α) :
    StateM W (Except Failure α × Cache L E H S) :=
  (op.run).run c

/-- Disposes a cache; a failure is only logged. -/
def disposeQuietly [Named L] [KeyedLoader L W] [Listener E W] [Handler H W] [Storage S W]
    [Journal W] (c : Cache L E H S) : StateM W (Cache L E H S) := do
  let (r, c') ← runOn c Cache.dispose
  if let .error e := r then
    logLine .error Target.registry ("Failed to dispose cache '" ++ c.name ++ "': " ++ e.message)
  pure c'

/-- Disposes every usable cache in name order; the manager stays as it is otherwise. -/
def shutdown [Named L] [KeyedLoader L W] [Listener E W] [Handler H W] [Storage S W] [Journal W]
    (m : Manager L E H S) : StateM W (Manager L E H S) := do
  let caches ← m.caches.mapM fun (n, c) => do
    let (r, c') ← runOn c Cache.dispose
    if let .error e := r then
      logLine .error Target.manager ("Failed to dispose cache '" ++ n ++ "': " ++ e.message)
    pure (n, c')
  logLine .info Target.manager ("Cache manager '" ++ m.label ++ "' shut down")
  pure { m with caches }

/-- The manager as a record: `CacheManager { name: None, cache_names: ["a"], failed: [] }`. -/
def describe (m : Manager L E H S) : String :=
  let names (xs : List String) := "[" ++ ", ".intercalate (xs.map Text.quoted) ++ "]"
  let name := match m.name with
    | some n => "Some(" ++ Text.quoted n ++ ")"
    | none => "None"
  "CacheManager \x7b name: " ++ name ++ ", cache_names: " ++ names m.cacheNames ++ ", failed: " ++
    names (m.failed.map Prod.fst) ++ " \x7d"

end Manager

/-- Resolves manager names to managers, building each once from its sources. -/
structure Registry (L E H S W : Type) where
  /-- The files file sources read. -/
  files : Files
  /-- The base source every manager starts from. -/
  base : Source
  /-- The sources that override the base, by manager name. -/
  named : List (String × Source)
  /-- Loader factories by name. -/
  loaders : List (String × LoaderFactory L W)
  /-- Handler factories by name. -/
  handlers : List (String × HandlerFactory H W)
  /-- The handler of caches that declare none. -/
  defaultHandler : H
  /-- The listener every new cache starts with. -/
  sink : E
  /-- The store a new cache gets. -/
  storeFor : Settings → StateM W S
  /-- The managers built so far. -/
  managers : List (Option String × Manager L E H S)

namespace Registry

variable {L E H S W : Type} [Named L] [KeyedLoader L W] [Listener E W] [Handler H W]
  [Storage S W] [Journal W]

/-- Logs that a registry is set up, with how many named sources and loader factories it has. -/
def announce (r : Registry L E H S W) : StateM W Unit :=
  logLine .info Target.registry ("Cache manager registry initialized (" ++
    toString r.named.length ++ " named sources, " ++ toString r.loaders.length ++ " loader factories)")

/-- The handler a cache's settings ask for; its problems sink the manager. -/
def resolveHandler (r : Registry L E H S W) (s : Settings) : StateM W (Except Failure H) :=
  match s.handler with
  | none => pure (.ok r.defaultHandler)
  | some d =>
    match r.handlers.lookup d.factory with
    | none => pure (.error (.unknownHandlerFactory s.name d.factory))
    | some f =>
      match Properties.parse (d.properties.getD "") d.separator with
      | .error e => pure (.error e)
      | .ok props => f.create props

/-- Turns a per-cache failure into a disposed cache and its failure. -/
def give (c : Cache L E H S) (e : Failure) : StateM W (Except Failure (Except Failure (Cache L E H S))) := do
  discard (Manager.disposeQuietly c)
  pure (.ok (.error e))

/-- Builds one cache. The outer failure sinks the manager; the inner one only the cache. -/
def buildCache (r : Registry L E H S W) (manager : Option String) (name : String) (d : CacheDecl) :
    StateM W (Except Failure (Except Failure (Cache L E H S))) := do
  let s := Settings.resolve manager name d
  match ← r.resolveHandler s with
  | .error e => pure (.error e)
  | .ok handler =>
    let plan : Except Failure (Option (LoaderFactory L W × LoaderDecl × Properties)) :=
      match s.loader with
      | none => .ok none
      | some ld =>
        match r.loaders.lookup ld.factory with
        | none => .error (.unknownLoaderFactory name ld.factory)
        | some f =>
          match Properties.parse (ld.properties.getD "") ld.separator with
          | .error e => .error e
          | .ok props => .ok (some (f, ld, props))
    match plan with
    | .error e => pure (.error e)
    | .ok plan =>
      let store ← r.storeFor s
      let c : Cache L E H S := { settings := s, store, listeners := [r.sink], handler }
      logLine .debug Target.registry ("Creating cache: " ++ name)
      let attached : Except (Failure × Cache L E H S) (Cache L E H S) ← match plan with
        | none => pure (.ok c)
        | some (f, ld, props) => do
          let template ← if ld.properties.isSome then f.createFor name props else f.create ld.environment
          match template with
          | .error e => pure (.error (e, c))
          | .ok t =>
            let (res, c') ← Manager.runOn c (Cache.attachDeclaredLoader t)
            match res with
            | .ok () => pure (.ok c')
            | .error e => pure (.error (e, c'))
      match attached with
      | .error (e, c') => give c' e
      | .ok c' =>
        let (res, c'') ← Manager.runOn c' Cache.initialise
        match res with
        | .ok () => pure (.ok (.ok c''))
        | .error e => give c'' e

/-- Builds every cache of a merged configuration, in name order. -/
def buildAll (r : Registry L E H S W) (manager : Option String) (label : String) :
    Declarations → List (String × Cache L E H S) → List (String × Failure) →
    StateM W (Except Failure (Manager L E H S))
  | [], caches, failed => do
    logLine .info Target.manager ("Cache manager '" ++ label ++ "' ready with " ++
      toString caches.length ++ " caches (" ++ toString failed.length ++ " failed)")
    pure (.ok { name := manager, caches := caches.reverse, failed := failed.reverse })
  | (name, d) :: rest, caches, failed => do
    match ← r.buildCache manager name d with
    | .error e =>
      caches.reverse.forM fun (_, c) => discard (Manager.disposeQuietly c)
      pure (.error e)
    | .ok (.ok c) => r.buildAll manager label rest ((name, c) :: caches) failed
    | .ok (.error e) =>
      logLine .error Target.registry
        ("Cache '" ++ name ++ "' in manager '" ++ label ++ "' unusable: " ++ e.message)
      r.buildAll manager label rest caches ((name, e) :: failed)

/-- Builds the manager of a name from the sources. -/
def build (r : Registry L E H S W) (name : Option String) :
    StateM W (Except Failure (Manager L E H S)) := do
  let label := name.getD "default"
  let named := name.bind fun n => r.named.lookup n
  let origin := match named with
    | some src => "source '" ++ src.name ++ "'"
    | none => "base configuration"
  logLine .debug Target.registry ("Resolving manager '" ++ label ++ "' from " ++ origin)
  match ← mergeSources r.files r.base named with
  | .error e => pure (.error e)
  | .ok merged => r.buildAll name label merged [] []

/-- The manager of a name, built on first use and remembered once built. -/
def getManager (name : Option String) :
    StateT (Registry L E H S W) (StateM W) (Except Failure (Manager L E H S)) := do
  let r ← get
  match r.managers.lookup name with
  | some m => pure (.ok m)
  | none =>
    match ← monadLift (r.build name) with
    | .error e => pure (.error e)
    | .ok m =>
      modify fun r => { r with managers := r.managers ++ [(name, m)] }
      pure (.ok m)

/-- A cache of a manager: the manager of a name, then its cache of a name. -/
def getCache (manager : Option String) (name : String) :
    StateT (Registry L E H S W) (StateM W) (Except Failure (Option (Cache L E H S))) := do
  match ← getManager manager with
  | .error e => pure (.error e)
  | .ok m => monadLift (m.getCache (W := W) name)

/-- Replaces a built manager. -/
def setManager (r : Registry L E H S W) (m : Manager L E H S) : Registry L E H S W :=
  { r with managers := r.managers.map fun (n, old) => if n == m.name then (n, m) else (n, old) }

/-- The names of the managers built so far. -/
def managerNames (r : Registry L E H S W) : List (Option String) := r.managers.map Prod.fst

/-- The registry as a record:
`CacheManagerRegistry { base: "default", named_sources: ["n"], managers: [None] }`. -/
def describe (r : Registry L E H S W) : String :=
  let list (xs : List String) := "[" ++ ", ".intercalate xs ++ "]"
  let managerName (n : Option String) := match n with
    | some n => "Some(" ++ Text.quoted n ++ ")"
    | none => "None"
  "CacheManagerRegistry \x7b base: " ++ Text.quoted r.base.name ++ ", named_sources: " ++
    list (r.named.map fun (n, _) => Text.quoted n) ++ ", managers: " ++
    list (r.managerNames.map managerName) ++ " \x7d"

end Registry

end NamedCaches
