import NamedCaches.Request.Step
import NamedCaches.Request.Config
import NamedCaches.Session.Basic
import NamedCaches.Cache.Ops
set_option autoImplicit false
/-!
# Session requests

The `session` request builds a registry over the bench's collaborators from a configuration
document and named sources, and runs steps against it: steps on the registry (resolving,
listing and shutting down managers, the failure log, creating caches of the session's own) and
steps on one cache, named by its session name or by manager and cache name.

Each step is answered with the bench log lines it wrote and the failures the bench recorded
while it ran (after emptying the failure log: what the log then holds). For batch reads both
lists are sorted by their JSON text.
-/

namespace NamedCaches

open Json

/-- A recorded failure as an answer. -/
def HandledFailure.toValue (h : HandledFailure) : Value :=
  .object [("cache", .str h.cache), ("manager", .ofOption h.manager), ("key", .ofOption h.key),
    ("error", .str h.failure.kind), ("message", .str h.failure.message),
    ("recoverable", .bool h.failure.isRecoverable)]

/-- What a store shows of its engine: the expiries it took and its capacity; a scripted store
has no engine. -/
def BenchStore.engineValue : BenchStore → Value
  | .engine e =>
    let span (s : Option Span) := (s.map Span.toValue).getD .null
    .object [("time_to_idle", span e.idle), ("time_to_live", span e.live),
      ("max_capacity", .ofNat e.capacity)]
  | .scripted _ => .null

/-- The engine's record text; a scripted store has none. -/
def BenchStore.describeValue : BenchStore → Value
  | .engine e => .str e.describe
  | .scripted _ => .null

namespace Request

/-- How a step names a cache: `local`, or `cache` with an optional `manager`. -/
def address (step : Value) : Reply Address :=
  match step.optText "local" with
  | some n => .ok (.standalone n)
  | none => do
    let name ← step.needText "cache"
    pure (.managed (step.optText "manager") name)

/-- The keys a step gives under `keys`: a list of strings. -/
def keyList (step : Value) : Reply (List String) :=
  match (step.get "keys").arr? with
  | none => Reply.bad "expected an array of strings"
  | some xs =>
    match xs.mapM Value.str? with
    | some ks => .ok ks
    | none => Reply.bad "keys must be strings"

/-- The key and value pairs a step gives under `entries`: a list of lists of two strings. -/
def entryList (step : Value) : Reply (List (String × String)) :=
  let pair (v : Value) : Option (String × String) := match v with
    | .arr [.str k, .str x] => some (k, x)
    | _ => none
  match (step.get "entries").arr? with
  | none => Reply.bad "missing entries"
  | some xs =>
    match xs.mapM pair with
    | some es => .ok es
    | none => Reply.bad "entries are [key, value] string pairs"

/-- The listener names of the cache, as an answer. -/
def listenerNames : BenchOp Value := do
  pure (.arr (((← Cache.current).listenerNames).map Value.str))

/-- The cache's status, as an answer. -/
def statusText : BenchOp Value := do
  pure (.str (← Cache.current).status.text)

/-- The operation a cache step asks for; `none` for a step that is no cache operation. -/
def cacheOp (step : Value) (name : String) : Option (Reply (BenchOp Value)) :=
  let key := step.needText "key"
  let arg := argument (step.field? "arg")
  let found (v : Option String) := Value.ofOption v
  let values (kvs : List (String × String)) := Value.object (kvs.map fun (k, v) => (k, .str v))
  match name with
  | "get" => some (key.map fun k => found <$> Cache.get k none)
  | "get_with" => some (key.map fun k => found <$> Cache.get k (some arg))
  | "get_all" => some ((keyList step).map fun ks => values <$> Cache.getAll ks none)
  | "get_all_with" => some ((keyList step).map fun ks => values <$> Cache.getAll ks (some arg))
  | "put" => some do
    let k ← key
    let v ← step.needText "value"
    pure (do Cache.put k v; pure .null)
  | "put_all" => some ((entryList step).map fun es => do Cache.putAll es; pure .null)
  | "remove" => some (key.map fun k => found <$> Cache.remove k)
  | "remove_all" => some (.ok (do Cache.removeAll; pure .null))
  | "contains_key" => some (key.map fun k => Value.bool <$> Cache.containsKey k)
  | "len" => some (.ok (Value.ofNat <$> Cache.len))
  | "is_empty" => some (.ok (Value.bool <$> Cache.isEmpty))
  | "status" => some (.ok statusText)
  | "is_alive" => some (.ok (do pure (.bool (← Cache.current).isAlive)))
  | "initialise" => some (.ok (do Cache.initialise; statusText))
  | "dispose" => some (.ok (do Cache.dispose; statusText))
  | "loader_name" => some (.ok (do pure (found (← Cache.current).loaderName)))
  | "listener_names" => some (.ok listenerNames)
  | "register_loader" => some ((loader step).map fun l => do
      Cache.registerLoader l
      pure (.str (Named.name l)))
  | "attach_declared_loader" => some ((loader step).map fun t => do
      Cache.attachDeclaredLoader t
      pure (found (← Cache.current).loaderName))
  | "register_listener" => some ((listener (step.get "listener")).map fun l => do
      Cache.registerListener l
      listenerNames)
  | "replace_listeners" => some ((((step.get "listeners").arr?).getD []).mapM listener |>.map fun ls => do
      Cache.replaceListeners ls
      listenerNames)
  | "debug" => some (.ok do
      let n ← Cache.len
      let c ← Cache.current
      pure (.object [("cache", .str c.describe), ("store", c.store.describeValue), ("len", .ofNat n)]))
  | _ => none

/-- A cache as an answer, numbered by the session. -/
def describeCache (i : Instance) (c : BenchCache) : StateM Session Value := do
  let id ← Session.cacheNumber i
  pure (.object [("id", .ofNat id), ("settings", c.settings.toValue), ("status", .str c.status.text),
    ("loader_name", .ofOption c.loaderName), ("listener_names", .arr (c.listenerNames.map .str)),
    ("engine", c.store.engineValue)])

/-- A manager as an answer, numbered by the session. -/
def describeManager (m : BenchManager) : StateM Session Value := do
  let id ← Session.managerNumber m.name
  let failed := m.failed.map fun (n, f) => Value.object [("cache", .str n), ("error", .str f.kind),
    ("message", .str f.message), ("recoverable", .bool f.isRecoverable)]
  pure (.object [("id", .ofNat id), ("name", .ofOption m.name), ("caches", .arr (m.cacheNames.map .str)),
    ("failed", .arr failed)])

/-- Answers a step on the cache it names, which is found before anything else of the step is
read: an unknown session name is a malformed step, a cache that could not be built answers its
failure, and an undeclared one answers that it is absent. -/
def onCache (step : Value) (k : Instance → BenchCache → StateM Session (Reply Value)) :
    StateM Session (Reply Value) := do
  match address step with
  | .error e => pure (.error e)
  | .ok a =>
    match ← Session.locate a with
    | .unknown =>
      let name := match a with
        | .standalone n => n
        | .managed _ n => n
      pure (Reply.bad ("no local cache " ++ name))
    | .failed f => pure (Reply.failure f)
    | .absent => pure (.ok (.object [("absent", .bool true)]))
    | .found i c => k i c

/-- Answers a step with the manager it names. -/
def onManager (step : Value) (k : BenchManager → StateM Session (Reply Value)) :
    StateM Session (Reply Value) := do
  match ← Session.manager (step.optText "manager") with
  | .error f => pure (Reply.failure f)
  | .ok m => k m

/-- `new_cache`: creates a cache of the session's own from a declaration, with the engine or a
scripted store, and the recording or logging handler. -/
def newCache (step : Value) : StateM Session (Reply Value) := do
  match step.needText "local" with
  | .error e => pure (.error e)
  | .ok localName =>
    let decl : Reply CacheDecl := match step.get "config" with
      | .null => .ok {}
      | v => match CacheDecl.shape.ofValue v with
        | .ok n => .ok (CacheDecl.ofNormal n)
        | .error p => Reply.bad p.text
    match decl with
    | .error e => pure (.error e)
    | .ok d =>
      let settings := Settings.resolve (step.optText "manager") ((step.optText "name").getD localName) d
      let handler := if step.optText "handler" == some "logging" then BenchHandler.logging else .recording
      let spec := step.get "store"
      match valueTable (spec.get "fail"), valueTable (spec.get "fail_keys") with
      | .error e, _ | _, .error e => pure (.error e)
      | .ok failOn, .ok failKeys =>
        let store ← match spec with
          | .null => BenchStore.engine <$> Session.onWorld (Engine.create settings)
          | _ => pure (BenchStore.scripted { failOn, failKeys })
        let c : BenchCache := { settings, store, listeners := [.sink], handler }
        let i ← Session.create localName c
        pure (.ok (← describeCache i c))

/-- Manager names in the order answers list them: the default manager first, then by name. -/
def sortedNames (names : List (Option String)) : List Value :=
  let named := (names.filterMap id).mergeSort (fun a b => decide (a ≤ b))
  (if names.contains none then [Value.null] else []) ++ named.map .str

/-- Runs one step of a session. -/
def sessionStep (step : Value) : StateM Session (Reply Value) := do
  match step.get "do" with
  | .str "get_manager" => onManager step fun m => do pure (.ok (← describeManager m))
  | .str "manager_names" => pure (.ok (.arr (sortedNames (← get).registry.managerNames)))
  | .str "shutdown" => onManager step fun m => do
    let m' ← Session.onWorld m.shutdown
    Session.setManager m'
    pure (.ok (.object [("id", .ofNat (← Session.managerNumber m'.name))]))
  | .str "recorder" =>
    let n := (← get).world.failures.size
    pure (.ok (.object [("len", .ofNat n), ("is_empty", .bool (n == 0))]))
  | .str "reset_counters" =>
    modify fun s => { s with world := { s.world with failures := #[] } }
    pure (.ok .null)
  | .str "new_cache" => newCache step
  | .str "clone_listener" =>
    pure ((listener (step.get "listener")).bind fun l =>
      Reply.ofExcept (l.clone.map fun c => .str (Named.name c)))
  | .str "debug_manager" => onManager step fun m => pure (.ok (.str m.describe))
  | .str "debug_registry" => pure (.ok (.str (← get).registry.describe))
  | .str "get_cache" | .str "describe" => onCache step fun i c => do pure (.ok (← describeCache i c))
  | .str name => onCache step fun i c => do
    match cacheOp step name with
    | none => pure (Reply.bad ("unknown step " ++ name))
    | some (.error e) => pure (.error e)
    | some (.ok op) =>
      let (r, _) ← Session.run i c op
      pure (Reply.ofExcept r)
  | _ => pure (Reply.bad "missing string field `do`")

/-- Values sorted by their JSON text. -/
def sortByText (xs : List Value) : List Value :=
  xs.mergeSort fun a b => decide (a.render ≤ b.render)

/-- Runs the steps in order, answering each with the log lines and failures it produced. -/
def sessionSteps : List Value → StateM Session (List Value)
  | [] => pure []
  | step :: rest => do
    let before := (← get).world
    let r ← sessionStep step
    let after := (← get).world
    let name := step.get "do"
    let events := (after.events.toList.drop before.events.size).map Value.str
    let recorded := if name.str? == some "reset_counters" then after.failures.toList
      else after.failures.toList.drop before.failures.size
    let failures := recorded.map HandledFailure.toValue
    let batch := name.str? == some "get_all" || name.str? == some "get_all_with"
    let answer := if batch then stepAnswer r (sortByText events) (sortByText failures)
      else stepAnswer r events failures
    pure (answer :: (← sessionSteps rest))

/-- `session`: builds the registry from the request and runs its steps. -/
def session (req : Value) : Reply Value := do
  let text := match req.optText "document_text", req.field? "document" with
    | some t, _ => t
    | none, some d => d.render
    | none, none => "{}"
  let doc ← Reply.ofExcept (Document.parse text)
  let base : Source := match req.optText "base_text" with
    | some t => { name := "base", origin := .text t }
    | none => { name := "default", origin := .declared (.ofList doc.caches) }
  let fromDocument := doc.managers.map fun (n, ds) =>
    (n, ({ name := n, origin := .declared (.ofList ds) } : Source))
  let named := ((req.get "sources").obj?.getD []).foldl (fun acc (n, v) =>
    Fields.insert n ({ name := n, origin := .text (textOf v) } : Source) acc) fromDocument
  let handler := if req.optText "default_handler" == some "logging" then BenchHandler.logging else .recording
  let steps := ((req.get "steps").arr?).getD []
  let (answers, _) := (sessionSteps steps).run { registry := BenchRegistry.create base named handler }
  pure (.object [("steps", .arr answers)])

end Request

end NamedCaches
