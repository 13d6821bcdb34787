import NamedCaches.Cache.Collaborator
import NamedCaches.Loader.Binding
set_option autoImplicit false
/-!
# Caches

A cache is a named, configured front of a store: it has its settings and status, at most one
loader (with its binding), its listeners in registration order, and the handler its recoverable
failures go to.

Every operation runs on the cache and on the world (`CacheM`); it either returns a value or
fails, and what it did before failing stays done. A store, loader or listener failure that is
recoverable goes to the handler, with the key the step was about, and the step then counts as
having produced nothing (`Cache.isolate`); any other failure is the operation's.

This module holds the lifecycle: initialising (the status becomes alive, then the loader's `init`
runs), disposing (the loader is detached and disposed, the listeners are dropped and disposed,
the storage is cleared, the status becomes disposed), and the registration of loaders and
listeners.

A collaborator attached to the cache may call the cache back from inside its `init` or `dispose`
(a loader is handed the cache in `init` and may keep it). The operations that run those callbacks
take, as `reenter`, what each callback does on the cache before its own step; the plain
operations are those whose collaborators make no such calls (`noCalls`).
-/

namespace NamedCaches

/-- A cache over loader data `L`, listener data `E`, handler data `H` and store data `S`. -/
structure Cache (L E H S : Type) where
  settings : Settings
  status : Status := .uninitialized
  store : S
  binding : Option (Binding L) := none
  listeners : List E
  handler : H
  deriving Inhabited

/-- A cache operation: it runs on the cache and the world, and may fail. -/
abbrev CacheM (L E H S W : Type) := ExceptT Failure (StateT (Cache L E H S) (StateM W))

/-- A callback of a collaborator attached to a cache, from inside which the collaborator may make
calls on the cache: a loader's `init` for the named cache, a loader's `dispose`, and a listener's
`dispose`. -/
inductive Callback (L E : Type) where
  | init (cache : String) (loader : L)
  | dispose (loader : L)
  | release (listener : E)

namespace Cache

variable {L E H S W : Type}

/-- The cache's name. -/
def name (c : Cache L E H S) : String := c.settings.name

/-- Whether the cache is alive. -/
def isAlive (c : Cache L E H S) : Bool := c.status == .alive

/-- The attached loader's name. -/
def loaderName [Named L] (c : Cache L E H S) : Option String := c.binding.map Binding.name

/-- The listeners' names, in registration order. -/
def listenerNames [Named E] (c : Cache L E H S) : List String := c.listeners.map Named.name

/-- The cache itself, inside an operation. -/
def current : CacheM L E H S W (Cache L E H S) := getThe (Cache L E H S)

/-- Fails with the error of a result. -/
def orFail {α : Type} (r : Except Failure α) : CacheM L E H S W α :=
  match r with
  | .ok a => pure a
  | .error e => throw e

/-- Refuses the named operation unless the cache is operable. -/
def checkOperable (operation : String) : CacheM L E H S W Unit := do
  let c ← current
  orFail (c.status.checkOperable c.name operation)

/-- Hands a failure to the cache's handler, with the key it was about. -/
def report [Handler H W] (key : Option String) (f : Failure) : CacheM L E H S W Unit := do
  let c ← current
  monadLift (Handler.onFailure (W := W) c.handler c.settings key f)

/-- A step's result as the cache takes it: a recoverable failure goes to the handler and gives
`none`; any other failure is the operation's. -/
def isolate [Handler H W] {α : Type} (key : Option String) (r : Except Failure α) :
    CacheM L E H S W (Option α) :=
  match r with
  | .ok a => pure (some a)
  | .error f => if f.isRecoverable then do report key f; pure none else throw f

/-- Writes a log line of the cache. -/
def log [Journal W] (level : Level) (target message : String) : CacheM L E H S W Unit :=
  monadLift (logLine (W := W) level target message)

/-- Tells every listener, in order, about an event. A recoverable failure goes to the handler
and the next listener is told; any other failure stops the round and is the operation's. -/
def notify [Listener E W] [Handler H W] (key : Option String) (ev : Event) :
    CacheM L E H S W Unit := do
  let c ← current
  c.listeners.forM fun l => do
    let r ← monadLift (Listener.notify (W := W) l c.name ev)
    discard (isolate key r)

/-- Tells the listeners about the entries the store dropped on its own. A failure that is not
recoverable ends the round for that entry and is only logged. -/
def relayRemovals [Storage S W] [Listener E W] [Handler H W] [Journal W] :
    CacheM L E H S W Unit := do
  let c ← current
  let (rs, s) ← monadLift ((Storage.takeRemovals (S := S) (W := W)).run c.store)
  modify fun c => { c with store := s }
  rs.forM fun r =>
    tryCatch (notify (some r.key) r.event) fun e => do
      let c ← current
      log .error Target.handle
        ("Listener failed on " ++ r.cause.title ++ " in cache '" ++ c.name ++ "': " ++ e.message)

/-- Runs a store action, then relays what the store dropped on its own. -/
def onStore [Storage S W] [Listener E W] [Handler H W] [Journal W] {α : Type}
    (act : StoreM S W α) : CacheM L E H S W α := do
  let c ← current
  let (a, s) ← monadLift (act.run c.store)
  modify fun c => { c with store := s }
  relayRemovals
  pure a

/-- Runs a binding action on a binding that is not (or no longer) the cache's. -/
def onDetached [Named L] [KeyedLoader L W] [Journal W] {α : Type}
    (act : Binding.BindingM L W α) (b : Binding L) : CacheM L E H S W (α × Binding L) :=
  monadLift (act.run b)

/-- Runs a binding action on the cache's binding, if it has one. -/
def onBinding [Named L] [KeyedLoader L W] [Journal W] {α : Type}
    (act : Binding.BindingM L W α) : CacheM L E H S W (Option α) := do
  let c ← current
  match c.binding with
  | none => pure none
  | some b =>
    let (a, b') ← onDetached act b
    modify fun c => { c with binding := some b' }
    pure (some a)

/-- Disposes a binding the cache let go of: the loader's `dispose` runs, after the calls it
makes on the cache, unless it already ran. -/
def release [Named L] [KeyedLoader L W] [Journal W] (reenter : Callback L E → CacheM L E H S W Unit)
    (b : Binding L) : CacheM L E H S W Unit := do
  if b.state != .disposed then reenter (.dispose b.loader)
  discard (onDetached Binding.dispose b)

/-- Disposes a listener the cache let go of, after the calls it makes on the cache. -/
def releaseListener [Listener E W] (reenter : Callback L E → CacheM L E H S W Unit) (l : E) :
    CacheM L E H S W Unit := do
  reenter (.release l)
  monadLift (Listener.dispose (W := W) l)

/-- Swaps in a binding and releases the one it replaces. -/
def installWith [Named L] [KeyedLoader L W] [Journal W]
    (reenter : Callback L E → CacheM L E H S W Unit) (b : Binding L) : CacheM L E H S W Unit := do
  let c ← current
  modify fun c => { c with binding := some b }
  match c.binding with
  | some previous => release reenter previous
  | none => pure ()

/-- Marks an uninitialised cache alive. -/
def markAlive : CacheM L E H S W Unit := do
  let c ← current
  let s ← orFail (c.status.transition c.name .uninitialized .alive)
  modify fun c => { c with status := s }

/-- Initialises the bound loader for the cache; a failing `init` is the operation's failure. -/
def initBinding [Named L] [KeyedLoader L W] [Journal W] : CacheM L E H S W Unit := do
  let c ← current
  match ← onBinding (Binding.init c.name) with
  | some r => orFail r
  | none => pure ()
  log .debug Target.handle ("Cache '" ++ c.name ++ "' is alive")

/-- Marks the cache alive, then initialises its loader. A failing `init` is the operation's
failure, and the cache stays alive. -/
def initialise [Named L] [KeyedLoader L W] [Journal W] : CacheM L E H S W Unit := do
  markAlive
  initBinding

/-- Tears the cache down: its loader is detached and released, its listeners are dropped and
released in order, its storage is cleared (a failure there is only logged), and it is disposed.
Does nothing unless the cache is uninitialised or alive. -/
def disposeWith [Named L] [KeyedLoader L W] [Listener E W] [Handler H W] [Storage S W] [Journal W]
    (reenter : Callback L E → CacheM L E H S W Unit) : CacheM L E H S W Unit := do
  let c ← current
  if c.status.isOperable then
    modify fun c => { c with status := .disposing, binding := none }
    match c.binding with
    | some b => release reenter b
    | none => pure ()
    modify fun c => { c with listeners := [] }
    c.listeners.forM (releaseListener reenter)
    match ← onStore (Storage.removeAll (S := S) (W := W)) with
    | .error (e : Failure) =>
      log .error Target.handle ("Failed to release storage for cache '" ++ c.name ++ "': " ++ e.message)
    | .ok () => pure ()
    modify fun c => { c with status := .disposed }
    log .debug Target.handle ("Cache '" ++ c.name ++ "' disposed")

/-- Attaches a loader as it is, replacing (and releasing) the previous one. On a live cache the
loader is initialised first, after the calls its `init` makes on the cache; if that fails the
loader is not attached. -/
def registerLoaderWith [Named L] [KeyedLoader L W] [Journal W]
    (reenter : Callback L E → CacheM L E H S W Unit) (loader : L) : CacheM L E H S W Unit := do
  checkOperable "register_loader"
  let c ← current
  let fresh : Binding L := { loader }
  let b ← if c.isAlive then do
      reenter (.init c.name loader)
      let (r, b) ← onDetached (Binding.init c.name) fresh
      orFail r
      pure b
    else pure fresh
  log .debug Target.handle ("Registered loader '" ++ b.name ++ "' on cache '" ++ c.name ++ "'")
  installWith reenter b

/-- Attaches a loader built from configuration: the template is cloned for this cache and then
disposed (also when cloning failed), and the clone replaces the previous loader. Only an
uninitialised cache takes one. The template is never attached, so it makes no calls on the
cache. -/
def attachDeclaredLoaderWith [Named L] [KeyedLoader L W] [Journal W]
    (reenter : Callback L E → CacheM L E H S W Unit) (template : L) : CacheM L E H S W Unit := do
  let c ← current
  if c.status != .uninitialized then
    throw (.illegalState c.name "declared loaders attach only before initialisation")
  let (r, t) ← onDetached (Binding.cloneInto c.status c.name) { loader := template }
  discard (onDetached Binding.dispose t)
  installWith reenter (← orFail r)

/-- Adds a listener after the others. -/
def registerListener [Named E] [Journal W] (l : E) : CacheM L E H S W Unit := do
  checkOperable "register_listener"
  let c ← current
  log .debug Target.handle ("Registered listener '" ++ Named.name l ++ "' on cache '" ++ c.name ++ "'")
  modify fun c => { c with listeners := c.listeners ++ [l] }

/-- Installs a new list of listeners and releases the old ones in order. -/
def replaceListenersWith [Listener E W] (reenter : Callback L E → CacheM L E H S W Unit)
    (ls : List E) : CacheM L E H S W Unit := do
  checkOperable "replace_listeners"
  let c ← current
  modify fun c => { c with listeners := ls }
  c.listeners.forM (releaseListener reenter)

/-! ## Collaborators that make no calls on the cache -/

/-- Callbacks that make no calls on the cache. -/
def noCalls : Callback L E → CacheM L E H S W Unit := fun _ => pure ()

/-- `disposeWith`, with collaborators that make no calls on the cache. -/
def dispose [Named L] [KeyedLoader L W] [Listener E W] [Handler H W] [Storage S W] [Journal W] :
    CacheM L E H S W Unit :=
  disposeWith noCalls

/-- `registerLoaderWith`, with a loader that makes no calls on the cache. -/
def registerLoader [Named L] [KeyedLoader L W] [Journal W] (loader : L) : CacheM L E H S W Unit :=
  registerLoaderWith noCalls loader

/-- `attachDeclaredLoaderWith`, with collaborators that make no calls on the cache. -/
def attachDeclaredLoader [Named L] [KeyedLoader L W] [Journal W] (template : L) :
    CacheM L E H S W Unit :=
  attachDeclaredLoaderWith noCalls template

/-- `replaceListenersWith`, with listeners that make no calls on the cache. -/
def replaceListeners [Listener E W] (ls : List E) : CacheM L E H S W Unit :=
  replaceListenersWith noCalls ls

/-- The cache as a record: `Cache { name: "a", status: Alive, loader: Some("x") }`. -/
def describe [Named L] (c : Cache L E H S) : String :=
  let loader := match c.loaderName with
    | some n => "Some(" ++ Text.quoted n ++ ")"
    | none => "None"
  "Cache \x7b name: " ++ Text.quoted c.name ++ ", status: " ++ c.status.title ++ ", loader: " ++
    loader ++ " \x7d"

end Cache

end NamedCaches
