import NamedCaches.Loader.Basic
import NamedCaches.Cache.Status
import NamedCaches.Text.Escaped
set_option autoImplicit false
/-!
# Loader bindings

A binding is a loader together with where it is in its life:
`constructed → initialized → disposed`, or `constructed → disposed`. It enforces that life: the
loader's `init` runs only from `constructed` and, when it fails, leaves the binding
`constructed`; a second `init` and an `init` after disposal are refused without calling the
loader; the loader's `dispose` runs at most once. Loads are dispatched only to an
`initialized` binding. A binding can be cloned for another cache unless it has left
`constructed` while the cache that owns it is alive.
-/

namespace NamedCaches

/-- Where an attached loader is in its life. -/
inductive BindingState where
  | constructed
  | initialized
  | disposed
  deriving DecidableEq, Repr, Inhabited

/-- The state as a record field. -/
def BindingState.title : BindingState → String
  | .constructed => "Constructed"
  | .initialized => "Initialized"
  | .disposed => "Disposed"

/-- A loader and the state of its life. -/
structure Binding (L : Type) where
  loader : L
  state : BindingState := .constructed
  deriving Inhabited, DecidableEq

namespace Binding

variable {L W : Type} [Named L] [KeyedLoader L W] [Journal W]

/-- A binding's actions run on the binding and on the world. -/
abbrev BindingM (L W : Type) := StateT (Binding L) (StateM W)

/-- The loader's name. -/
def name (b : Binding L) : String := Named.name b.loader

/-- Loads may be dispatched only to an initialised loader. -/
def isReady (b : Binding L) : Bool := b.state == .initialized

/-- Runs a loader action on the bound loader. -/
def onLoader {α : Type} (act : LoaderM L W α) : BindingM L W α := do
  let b ← get
  let (a, l) ← monadLift (act.run b.loader)
  set { b with loader := l }
  pure a

/-- Runs the loader's `init` for the named cache, once. -/
def init (cache : String) : BindingM L W (Except Failure Unit) := do
  let b ← get
  match b.state with
  | .constructed =>
    match ← onLoader (KeyedLoader.init cache) with
    | .ok () =>
      modify fun b => { b with state := .initialized }
      monadLift (logLine (W := W) .debug Target.binding
        ("Initialised loader '" ++ b.name ++ "' for cache '" ++ cache ++ "'"))
      pure (.ok ())
    | .error e => pure (.error e)
  | .initialized =>
    pure (.error (.illegalState cache ("loader `" ++ b.name ++ "` initialised twice")))
  | .disposed =>
    pure (.error (.illegalState cache ("loader `" ++ b.name ++ "` already disposed")))

/-- Runs the loader's `dispose` unless it already ran. -/
def dispose : BindingM L W Unit := do
  let b ← get
  if b.state != .disposed then
    onLoader (KeyedLoader.dispose (L := L) (W := W))
    modify fun b => { b with state := .disposed }

/-- A fresh binding over a clone of the loader for the named target cache. It is refused when
this binding has left `constructed` while its owner is alive; this binding's state never
changes. -/
def cloneInto (owner : Status) (target : String) : BindingM L W (Except Failure (Binding L)) := do
  let b ← get
  if b.state != .constructed && owner == .alive then
    pure (.error (.illegalState target ("loader `" ++ b.name ++ "` cannot be cloned once initialised")))
  else
    match ← onLoader (KeyedLoader.cloneFor target) with
    | .ok copy =>
      monadLift (logLine (W := W) .debug Target.binding
        ("Cloned loader '" ++ b.name ++ "' for cache '" ++ target ++ "'"))
      pure (.ok { loader := copy })
    | .error e => pure (.error e)

/-- The binding as a record: `LoaderBinding { loader: "x", state: Initialized }`. -/
def describe (b : Binding L) : String :=
  "LoaderBinding \x7b loader: " ++ Text.quoted b.name ++ ", state: " ++ b.state.title ++ " \x7d"

end Binding

end NamedCaches
