import NamedCaches.Failure
import NamedCaches.Log
set_option autoImplicit false
/-!
# Keyed loaders

A loader produces values for keys a cache does not hold. It is built `constructed`; its cache
calls `init` once it is alive, may then dispatch loads, and calls `dispose` once while it is torn
down. A caller may pass an argument to a load; the cache then uses the `*With` form.

A loader is its own data `L` over a world `W`: every operation may change both. What a loader
does not define itself it gets by default: `loadWith` ignores the argument, a batch load loads
key by key (keeping found values, leaving out keys without a value, and collecting each key's
failure, so that the batch as a whole never fails), and a loader cannot be cloned.
-/

namespace NamedCaches

/-- Things with a name for diagnostics. -/
class Named (α : Type) where
  name : α → String

/-- What a caller passes to a load: a text it owns, a text that lives as long as the program,
or something that is no text. -/
inductive Argument where
  | owned (s : String)
  | literal (s : String)
  | other
  deriving DecidableEq, Repr, Inhabited

/-- The outcome of a batch load: the values found, and the keys whose load failed. -/
structure Batch where
  values : List (String × String)
  failures : List (String × Failure)
  deriving Inhabited

namespace Batch

/-- Loads keys one by one: a value is kept, a key without one is left out, and a failure is
collected with its key. -/
def collect {m : Type → Type} [Monad m] (load : String → m (Except Failure (Option String))) :
    List String → m Batch
  | [] => pure ⟨[], []⟩
  | k :: rest => do
    let r ← load k
    let b ← collect load rest
    pure <| match r with
      | .ok (some v) => { b with values := (k, v) :: b.values }
      | .ok none => b
      | .error e => { b with failures := (k, e) :: b.failures }

end Batch

/-- A loader's actions run on its own data and on the world. -/
abbrev LoaderM (L W : Type) := StateT L (StateM W)

/-- The behaviour of a loader whose data is `L`, over world `W`. -/
class KeyedLoader (L : Type) (W : Type) where
  /-- One-time setup, for the named cache (already alive). -/
  init : String → LoaderM L W (Except Failure Unit) := fun _ => pure (.ok ())
  /-- One-time teardown. -/
  dispose : LoaderM L W Unit := pure ()
  /-- Loads one key: `none` when the source has no value for it. -/
  load : String → LoaderM L W (Except Failure (Option String))
  /-- Loads one key with an argument. -/
  loadWith : String → Argument → LoaderM L W (Except Failure (Option String)) :=
    fun k _ => load k
  /-- Loads a set of keys. -/
  loadAll : List String → LoaderM L W (Except Failure Batch) :=
    fun keys => .ok <$> Batch.collect load keys
  /-- Loads a set of keys with an argument. -/
  loadAllWith : List String → Argument → LoaderM L W (Except Failure Batch) :=
    fun keys a => .ok <$> Batch.collect (fun k => loadWith k a) keys
  /-- An independent loader for the named cache. -/
  cloneFor : String → LoaderM L W (Except Failure L)

/-- The refusal of a loader that cannot be cloned. -/
def Failure.notCloneableLoader (name : String) : Failure := .notCloneable "loader" name

end NamedCaches
