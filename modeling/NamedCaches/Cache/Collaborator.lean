import NamedCaches.Config.Settings
import NamedCaches.Log
import NamedCaches.Failure
set_option autoImplicit false
/-!
# What a cache works with

Besides its loader, a cache works with listeners that are told about every change, a handler that
receives the recoverable failures, and a store that holds the entries. Each is its own data over
a world `W`, with its behaviour given by an instance.

A store may drop entries on its own (an entry expires, or the store is over capacity). It keeps
notices of such removals until the cache takes them, right after each store operation, to tell
its listeners.
-/

namespace NamedCaches

/-- What a listener is told about. -/
inductive Event where
  | put (key value : String)
  | updated (key value : String)
  | removed (key value : String)
  | expired (key value : String)
  | evicted (key value : String)
  | removeAll
  deriving DecidableEq, Repr, Inhabited

/-- The behaviour of a listener whose data is `E`, over world `W`. -/
class Listener (E : Type) (W : Type) where
  /-- Tells the listener about an event on the named cache. -/
  notify : E → String → Event → StateM W (Except Failure Unit)
  /-- Called once when the listener is dropped. -/
  dispose : E → StateM W Unit

/-- The behaviour of a failure handler whose data is `H`, over world `W`. -/
class Handler (H : Type) (W : Type) where
  /-- Receives a recoverable failure of a cache, with the key it was about. -/
  onFailure : H → Settings → Option String → Failure → StateM W Unit

/-- Why a store dropped an entry on its own. -/
inductive RemovalCause where
  | expired
  | evicted
  deriving DecidableEq, Repr, Inhabited

/-- The cause as a record name. -/
def RemovalCause.title : RemovalCause → String
  | .expired => "Expired"
  | .evicted => "Evicted"

/-- An entry a store dropped on its own. -/
structure Removal where
  key : String
  value : String
  cause : RemovalCause
  deriving DecidableEq, Repr, Inhabited

/-- The event a removal is told as. -/
def Removal.event (r : Removal) : Event :=
  match r.cause with
  | .expired => .expired r.key r.value
  | .evicted => .evicted r.key r.value

/-- A store's actions run on its own data and on the world. -/
abbrev StoreM (S W : Type) := StateT S (StateM W)

/-- The behaviour of a store whose data is `S`, over world `W`. -/
class Storage (S : Type) (W : Type) where
  /-- The value of a key. -/
  get : String → StoreM S W (Except Failure (Option String))
  /-- Stores a value; `true` when it replaced one. -/
  put : String → String → StoreM S W (Except Failure Bool)
  /-- Removes a key, giving its value. -/
  remove : String → StoreM S W (Except Failure (Option String))
  /-- Removes every entry. -/
  removeAll : StoreM S W (Except Failure Unit)
  /-- Whether the store holds a key. -/
  containsKey : S → String → Bool
  /-- The number of entries, once the store has done its pending work. -/
  size : StoreM S W Nat
  /-- The removals noticed since the last call, oldest first. -/
  takeRemovals : StoreM S W (List Removal)

end NamedCaches
