import NamedCaches.Cache.Basic
set_option autoImplicit false
/-!
# Cache operations

Reading, loading, writing and removing entries. Each operation first checks that the cache is
operable (`len` and `isEmpty` work in any status).

* `get` answers a stored value; on a miss, an initialised loader is asked (`load`, or `loadWith`
  when an argument is given), and a loaded value is `put` before it is answered.
* `getAll` looks every key up (once per occurrence); the keys not found go, as one set, to the
  loader's batch load. A recoverable failure of the whole batch is reported with no key and only
  the stored values are answered; the batch's per-key failures are reported in order up to the
  first one that is not recoverable, which fails the operation before anything is stored;
  otherwise every loaded value is `put` and answered.
* `put` stores a value and tells every listener `updated` if it replaced one, else `put`.
* `remove` removes a key and tells `removed` if it held a value; `removeAll` clears the store and
  tells `removeAll`.
-/

namespace NamedCaches

namespace Cache

variable {L E H S W : Type} [Named L] [KeyedLoader L W] [Listener E W] [Handler H W] [Storage S W]
  [Journal W]

/-- Stores a value and tells the listeners whether it was put or replaced one. A store failure
that is recoverable tells nobody. -/
def put (key value : String) : CacheM L E H S W Unit := do
  checkOperable "put"
  match ← isolate (some key) (← onStore (Storage.put (W := W) key value)) with
  | some true => notify (some key) (.updated key value)
  | some false => notify (some key) (.put key value)
  | none => pure ()

/-- Puts entries in order, stopping at the first failure. -/
def putAll (entries : List (String × String)) : CacheM L E H S W Unit :=
  entries.forM fun (k, v) => put k v

/-- The loader's load for one key, with or without an argument. -/
def dispatch (key : String) : Option Argument → LoaderM L W (Except Failure (Option String))
  | some a => KeyedLoader.loadWith key a
  | none => KeyedLoader.load key

/-- The loader's batch load, with or without an argument. -/
def dispatchAll (keys : List String) : Option Argument → LoaderM L W (Except Failure Batch)
  | some a => KeyedLoader.loadAllWith keys a
  | none => KeyedLoader.loadAll keys

/-- The cache's binding, when it is ready for loads. -/
def readyBinding (c : Cache L E H S) : Option (Binding L) :=
  c.binding.filter Binding.isReady

/-- The value of a key: stored, or loaded (and then stored) on a miss. -/
def get (key : String) (arg : Option Argument) : CacheM L E H S W (Option String) := do
  checkOperable "get"
  if let some (some v) ← isolate (some key) (← onStore (Storage.get (W := W) key)) then
    return some v
  if (readyBinding (← current)).isNone then return none
  match ← onBinding (Binding.onLoader (dispatch key arg)) with
  | some r =>
    match ← isolate (some key) r with
    | some (some v) =>
      put key v
      pure (some v)
    | _ => pure none
  | none => pure none

/-- Adds a key to a set kept in order. -/
def addKey (keys : List String) (k : String) : List String :=
  if keys.contains k then keys else (k :: keys).mergeSort (fun a b => decide (a ≤ b))

/-- The stored and loaded values of some keys. -/
def getAll (keys : List String) (arg : Option Argument) :
    CacheM L E H S W (List (String × String)) := do
  checkOperable "get_all"
  let (found, missing) ← keys.foldlM (fun (acc : List (String × String) × List String) k => do
      match ← isolate (some k) (← onStore (Storage.get (W := W) k)) with
      | some (some v) => pure (Json.Fields.insert k v acc.1, acc.2)
      | _ => pure (acc.1, addKey acc.2 k))
    ([], [])
  if missing.isEmpty || (readyBinding (← current)).isNone then return found
  let some r ← onBinding (Binding.onLoader (dispatchAll missing arg)) | return found
  let some batch ← isolate none r | return found
  batch.failures.forM fun (k, f) =>
    if f.isRecoverable then report (some k) f else throw f
  batch.values.foldlM (fun acc (k, v) => do
      put k v
      pure (Json.Fields.insert k v acc))
    found

/-- Removes a key, giving the value it held. -/
def remove (key : String) : CacheM L E H S W (Option String) := do
  checkOperable "remove"
  let removed := (← isolate (some key) (← onStore (Storage.remove (W := W) key))).join
  if let some v := removed then notify (some key) (.removed key v)
  pure removed

/-- Clears the store and tells the listeners. -/
def removeAll : CacheM L E H S W Unit := do
  checkOperable "remove_all"
  if (← isolate none (← onStore (Storage.removeAll (S := S) (W := W)))).isSome then
    notify none .removeAll

/-- Whether the store holds a key. -/
def containsKey (key : String) : CacheM L E H S W Bool := do
  checkOperable "contains_key"
  pure (Storage.containsKey (W := W) (← current).store key)

/-- The number of entries, once the store has done its pending work. -/
def len : CacheM L E H S W Nat :=
  onStore (Storage.size (S := S) (W := W))

/-- Whether the store holds no entry. -/
def isEmpty : CacheM L E H S W Bool := do
  pure ((← len) == 0)

end Cache

end NamedCaches
