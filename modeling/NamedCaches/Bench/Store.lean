import NamedCaches.Bench.Spec
import NamedCaches.Bench.World
import NamedCaches.Cache.Engine
set_option autoImplicit false
/-!
# Bench stores

A cache of the test bench stores its entries in the engine, or in a *scripted* store: a table
that writes `store get KEY`, `store put KEY`, `store remove KEY` and `store remove_all` before each
such operation and then fails where its specs say. A spec for the key (checked first) or for the
operation is that failure, with owner `store`; any other text is a storage failure with that
text. A failing operation changes nothing. Asking for a key or the size never fails and writes
nothing, and a scripted store drops nothing on its own.
-/

namespace NamedCaches

/-- A scripted store: its entries, and the failures it is to produce by operation and by key. -/
structure ScriptedStore where
  entries : List (String × String) := []
  failOn : List (String × String) := []
  failKeys : List (String × String) := []
  deriving Inhabited

namespace ScriptedStore

/-- The failure an operation on a key is to produce, if any. -/
def failure (s : ScriptedStore) (op : String) (key : Option String) : Option Failure :=
  let spec := match key.bind fun k => Json.Fields.get? k s.failKeys with
    | some t => some t
    | none => Json.Fields.get? op s.failOn
  spec.map fun t => Failure.ofSpecOr "store" t .storage

/-- Writes an operation, then runs it unless it is to fail. -/
def attempt {α : Type} (op : String) (key : Option String)
    (act : ScriptedStore → α × ScriptedStore) : StoreM ScriptedStore World (Except Failure α) := do
  monadLift (World.note ("store " ++ op ++ (key.map (" " ++ ·)).getD ""))
  let s ← get
  match s.failure op key with
  | some f => pure (.error f)
  | none =>
    let (a, s') := act s
    set s'
    pure (.ok a)

/-- The entries without a key. -/
def without (s : ScriptedStore) (key : String) : List (String × String) :=
  s.entries.filter fun p => p.1 != key

instance : Storage ScriptedStore World where
  get key := attempt "get" (some key) fun s => (Json.Fields.get? key s.entries, s)
  put key value := attempt "put" (some key) fun s =>
    ((Json.Fields.get? key s.entries).isSome, { s with entries := Json.Fields.insert key value s.entries })
  remove key := attempt "remove" (some key) fun s =>
    (Json.Fields.get? key s.entries, { s with entries := s.without key })
  removeAll := attempt "remove_all" none fun s => ((), { s with entries := [] })
  containsKey s key := (Json.Fields.get? key s.entries).isSome
  size := do pure (← get).entries.length
  takeRemovals := pure []

end ScriptedStore

/-- The store of a cache of the test bench. -/
inductive BenchStore where
  | engine (e : Engine)
  | scripted (s : ScriptedStore)
  deriving Inhabited

namespace BenchStore

/-- Runs a store action on the store it holds. -/
def lift {α S : Type} [Storage S World] (wrap : S → BenchStore) (act : StoreM S World α) (s : S) :
    StoreM BenchStore World α := do
  let (a, s') ← monadLift (act.run s)
  set (wrap s')
  pure a

/-- Runs the same store action on whichever store it holds. -/
def each {α : Type} (act : {S : Type} → [Storage S World] → StoreM S World α) :
    StoreM BenchStore World α := do
  match ← get with
  | .engine e => lift BenchStore.engine act e
  | .scripted s => lift BenchStore.scripted act s

instance : Storage BenchStore World where
  get key := each (Storage.get key)
  put key value := each (Storage.put key value)
  remove key := each (Storage.remove key)
  removeAll := each Storage.removeAll
  containsKey s key :=
    match s with
    | .engine e => Storage.containsKey (W := World) e key
    | .scripted s => Storage.containsKey (W := World) s key
  size := each Storage.size
  takeRemovals := each Storage.takeRemovals

end BenchStore

end NamedCaches
