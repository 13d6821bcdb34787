import NamedCaches.Proofs.Cache.Exec
import NamedCaches.Bench.Loader
import NamedCaches.Bench.Store
import NamedCaches.Bench.Listener
set_option autoImplicit false
/-!
# A miss served by a properties loader

A properties loader answers a key from its table, after the argument's text when the argument is
a text (`PropertiesLoader.answer`), and counts the load. Take a cache of the test bench whose
listeners take every event at once, as the null sink does, and whose engine holds no entry for a
key. A read of that key asks the cache's initialised properties loader and answers what the
loader answers (`exec_get_table`). It leaves the world as it was, so the handler is told of no
failure. A value that is loaded is stored, and no listener hears of it.
-/

namespace NamedCaches

/-! ## The properties loader -/

namespace PropertiesLoader

/-- What a properties loader over a table answers for a key: the table's value, after the
argument's text when the argument is a text, and the value alone otherwise. -/
def answer (values : List (String × String)) (key : String) : Option Argument → Option String
  | some (.owned s) | some (.literal s) => (Json.Fields.get? key values).map (s ++ ·)
  | _ => Json.Fields.get? key values

end PropertiesLoader

namespace BenchLoader

/-- A load on a table loader answers from the table and counts the load; the world is left
alone. -/
theorem dispatch_table (l : PropertiesLoader) (key : String) (a : Option Argument) (w : World) :
    ((Cache.dispatch key a).run (BenchLoader.table l)).run w =
      ((.ok (PropertiesLoader.answer l.values key a), .table { l with loads := l.loads + 1 }),
        w) := by
  rcases a with _ | (s | s | _) <;> rfl

end BenchLoader

/-! ## The engine and the null sink on the bench -/

theorem Engine.read_of_lookup_none {e : Engine} {k : String} (h : e.lookup k = none) :
    (e.read k).1 = none := by
  unfold Engine.read
  split
  · rfl
  · simp [h]

namespace BenchStore

variable (e : Engine) (w : World)

theorem get_engine (k : String) :
    ((Storage.get (W := World) k).run (BenchStore.engine e)).run w =
      ((.ok (e.read k).1, .engine (e.read k).2), w) := rfl

theorem put_engine (k v : String) :
    ((Storage.put (W := World) k v).run (BenchStore.engine e)).run w =
      ((.ok (e.write k v).1, .engine (e.write k v).2), w) := rfl

theorem takeRemovals_engine :
    ((Storage.takeRemovals (S := BenchStore) (W := World)).run (BenchStore.engine e)).run w =
      ((e.removals, .engine { e with removals := [] }), w) := rfl

end BenchStore

namespace Cache

variable {L H : Type}

/-- Listeners that are all the null sink take every event at once. -/
theorem listenersSilent_of_sinks {c : Cache L BenchListener H BenchStore}
    (h : ∀ l ∈ c.listeners, l = .sink) : ListenersSilent (W := World) c := by
  intro l hl name ev w
  rw [h l hl]
  rfl

variable [Handler H World]

/-! ## Reads and writes on an engine -/

/-- A write on a bench cache with an engine and silent listeners stores the value and leaves the
world as it was. -/
theorem exec_put_engine {c : Cache L BenchListener H BenchStore}
    (hs : c.status.isOperable = true) (hl : ListenersSilent (W := World) c) {e : Engine}
    (he : c.store = .engine e) (k v : String) (w : World) :
    exec (put k v) c w =
      ((.ok (), { c with store := .engine { (e.write k v).2 with removals := [] } }), w) := by
  rw [put, exec_bind, exec_checkOperable _ hs]
  dsimp only
  rw [exec_bind, exec_onStore_silent hl _ (by rw [he]; exact BenchStore.put_engine e w k v)
    (BenchStore.takeRemovals_engine _ w)]
  dsimp only
  rw [exec_bind, exec_isolate_ok]
  dsimp only
  -- whether the value was put or replaced one, the listeners answer at once
  cases (e.write k v).1 <;>
    exact exec_notify_silent (by exact hl) _ _

/-- A read of a key the engine does not hold, on a bench cache whose initialised loader is a
properties loader and whose listeners are silent, answers what the loader answers and leaves
the world as it was. -/
theorem exec_get_table {c : Cache BenchLoader BenchListener H BenchStore}
    (hs : c.status.isOperable = true) (hl : ListenersSilent (W := World) c)
    {l : PropertiesLoader} (hb : c.binding = some { loader := .table l, state := .initialized })
    {e : Engine} (he : c.store = .engine e) {k : String} (hk : e.lookup k = none)
    (a : Option Argument) (w : World) :
    (exec (get k a) c w).1.1 = .ok (PropertiesLoader.answer l.values k a) ∧
      (exec (get k a) c w).2 = w := by
  rw [get, exec_bind, exec_checkOperable _ hs]
  dsimp only
  rw [exec_bind, exec_onStore_silent hl _ (by rw [he]; exact BenchStore.get_engine e w k)
    (BenchStore.takeRemovals_engine _ w)]
  dsimp only
  rw [exec_bind, exec_isolate_ok, Engine.read_of_lookup_none hk]
  dsimp only
  -- a miss: the initialised loader is asked
  rw [exec_bind, exec_current]
  dsimp only
  rw [if_neg (by simp [readyBinding, hb, Binding.isReady]), exec_bind,
    exec_onBinding_loader _ (by exact hb), BenchLoader.dispatch_table]
  dsimp only
  rw [exec_bind, exec_isolate_ok]
  dsimp only
  cases PropertiesLoader.answer l.values k a with
  | none => exact ⟨rfl, rfl⟩
  | some v =>
    -- a loaded value is stored before it is answered
    dsimp only
    rw [exec_bind, exec_put_engine (by exact hs) (by exact hl) rfl]
    exact ⟨rfl, rfl⟩

/-! ## A new cache serving a table -/

/-- A new cache of the test bench serving table `T` under the cache name `name`: alive, with the
null sink as its only listener, an engine that holds nothing, and an initialised properties
loader of its own over `T`, named for the cache and asked for nothing yet. -/
structure ServesTable (name : String) (T : List (String × String))
    (c : Cache BenchLoader BenchListener H BenchStore) : Prop where
  alive : c.status = .alive
  sink : c.listeners = [.sink]
  empty : ∃ e : Engine, c.store = .engine e ∧ e.entries = []
  bound : c.binding =
    some { loader := .table { name := "properties:" ++ name, values := T, loads := 0 },
           state := .initialized }

/-- Every read of a new cache serving a table answers from the table, and leaves the world as it
was. -/
theorem ServesTable.get {name : String} {T : List (String × String)}
    {c : Cache BenchLoader BenchListener H BenchStore} (h : ServesTable name T c) (k : String)
    (a : Option Argument) (w : World) :
    (exec (Cache.get k a) c w).1.1 = .ok (PropertiesLoader.answer T k a) ∧
      (exec (Cache.get k a) c w).2 = w := by
  obtain ⟨e, he, hempty⟩ := h.empty
  have hk : e.lookup k = none := by
    simp [Engine.lookup, Engine.slot?, hempty]
  exact exec_get_table (by rw [h.alive]; rfl)
    (listenersSilent_of_sinks fun l hl => by simpa [h.sink] using hl) h.bound he hk a w

end Cache

end NamedCaches
