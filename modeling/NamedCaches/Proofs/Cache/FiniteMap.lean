import NamedCaches.Proofs.Engine.MapLike
import NamedCaches.Proofs.Cache.Exec
import NamedCaches.Bench.Handler
import NamedCaches.Bench.Listener
import NamedCaches.Bench.Loader
set_option autoImplicit false
/-!
# Caches whose store keeps everything

When nothing expires and the store has room for every key a cache ever sees, a cache is a
finite map with listeners. This module gives that reading its own semantics, over a cache whose
store is a finite map (`Cache.toMap`): a put sets the key and tells every listener, in
registration order, `updated` if the key had a value and `put` otherwise; a removal gives the
key's value and, if it had one, deletes it and tells `removed`; clearing empties the map and
always tells `removeAll`; a read answers the stored value, and on a miss asks a ready loader and
puts what it loads; a listener's or loader's recoverable failure goes to the handler with the key.

What the reading asks of the store is said once, as laws on any store (`FiniteMapLaws`): while
it keeps an invariant, the store stands for a finite map, and each of its operations on a key of
`K` answers from that map, changes it as a finite map does, leaves the world alone and keeps the
invariant, with no removal of its own to relay. The main statement, `runAll_toMap`, says that a
cache over such a store answers any sequence of data operations and acts on the world exactly as
the semantics does, and leaves the cache that the semantics leaves, seen through `Cache.toMap`.
The engine keeps the laws when it has room for `K` and nothing is fleeting
(`Engine.finiteMapLaws`).
-/

namespace NamedCaches

/-- A finite map from keys to values. -/
abbrev KeyMap := Finmap fun _ : String => String

/-- A data operation on a cache. -/
inductive DataOp where
  | put (key value : String)
  | putAll (entries : List (String × String))
  | get (key : String) (arg : Option Argument)
  | remove (key : String)
  | removeAll
  | containsKey (key : String)
  | len
  | isEmpty

/-- What a data operation answers. -/
inductive DataReply where
  | done
  | value (v : Option String)
  | flag (b : Bool)
  | count (n : Nat)
  deriving DecidableEq

namespace DataOp

/-- The keys an operation names. -/
def keys : DataOp → List String
  | .put k _ | .get k _ | .remove k | .containsKey k => [k]
  | .putAll es => es.map Prod.fst
  | .removeAll | .len | .isEmpty => []

variable {L E H S W : Type} [Named L] [KeyedLoader L W] [Listener E W] [Handler H W] [Storage S W]
  [Journal W]

/-- Runs a data operation on a cache. -/
def run : DataOp → CacheM L E H S W DataReply
  | .put k v => do Cache.put k v; pure .done
  | .putAll es => do Cache.putAll es; pure .done
  | .get k a => .value <$> Cache.get k a
  | .remove k => .value <$> Cache.remove k
  | .removeAll => do Cache.removeAll; pure .done
  | .containsKey k => .flag <$> Cache.containsKey k
  | .len => .count <$> Cache.len
  | .isEmpty => .flag <$> Cache.isEmpty

/-- Runs operations one after another, each on the cache the one before left: each answers on its
own, and one that fails does not stop the next. -/
def runAll (ops : List DataOp) : StateT (Cache L E H S) (StateM W) (List (Except Failure DataReply)) :=
  ops.mapM fun op => (op.run : CacheM L E H S W DataReply).run

end DataOp

namespace Cache

variable {L E H S : Type}

/-- The cache with the map its store stands for, `contents`, in place of the store. -/
@[simps]
def toMap (contents : S → KeyMap) (c : Cache L E H S) : Cache L E H KeyMap where
  settings := c.settings
  status := c.status
  store := contents c.store
  binding := c.binding
  listeners := c.listeners
  handler := c.handler

end Cache

/-! ## The finite-map semantics -/

namespace MapSemantics

variable {L E H W : Type} [Named L] [KeyedLoader L W] [Listener E W] [Handler H W]

/-- Sets a key and tells the listeners whether it replaced a value. -/
def put (k v : String) (c : Cache L E H KeyMap) : StateM W (Cache L E H KeyMap) := do
  Cache.announce c (some k) (if k ∈ c.store then .updated k v else .put k v)
  pure { c with store := c.store.insert k v }

/-- Sets keys in order. -/
def putAll (es : List (String × String)) (c : Cache L E H KeyMap) : StateM W (Cache L E H KeyMap) :=
  es.foldlM (fun c e => put e.1 e.2 c) c

/-- What a read does with the result of a load: a loaded value is put and answered; a
recoverable failure goes to the handler with the key, and another fails the read. -/
def takeLoad (k : String) (r : Except Failure (Option String)) (c : Cache L E H KeyMap) :
    StateM W (Except Failure (Option String) × Cache L E H KeyMap) :=
  match r with
  | .ok (some v) => do pure (.ok (some v), ← put k v c)
  | .ok none => pure (.ok none, c)
  | .error f =>
    if f.isRecoverable then do
      Handler.onFailure c.handler c.settings (some k) f
      pure (.ok none, c)
    else pure (.error f, c)

/-- The value of a key: stored, or else loaded by a ready loader. -/
def get (k : String) (a : Option Argument) (c : Cache L E H KeyMap) :
    StateM W (Except Failure (Option String) × Cache L E H KeyMap) :=
  match c.store.lookup k, c.binding with
  | some v, _ => pure (.ok (some v), c)
  | none, none => pure (.ok none, c)
  | none, some b =>
    if b.isReady then do
      let (r, l) ← (Cache.dispatch (W := W) k a).run b.loader
      takeLoad k r { c with binding := some { b with loader := l } }
    else pure (.ok none, c)

/-- Removes a key, giving its value, and tells the listeners if it had one. -/
def remove (k : String) (c : Cache L E H KeyMap) : StateM W (Option String × Cache L E H KeyMap) := do
  (c.store.lookup k).forM fun v => Cache.announce c (some k) (.removed k v)
  pure (c.store.lookup k, { c with store := c.store.erase k })

/-- Empties the map and tells the listeners, whether or not it held anything. -/
def removeAll (c : Cache L E H KeyMap) : StateM W (Cache L E H KeyMap) := do
  Cache.announce c none .removeAll
  pure { c with store := ∅ }

/-- What a data operation does to a cache whose store is a finite map. -/
def step : DataOp → Cache L E H KeyMap → StateM W (Except Failure DataReply × Cache L E H KeyMap)
  | .put k v, c => do pure (.ok .done, ← put k v c)
  | .putAll es, c => do pure (.ok .done, ← putAll es c)
  | .get k a, c => do
    let (r, c) ← get k a c
    pure (r.map .value, c)
  | .remove k, c => do
    let (old, c) ← remove k c
    pure (.ok (.value old), c)
  | .removeAll, c => do pure (.ok .done, ← removeAll c)
  | .containsKey k, c => pure (.ok (.flag (k ∈ c.store)), c)
  | .len, c => pure (.ok (.count c.store.keys.card), c)
  | .isEmpty, c => pure (.ok (.flag (c.store.keys.card == 0)), c)

/-- Operations one after another, each answering on its own. -/
def runAll (ops : List DataOp) :
    StateT (Cache L E H KeyMap) (StateM W) (List (Except Failure DataReply)) :=
  ops.mapM fun op => step op

end MapSemantics

/-! ## What the store owes the reading -/

section
variable {S W : Type} [Storage S W]

/-- The laws under which a store is the finite map `contents` on the keys of `K`, as long as it
keeps `inv`: each operation answers from the map, changes it as a finite map does, leaves the
world alone and keeps `inv`, and no removal of the store's own waits to be relayed. -/
structure FiniteMapLaws (K : Finset String) (inv : S → Prop) (contents : S → KeyMap) : Prop where
  /-- The store has noticed no removal. -/
  quiet : ∀ s w, inv s → ((Storage.takeRemovals (S := S) (W := W)).run s).run w = (([], s), w)
  /-- A read answers the key's value and leaves the map as it was. -/
  get : ∀ s w k, inv s → ∃ s', ((Storage.get (S := S) (W := W) k).run s).run w =
    ((.ok ((contents s).lookup k), s'), w) ∧ inv s' ∧ contents s' = contents s
  /-- A write of a key of `K` answers whether the key had a value, and sets it. -/
  put : ∀ s w k v, inv s → k ∈ K → ∃ s', ((Storage.put (S := S) (W := W) k v).run s).run w =
    ((.ok (decide (k ∈ contents s)), s'), w) ∧ inv s' ∧ contents s' = (contents s).insert k v
  /-- A removal of a key of `K` answers the key's value and deletes it. -/
  remove : ∀ s w k, inv s → k ∈ K → ∃ s', ((Storage.remove (S := S) (W := W) k).run s).run w =
    ((.ok ((contents s).lookup k), s'), w) ∧ inv s' ∧ contents s' = (contents s).erase k
  /-- A clear empties the map. -/
  removeAll : ∀ s w, inv s → ∃ s', ((Storage.removeAll (S := S) (W := W)).run s).run w =
    ((.ok (), s'), w) ∧ inv s' ∧ contents s' = ∅
  /-- The store holds a key exactly when the map does. -/
  containsKey : ∀ s k, inv s → Storage.containsKey (W := W) s k = decide (k ∈ contents s)
  /-- A count answers the number of keys of the map and leaves the map as it was. -/
  size : ∀ s w, inv s → ∃ s', ((Storage.size (S := S) (W := W)).run s).run w =
    (((contents s).keys.card, s'), w) ∧ inv s' ∧ contents s' = contents s

end

namespace Cache

variable {K : Finset String} {L E H S W : Type} {inv : S → Prop} {contents : S → KeyMap}
  {c : Cache L E H S} {w : W} {k : String} {α : Type}

@[simp] theorem toMap_with_store (s : S) :
    ({ c with store := s } : Cache L E H S).toMap contents =
      { c.toMap contents with store := contents s } :=
  rfl

/-! ## The invariant -/

section
variable [Listener E W]

/-- The cache's store keeps `inv`, the cache is operable and its listeners fail only
recoverably. -/
structure Keeps (inv : S → Prop) (c : Cache L E H S) : Prop where
  store : inv c.store
  operable : c.status.isOperable = true
  recover : ListenersRecover (W := W) c

theorem Keeps.with_binding (h : Keeps (W := W) inv c) (b : Option (Binding L)) :
    Keeps (W := W) inv { c with binding := b } :=
  ⟨h.store, h.operable, h.recover⟩

theorem Keeps.with_store (h : Keeps (W := W) inv c) {s : S} (hs : inv s) :
    Keeps (W := W) inv { c with store := s } :=
  ⟨hs, h.operable, h.recover⟩

/-- A run of the cache agrees with a run of the semantics: the same result and world, a cache
that reads as the semantics' cache, and a store that still keeps `inv`. -/
def Agrees {β : Type} (inv : S → Prop) (contents : S → KeyMap) (r : (β × Cache L E H S) × W)
    (s : (β × Cache L E H KeyMap) × W) : Prop :=
  r.1.1 = s.1.1 ∧ r.1.2.toMap contents = s.1.2 ∧ r.2 = s.2 ∧ Keeps (W := W) inv r.1.2

theorem Agrees.map {β : Type} {r : (Except Failure α × Cache L E H S) × W}
    {s : (Except Failure α × Cache L E H KeyMap) × W} (h : Agrees inv contents r s) (f : α → β) :
    Agrees inv contents ((r.1.1.map f, r.1.2), r.2) ((s.1.1.map f, s.1.2), s.2) := by
  obtain ⟨h1, h2, h3, h4⟩ := h
  exact ⟨by rw [h1], h2, h3, h4⟩

/-- After a write the cache reads as the semantics' cache after its put. -/
theorem toMap_put [Handler H W] {s : S} {v : String}
    (hs : contents s = (contents c.store).insert k v) (w : W) :
    ({ c with store := s } : Cache L E H S).toMap contents =
      ((MapSemantics.put k v (c.toMap contents)).run w).1 := by
  rw [toMap_with_store, hs]
  rfl

end

/-! ## Operations on the store

Under the laws the store drops nothing on its own, so no removal is relayed, and each operation
that only uses the store does what the semantics does.
-/

section
variable [Storage S W] [Listener E W] [Handler H W] [Journal W]

/-- A store action that leaves the world alone and the store keeping `inv` is that action on the
cache's store. -/
theorem exec_onStore_laws (laws : FiniteMapLaws (W := W) K inv contents) (act : StoreM S W α)
    {a : α} {s : S} (h : (act.run c.store).run w = ((a, s), w)) (hs : inv s) :
    exec (onStore act : CacheM L E H S W α) c w = ((.ok a, { c with store := s }), w) :=
  exec_onStore act h (laws.quiet s w hs)

/-- A checked operation that starts with a store call the laws answer: it goes on from the store's
answer, on the cache with the store's new state. -/
theorem exec_checked_onStore {β γ : Type} (laws : FiniteMapLaws (W := W) K inv contents)
    (h : Keeps (W := W) inv c) (op : String) (key : Option String)
    {act : StoreM S W (Except Failure β)} {b : β} {s : S}
    (hrun : (act.run c.store).run w = ((.ok b, s), w)) (hs : inv s)
    (f : Option β → CacheM L E H S W γ) :
    exec (checkOperable op >>= fun _ => onStore act >>= fun r => isolate key r >>= f) c w =
      exec (f (some b)) { c with store := s } w := by
  rw [exec_bind, exec_checkOperable _ h.operable]
  dsimp only
  rw [exec_bind, exec_onStore_laws laws _ hrun hs]
  dsimp only
  rw [exec_bind, exec_isolate_ok]

omit [Handler H W] [Journal W] in
theorem exec_containsKey (laws : FiniteMapLaws (W := W) K inv contents)
    (h : Keeps (W := W) inv c) :
    exec (Cache.containsKey k : CacheM L E H S W _) c w =
      ((.ok (decide (k ∈ (c.toMap contents).store)), c), w) := by
  rw [Cache.containsKey, exec_bind, exec_checkOperable _ h.operable]
  dsimp only
  rw [exec_bind, exec_current]
  dsimp only
  rw [laws.containsKey c.store k h.store]
  rfl

/-- A put stores the value and tells the listeners `updated` or `put`, as the semantics does. -/
theorem exec_put (laws : FiniteMapLaws (W := W) K inv contents) (h : Keeps (W := W) inv c)
    (hk : k ∈ K) (v : String) :
    ∃ s, exec (Cache.put k v : CacheM L E H S W Unit) c w =
      ((.ok (), { c with store := s }), ((MapSemantics.put k v (c.toMap contents)).run w).2) ∧
      inv s ∧ contents s = (contents c.store).insert k v := by
  obtain ⟨s, hrun, hs, hc⟩ := laws.put c.store w k v h.store hk
  refine ⟨s, ?_, hs, hc⟩
  rw [Cache.put, exec_checked_onStore laws h _ _ hrun hs]
  have h1 := h.with_store hs
  -- the store's answer, whether the key had a value, picks the event
  cases hb : decide (k ∈ contents c.store) with
  | true =>
    have hmem : k ∈ contents c.store := of_decide_eq_true hb
    dsimp only
    rw [exec_notify _ _ h1.recover]
    simp only [MapSemantics.put, toMap_store, hmem, if_true]
    rfl
  | false =>
    have hmem : k ∉ contents c.store := of_decide_eq_false hb
    dsimp only
    rw [exec_notify _ _ h1.recover]
    simp only [MapSemantics.put, toMap_store, hmem, if_false]
    rfl

theorem exec_remove (laws : FiniteMapLaws (W := W) K inv contents) (h : Keeps (W := W) inv c)
    (hk : k ∈ K) :
    ∃ s, exec (Cache.remove k : CacheM L E H S W _) c w =
      ((.ok ((contents c.store).lookup k), { c with store := s }),
        ((MapSemantics.remove k (c.toMap contents)).run w).2) ∧
      inv s ∧ contents s = (contents c.store).erase k := by
  obtain ⟨s, hrun, hs, hc⟩ := laws.remove c.store w k h.store hk
  refine ⟨s, ?_, hs, hc⟩
  rw [Cache.remove, exec_checked_onStore laws h _ _ hrun hs]
  dsimp only
  have h1 := h.with_store hs
  cases hv : (contents c.store).lookup k with
  | none =>
    simp only [MapSemantics.remove, toMap_store, hv]
    rfl
  | some v =>
    simp only [Option.join_some]
    rw [exec_bind, exec_notify _ _ h1.recover]
    simp only [MapSemantics.remove, toMap_store, hv]
    rfl

theorem exec_removeAll (laws : FiniteMapLaws (W := W) K inv contents)
    (h : Keeps (W := W) inv c) :
    ∃ s, exec (Cache.removeAll : CacheM L E H S W _) c w =
      ((.ok (), { c with store := s }), ((MapSemantics.removeAll (c.toMap contents)).run w).2) ∧
      inv s ∧ contents s = ∅ := by
  obtain ⟨s, hrun, hs, hc⟩ := laws.removeAll c.store w h.store
  refine ⟨s, ?_, hs, hc⟩
  rw [Cache.removeAll, exec_checked_onStore laws h _ _ hrun hs]
  simp only [Option.isSome_some, if_true]
  rw [exec_notify _ _ (h.with_store hs).recover]
  rfl

theorem exec_len (laws : FiniteMapLaws (W := W) K inv contents) (h : Keeps (W := W) inv c) :
    ∃ s, exec (Cache.len : CacheM L E H S W _) c w =
      ((.ok (c.toMap contents).store.keys.card, { c with store := s }), w) ∧
      inv s ∧ contents s = contents c.store := by
  obtain ⟨s, hrun, hs, hc⟩ := laws.size c.store w h.store
  exact ⟨s, exec_onStore_laws laws _ hrun hs, hs, hc⟩

theorem exec_isEmpty (laws : FiniteMapLaws (W := W) K inv contents) (h : Keeps (W := W) inv c) :
    ∃ s, exec (Cache.isEmpty : CacheM L E H S W _) c w =
      ((.ok ((c.toMap contents).store.keys.card == 0), { c with store := s }), w) ∧
      inv s ∧ contents s = contents c.store := by
  obtain ⟨s, hlen, hs, hc⟩ := exec_len laws h (w := w)
  refine ⟨s, ?_, hs, hc⟩
  rw [Cache.isEmpty, exec_bind, hlen]
  rfl

theorem exec_putAll (laws : FiniteMapLaws (W := W) K inv contents) :
    ∀ (es : List (String × String)) {c : Cache L E H S} {w : W},
    Keeps (W := W) inv c → (∀ e ∈ es, e.1 ∈ K) →
      Agrees inv contents (exec (Cache.putAll es : CacheM L E H S W Unit) c w)
        (((fun c' => (Except.ok (), c')) <$> MapSemantics.putAll es (c.toMap contents)).run w)
  | [], c, w, h, _ => ⟨rfl, rfl, rfl, h⟩
  | (k, v) :: rest, c, w, h, hk => by
    obtain ⟨s, hput, hs, hc⟩ := exec_put laws h (hk (k, v) List.mem_cons_self) v (w := w)
    rw [Cache.putAll, List.forM_eq_forM, List.forM_cons, exec_bind, hput]
    have hsem : ((fun c' => ((.ok () : Except Failure Unit), c')) <$>
          MapSemantics.putAll ((k, v) :: rest) (c.toMap contents)).run w =
        ((fun c' => ((.ok () : Except Failure Unit), c')) <$> MapSemantics.putAll rest
          ((MapSemantics.put k v (c.toMap contents)).run w).1).run
          ((MapSemantics.put k v (c.toMap contents)).run w).2 :=
      rfl
    rw [hsem, ← toMap_put hc w]
    exact exec_putAll laws rest (h.with_store hs) (fun e he => hk e (List.mem_cons_of_mem _ he))

/-- What a read does with a load's result, as the semantics does. -/
theorem exec_takeLoad (laws : FiniteMapLaws (W := W) K inv contents) (h : Keeps (W := W) inv c)
    (hk : k ∈ K) (r : Except Failure (Option String)) :
    Agrees inv contents (exec (do
        match ← isolate (some k) r with
        | some (some v) => do
          put k v
          pure (some v)
        | _ => pure none : CacheM L E H S W (Option String)) c w)
      ((MapSemantics.takeLoad k r (c.toMap contents)).run w) := by
  rw [exec_bind]
  cases r with
  | ok o =>
    rw [exec_isolate_ok]
    cases o with
    | some v =>
      -- a loaded value is put, as by the caller
      obtain ⟨s, hput, hs, hc⟩ := exec_put laws h hk v (w := w)
      dsimp only
      rw [exec_bind, hput]
      dsimp only
      rw [exec_pure]
      exact ⟨rfl, toMap_put hc w, rfl, h.with_store hs⟩
    | none => exact ⟨rfl, rfl, rfl, h⟩
  | error f =>
    cases hf : f.isRecoverable with
    | true =>
      rw [exec_isolate_recoverable _ _ hf]
      simp only [MapSemantics.takeLoad, hf, if_true]
      exact ⟨rfl, rfl, rfl, h⟩
    | false =>
      rw [exec_isolate_fatal _ _ hf]
      simp only [MapSemantics.takeLoad, hf, Bool.false_eq_true, if_false]
      exact ⟨rfl, rfl, rfl, h⟩

end

/-! ## Reads that load, and runs of operations -/

section
variable [Storage S W] [Named L] [KeyedLoader L W] [Listener E W] [Handler H W] [Journal W]

/-- A read answers the stored value, or else loads as the semantics does. -/
theorem exec_get (laws : FiniteMapLaws (W := W) K inv contents) (h : Keeps (W := W) inv c)
    (hk : k ∈ K) (a : Option Argument) :
    Agrees inv contents (exec (Cache.get k a : CacheM L E H S W _) c w)
      ((MapSemantics.get k a (c.toMap contents)).run w) := by
  obtain ⟨s, hrun, hs, hc⟩ := laws.get c.store w k h.store
  rw [Cache.get, exec_checked_onStore laws h _ _ hrun hs]
  have h1 := h.with_store hs
  have hmap : ({ c with store := s } : Cache L E H S).toMap contents = c.toMap contents := by
    rw [toMap_with_store, hc]
    rfl
  cases hv : (contents c.store).lookup k with
  | some v =>
    -- a hit answers the stored value
    have hsv : (c.toMap contents).store.lookup k = some v := by simp [hv]
    simp only [MapSemantics.get, hsv]
    exact ⟨rfl, hmap, rfl, h1⟩
  | none =>
    have hsv : (c.toMap contents).store.lookup k = none := by simp [hv]
    dsimp only
    rw [exec_bind, exec_current]
    dsimp only
    cases hb : c.binding with
    | none =>
      simp only [MapSemantics.get, hsv, toMap_binding, hb, readyBinding, Option.filter_none,
        Option.isNone_none, if_true] at h1 hmap ⊢
      exact ⟨rfl, hmap, rfl, h1⟩
    | some b =>
      simp only [MapSemantics.get, hsv, toMap_binding, hb, readyBinding, Option.filter_some]
        at h1 hmap ⊢
      by_cases hready : b.isReady = true
      · simp only [hready, if_true, Option.isNone_some, Bool.false_eq_true, if_false]
        rw [exec_bind, exec_onBinding_loader _ rfl]
        dsimp only
        rw [← hmap, StateT.run_bind]
        exact exec_takeLoad laws (h1.with_binding _) hk _
      · simp only [hready]
        exact ⟨rfl, hmap, rfl, h1⟩

/-- One data operation on keys of `K` does what the semantics does. -/
theorem step_toMap (laws : FiniteMapLaws (W := W) K inv contents) (h : Keeps (W := W) inv c)
    (op : DataOp) (hk : ∀ k ∈ op.keys, k ∈ K) :
    Agrees inv contents (exec (op.run : CacheM L E H S W _) c w)
      ((MapSemantics.step op (c.toMap contents)).run w) := by
  cases op with
  | put k v =>
    obtain ⟨s, hput, hs, hc⟩ := exec_put laws h (hk k List.mem_cons_self) v (w := w)
    rw [DataOp.run, exec_bind, hput]
    exact ⟨rfl, toMap_put hc w, rfl, h.with_store hs⟩
  | putAll es =>
    have hes : ∀ e ∈ es, e.1 ∈ K := fun e he => hk e.1 (List.mem_map_of_mem he)
    obtain ⟨h1, h2, h3, h4⟩ := exec_putAll laws es (w := w) h hes
    rw [DataOp.run, exec_bind]
    rcases hx : exec (Cache.putAll es : CacheM L E H S W Unit) c w with ⟨⟨r, c'⟩, w'⟩
    rw [hx] at h1 h2 h3 h4
    subst h1
    exact ⟨rfl, h2, h3, h4⟩
  | get k a =>
    rw [DataOp.run, exec_map]
    exact (exec_get laws h (hk k List.mem_cons_self) a).map DataReply.value
  | remove k =>
    obtain ⟨s, hrem, hs, hc⟩ := exec_remove laws h (hk k List.mem_cons_self) (w := w)
    rw [DataOp.run, exec_map, hrem]
    refine ⟨rfl, ?_, rfl, h.with_store hs⟩
    rw [toMap_with_store, hc]
    rfl
  | removeAll =>
    obtain ⟨s, hclear, hs, hc⟩ := exec_removeAll laws h (w := w)
    rw [DataOp.run, exec_bind, hclear]
    dsimp only
    rw [exec_pure]
    refine ⟨rfl, ?_, rfl, h.with_store hs⟩
    rw [toMap_with_store, hc]
    rfl
  | containsKey k =>
    rw [DataOp.run, exec_map, exec_containsKey laws h]
    exact ⟨rfl, rfl, rfl, h⟩
  | len =>
    obtain ⟨s, hlen, hs, hc⟩ := exec_len laws h (w := w)
    rw [DataOp.run, exec_map, hlen]
    refine ⟨rfl, ?_, rfl, h.with_store hs⟩
    rw [toMap_with_store, hc]
    rfl
  | isEmpty =>
    obtain ⟨s, hemp, hs, hc⟩ := exec_isEmpty laws h (w := w)
    rw [DataOp.run, exec_map, hemp]
    refine ⟨rfl, ?_, rfl, h.with_store hs⟩
    rw [toMap_with_store, hc]
    rfl

/-- Over a store that keeps the finite-map laws, any sequence of data operations on keys of `K`
does what the semantics does. -/
theorem runAll_toMap (laws : FiniteMapLaws (W := W) K inv contents) :
    ∀ (ops : List DataOp) {c : Cache L E H S} {w : W},
    Keeps (W := W) inv c → (∀ op ∈ ops, ∀ k ∈ op.keys, k ∈ K) →
      Agrees inv contents (((DataOp.runAll ops).run c).run w)
        (((MapSemantics.runAll ops).run (c.toMap contents)).run w)
  | [], _, _, h, _ => ⟨rfl, rfl, rfl, h⟩
  | op :: rest, c, w, h, hk => by
    obtain ⟨h1, h2, h3, h4⟩ := step_toMap laws h op (hk op List.mem_cons_self) (w := w)
    have hc : ((DataOp.runAll (op :: rest)).run c).run w =
        (((exec op.run c w).1.1 :: (((DataOp.runAll rest).run (exec op.run c w).1.2).run
          (exec op.run c w).2).1.1, (((DataOp.runAll rest).run (exec op.run c w).1.2).run
          (exec op.run c w).2).1.2), (((DataOp.runAll rest).run (exec op.run c w).1.2).run
          (exec op.run c w).2).2) := by
      rw [DataOp.runAll, DataOp.runAll, List.mapM_cons]
      rfl
    have hs : ((MapSemantics.runAll (op :: rest)).run (c.toMap contents)).run w =
        let p := (MapSemantics.step op (c.toMap contents)).run w
        let q := ((MapSemantics.runAll rest).run p.1.2).run p.2
        ((p.1.1 :: q.1.1, q.1.2), q.2) := by
      rw [MapSemantics.runAll, MapSemantics.runAll, List.mapM_cons]
      rfl
    rw [hc, hs]
    dsimp only
    -- the first operation agrees; the rest run from caches that read alike, in the same world
    rcases hx : exec op.run c w with ⟨⟨r, c'⟩, w'⟩
    rcases hy : (MapSemantics.step op (c.toMap contents)).run w with ⟨⟨r', m⟩, w''⟩
    rw [hx] at h1 h2 h3 h4
    rw [hy] at h1 h2 h3
    dsimp only at h1 h2 h3 h4
    subst h1 h2 h3
    obtain ⟨g1, g2, g3, g4⟩ := runAll_toMap laws rest (w := w') h4
      (fun op' hop => hk op' (List.mem_cons_of_mem _ hop))
    exact ⟨by rw [g1], g2, g3, g4⟩

end

end Cache

/-! ## The engine keeps the laws -/

namespace Engine

variable {K : Finset String} {W : Type}

theorem mem_contents_iff (e : Engine) (k : String) : k ∈ e.contents ↔ (e.lookup k).isSome := by
  rw [← Finmap.lookup_isSome, lookup_contents]

theorem takeRemovals_quiet {e : Engine} (h : e.removals = []) (w : W) :
    ((Storage.takeRemovals (S := Engine) (W := W)).run e).run w = (([], e), w) := by
  cases e
  simp only at h
  subst h
  rfl

/-- An engine with room for every key of `K`, whose expiries are not fleeting, is a finite map
on `K`: it keeps the laws with `MapLike K` as the invariant and its map as the finite map. -/
theorem finiteMapLaws (K : Finset String) : FiniteMapLaws (W := W) K (MapLike K) contents where
  quiet e w h := takeRemovals_quiet h.quiet w
  get e w k h := by
    refine ⟨e.noteRead k, ?_, (h.noteRead k).1, contents_congr (h.noteRead k).2⟩
    show ((Except.ok (e.read k).1, (e.read k).2), w) = _
    rw [h.read_eq, lookup_contents]
  put e w k v h hk := by
    obtain ⟨hr, hm, -⟩ := h.write k v hk
    refine ⟨(e.write k v).2, ?_, hm, h.contents_write k v hk⟩
    show ((Except.ok (e.write k v).1, (e.write k v).2), w) = _
    rw [hr]
    simp [mem_contents_iff]
  remove e w k h hk := by
    refine ⟨(e.erase k).2, ?_, (h.erase k hk).2.1, h.contents_erase k hk⟩
    show ((Except.ok (e.erase k).1, (e.erase k).2), w) = _
    rw [(h.erase k hk).1, lookup_contents]
  removeAll e w h := ⟨e.clear, rfl, h.clear.1, h.contents_clear⟩
  containsKey e k h := by
    show (!e.fleeting && (e.lookup k).isSome) = _
    rw [h.durable]
    simp [mem_contents_iff]
  size e w h := by
    refine ⟨e.settle, ?_, h.settle, contents_congr (settle_entries h.toRoomy)⟩
    show ((e.settle.held.length, e.settle), w) = _
    rw [h.settle_held_length, h.card_contents]

end Engine

/-! ## A fresh cache -/

namespace Cache

/-- A fresh cache of the bench, with a listener that writes what it is told and never fails. -/
def benchCache : Cache BenchLoader BenchListener BenchHandler Engine where
  settings := Settings.named "c"
  store := ((Engine.create (W := World) (Settings.named "c")).run {}).1
  listeners := [.logging "a" []]
  handler := .recording

theorem benchCache_keeps : Keeps (W := World) (Engine.MapLike {"k"}) benchCache := by
  refine ⟨Engine.create_mapLike (Settings.named "c") ({} : World) (by decide)
    (fun kind => by cases kind <;> rfl), rfl, ?_⟩
  intro l hl name ev w f hf
  -- the one listener writes a line and answers `ok`: it never fails
  rw [show benchCache.listeners = [.logging "a" []] from rfl, List.mem_singleton] at hl
  subst hl
  cases hf

/-- Writing, reading, removing and counting a key. -/
def benchOps : List DataOp := [.put "k" "1", .get "k" none, .remove "k", .len, .isEmpty]

theorem runAll_toMap_bench :
    FiniteMapLaws (W := World) {"k"} (Engine.MapLike {"k"}) Engine.contents ∧
      Keeps (W := World) (Engine.MapLike {"k"}) benchCache ∧
      (∀ op ∈ benchOps, ∀ k ∈ op.keys, k ∈ ({"k"} : Finset String)) ∧
      Agrees (Engine.MapLike {"k"}) Engine.contents
        (((DataOp.runAll benchOps).run benchCache).run ({} : World))
        (((MapSemantics.runAll benchOps).run (benchCache.toMap Engine.contents)).run ({} : World)) :=
  ⟨Engine.finiteMapLaws _, benchCache_keeps, by decide,
    runAll_toMap (Engine.finiteMapLaws _) benchOps benchCache_keeps (by decide)⟩

end Cache

end NamedCaches
