import NamedCaches.Cache.Ops
set_option autoImplicit false
/-!
# Running cache operations

A cache operation is run on a cache and a world (`Cache.exec`). Its steps are executed
symbolically through `exec_bind` and one lemma per building block: a check that passes on an
operable cache, a recoverable failure handed to the handler, a round of notifications.

When every listener fails only recoverably, a round of notifications tells each listener in
registration order and hands each failure to the handler, with the key (`Cache.announce`), and
leaves the cache as it was (`exec_notify`). When every listener takes every event at once, as
the null sink does, it also leaves the world as it was (`exec_notify_silent`).
-/

namespace NamedCaches.Cache

variable {L E H S W : Type}

/-- Runs an operation on a cache and a world: its result, the cache and the world after it. -/
def exec {α : Type} (x : CacheM L E H S W α) (c : Cache L E H S) (w : W) :
    (Except Failure α × Cache L E H S) × W :=
  ((x.run).run c).run w

variable {α β : Type} {c : Cache L E H S} {w : W}

@[simp] theorem exec_pure (a : α) : exec (pure a : CacheM L E H S W α) c w = ((.ok a, c), w) :=
  rfl

theorem exec_bind (x : CacheM L E H S W α) (f : α → CacheM L E H S W β) :
    exec (x >>= f) c w =
      match exec x c w with
      | ((.ok a, c'), w') => exec (f a) c' w'
      | ((.error e, c'), w') => ((.error e, c'), w') := by
  simp only [exec, ExceptT.run_bind, StateT.run_bind]
  rcases h : (((x.run).run c).run w) with ⟨⟨r, c'⟩, w'⟩
  cases r <;> simp_all <;> rfl

/-- A first step that succeeds hands its result, cache and world to the rest. -/
theorem exec_bind_ok {x : CacheM L E H S W α} {f : α → CacheM L E H S W β} {a : α}
    {c' : Cache L E H S} {w' : W} (h : exec x c w = ((.ok a, c'), w')) :
    exec (x >>= f) c w = exec (f a) c' w' := by
  rw [exec_bind, h]

/-- A first step that fails is the operation's failure. -/
theorem exec_bind_error {x : CacheM L E H S W α} {f : α → CacheM L E H S W β} {e : Failure}
    {c' : Cache L E H S} {w' : W} (h : exec x c w = ((.error e, c'), w')) :
    exec (x >>= f) c w = ((.error e, c'), w') := by
  rw [exec_bind, h]

/-- A sequence that succeeds ran a first step that succeeded. -/
theorem exec_bind_eq_ok {x : CacheM L E H S W α} {f : α → CacheM L E H S W β} {b : β}
    {c' : Cache L E H S} {w' : W} (h : exec (x >>= f) c w = ((.ok b, c'), w')) :
    ∃ a c₁ w₁, exec x c w = ((.ok a, c₁), w₁) ∧ exec (f a) c₁ w₁ = ((.ok b, c'), w') := by
  rw [exec_bind] at h
  rcases hx : exec x c w with ⟨⟨_ | a, c₁⟩, w₁⟩
  · rw [hx] at h
    cases h
  · rw [hx] at h
    exact ⟨a, c₁, w₁, rfl, h⟩

theorem exec_discard (x : CacheM L E H S W α) :
    exec (discard x) c w =
      match exec x c w with
      | ((.ok _, c'), w') => ((.ok (), c'), w')
      | ((.error e, c'), w') => ((.error e, c'), w') := by
  rw [show (discard x : CacheM L E H S W Unit) = x >>= fun _ => pure () from
    (bind_pure_comp _ x).symm, exec_bind]
  rcases exec x c w with ⟨⟨r, c'⟩, w'⟩
  cases r <;> rfl

theorem exec_map (f : α → β) (x : CacheM L E H S W α) :
    exec (f <$> x) c w = (((exec x c w).1.1.map f, (exec x c w).1.2), (exec x c w).2) := by
  rw [← bind_pure_comp, exec_bind]
  rcases exec x c w with ⟨⟨r, c'⟩, w'⟩
  cases r <;> rfl

theorem exec_map_eq_ok {f : α → β} {x : CacheM L E H S W α} {b : β} {c' : Cache L E H S}
    {w' : W} (h : exec (f <$> x) c w = ((.ok b, c'), w')) :
    ∃ a, exec x c w = ((.ok a, c'), w') ∧ f a = b := by
  rw [exec_map] at h
  rcases hx : exec x c w with ⟨⟨_ | a, c₁⟩, w₁⟩
  · rw [hx] at h
    cases h
  · rw [hx] at h
    cases h
    exact ⟨a, rfl, rfl⟩

/-- A run's outcome, read off from its result. -/
theorem exec_eq_of_result {x : CacheM L E H S W α} {a : α} (h : (exec x c w).1.1 = .ok a) :
    exec x c w = ((.ok a, (exec x c w).1.2), (exec x c w).2) := by
  rw [← h]

/-- A failure of the first step goes to the handler, with the cache and world it left. -/
theorem exec_tryCatch (x : CacheM L E H S W α) (g : Failure → CacheM L E H S W α) :
    exec (MonadExcept.tryCatch x g) c w =
      match exec x c w with
      | ((.ok a, c'), w') => ((.ok a, c'), w')
      | ((.error e, c'), w') => exec (g e) c' w' := by
  show ((ExceptT.tryCatch x g).run.run c).run w = _
  simp only [ExceptT.tryCatch, ExceptT.run_mk, StateT.run_bind]
  rw [show StateT.run (StateT.run x c) w = exec x c w from rfl]
  rcases exec x c w with ⟨⟨r, c'⟩, w'⟩
  cases r <;> rfl

@[simp] theorem exec_current : exec (current : CacheM L E H S W _) c w = ((.ok c, c), w) := rfl

@[simp] theorem exec_modify (f : Cache L E H S → Cache L E H S) :
    exec (modify f : CacheM L E H S W Unit) c w = ((.ok (), f c), w) := rfl

@[simp] theorem exec_throw (e : Failure) :
    exec (throw e : CacheM L E H S W α) c w = ((.error e, c), w) := rfl

@[simp] theorem exec_lift (act : StateM W α) :
    exec (monadLift act : CacheM L E H S W α) c w = ((.ok (act.run w).1, c), (act.run w).2) :=
  rfl

/-! ## Checks and failures -/

theorem exec_checkOperable (op : String) (h : c.status.isOperable = true) :
    exec (checkOperable op : CacheM L E H S W Unit) c w = ((.ok (), c), w) := by
  rw [checkOperable, exec_bind, exec_current]
  simp only [Status.checkOperable, h, if_true, orFail]
  rfl

/-- A cache that is not operable refuses the operation, naming itself, the operation and its
status. -/
theorem exec_checkOperable_refused (op : String) (h : c.status.isOperable = false) :
    exec (checkOperable op : CacheM L E H S W Unit) c w =
      ((.error (.illegalState c.name ("`" ++ op ++ "` not permitted while " ++ c.status.text)), c),
        w) := by
  rw [checkOperable, exec_bind, exec_current]
  simp only [Status.checkOperable, h]
  rfl

theorem exec_isolate_ok [Handler H W] (key : Option String) (a : α) :
    exec (isolate key (.ok a) : CacheM L E H S W (Option α)) c w = ((.ok (some a), c), w) := rfl

/-- A recoverable failure goes to the handler with the key, and the step gives nothing. -/
theorem exec_isolate_recoverable [Handler H W] (key : Option String) (f : Failure)
    (hf : f.isRecoverable = true) :
    exec (isolate key (.error f) : CacheM L E H S W (Option α)) c w =
      ((.ok none, c), ((Handler.onFailure c.handler c.settings key f).run w).2) := by
  simp [isolate, hf, report, exec, current]
  rfl

theorem exec_isolate_fatal [Handler H W] (key : Option String) (f : Failure)
    (hf : f.isRecoverable = false) :
    exec (isolate key (.error f) : CacheM L E H S W (Option α)) c w = ((.error f, c), w) := by
  simp [isolate, hf]

/-- The handler is told of the failure, with the key, and the cache is left as it was. -/
theorem exec_report [Handler H W] (key : Option String) (f : Failure) :
    exec (report key f : CacheM L E H S W Unit) c w =
      ((.ok (), c), ((Handler.onFailure c.handler c.settings key f).run w).2) :=
  rfl

/-! ## Loaders -/

/-- A loader action runs on the loader of the cache's binding, which keeps the loader it leaves. -/
theorem exec_onBinding_loader [Named L] [KeyedLoader L W] [Journal W] (act : LoaderM L W α)
    {b : Binding L} (hb : c.binding = some b) :
    exec (onBinding (Binding.onLoader act) : CacheM L E H S W _) c w =
      ((.ok (some ((act.run b.loader).run w).1.1),
          { c with binding := some { b with loader := ((act.run b.loader).run w).1.2 } }),
        ((act.run b.loader).run w).2) := by
  rw [onBinding, exec_bind, exec_current]
  simp only [hb]
  rfl

/-! ## Notifications -/

/-- Every listener of the cache, in registration order, is told of an event; a failure goes to
the cache's handler with the key the event is about. -/
def announce [Listener E W] [Handler H W] (c : Cache L E H S) (key : Option String) (ev : Event) :
    StateM W Unit :=
  c.listeners.forM fun l => do
    match ← Listener.notify (W := W) l c.name ev with
    | .ok () => pure ()
    | .error f => Handler.onFailure c.handler c.settings key f

/-- Every listener of the cache fails, if at all, with a recoverable failure. -/
def ListenersRecover [Listener E W] (c : Cache L E H S) : Prop :=
  ∀ l ∈ c.listeners, ∀ (name : String) (ev : Event) (w : W) (f : Failure),
    ((Listener.notify (W := W) l name ev).run w).1 = .error f → f.isRecoverable = true

/-- How the specification tells a listener of an event. -/
def tellSpec [Listener E W] [Handler H W] (c : Cache L E H S) (key : Option String) (ev : Event)
    (l : E) : StateM W Unit := do
  match ← Listener.notify (W := W) l c.name ev with
  | .ok () => pure ()
  | .error f => Handler.onFailure c.handler c.settings key f

@[simp] theorem exec_noCalls (cb : Callback L E) :
    exec (noCalls cb : CacheM L E H S W Unit) c w = ((.ok (), c), w) :=
  rfl

/-- A binding released by a cache whose loader makes no calls on it only runs its `dispose`. -/
theorem release_noCalls [Named L] [KeyedLoader L W] [Journal W] (b : Binding L) :
    release (noCalls : Callback L E → CacheM L E H S W Unit) b =
      discard (onDetached Binding.dispose b) := by
  simp only [release, noCalls, pure_bind, ite_self]

/-- A listener that makes no calls on its cache is released by its `dispose` alone. -/
theorem releaseListener_noCalls [Listener E W] :
    releaseListener (noCalls : Callback L E → CacheM L E H S W Unit) =
      fun l => monadLift (Listener.dispose (W := W) l) := by
  funext l
  simp only [releaseListener, noCalls, pure_bind]

/-- Telling one listener that fails only recoverably leaves the cache as it was. -/
theorem exec_tell [Listener E W] [Handler H W] (key : Option String) (ev : Event) (l : E)
    (hl : ∀ (w : W) (f : Failure), ((Listener.notify (W := W) l c.name ev).run w).1 = .error f →
      f.isRecoverable = true) :
    exec (do
        let r ← monadLift (Listener.notify (W := W) l c.name ev)
        discard (isolate key r) : CacheM L E H S W Unit) c w =
      ((.ok (), c), ((tellSpec c key ev l).run w).2) := by
  rw [exec_bind, exec_lift]
  dsimp only
  rw [exec_discard]
  rcases hr : (Listener.notify (W := W) l c.name ev).run w with ⟨r, w1⟩
  cases r with
  | ok u =>
    simp only [exec_isolate_ok, tellSpec, StateT.run_bind, hr]
    rfl
  | error f =>
    simp only [exec_isolate_recoverable key f (hl w f (by rw [hr])), tellSpec, StateT.run_bind, hr]
    rfl

/-- A round of notifications over listeners of the cache leaves the cache as it was. -/
theorem exec_forM_tell [Listener E W] [Handler H W] (key : Option String) (ev : Event)
    (hl : ListenersRecover (W := W) c) :
    ∀ (ls : List E), (∀ l ∈ ls, l ∈ c.listeners) → ∀ (w : W),
      exec (ls.forM fun l => do
          let r ← monadLift (Listener.notify (W := W) l c.name ev)
          discard (isolate key r) : CacheM L E H S W Unit) c w =
        ((.ok (), c), ((ls.forM (tellSpec c key ev)).run w).2)
  | [], _, _ => rfl
  | l :: rest, hsub, w => by
    rw [List.forM_eq_forM, List.forM_cons, exec_bind,
      exec_tell key ev l fun w f h => hl l (hsub l List.mem_cons_self) c.name ev w f h]
    simp only [List.forM_eq_forM, List.forM_cons, StateT.run_bind]
    exact exec_forM_tell key ev hl rest (fun l' hl' => hsub l' (List.mem_cons_of_mem _ hl')) _

/-- When every listener fails only recoverably, a round of notifications is the announcement
and leaves the cache as it was. -/
theorem exec_notify [Listener E W] [Handler H W] (key : Option String) (ev : Event)
    (hl : ListenersRecover (W := W) c) :
    exec (notify key ev : CacheM L E H S W Unit) c w = ((.ok (), c), ((announce c key ev).run w).2) := by
  rw [notify, exec_bind, exec_current]
  exact exec_forM_tell key ev hl c.listeners (fun _ h => h) w

/-! ## The store -/

/-- When the store has noticed no removal, relaying removals changes nothing. -/
theorem exec_relayRemovals_quiet [Storage S W] [Listener E W] [Handler H W] [Journal W]
    (h : ((Storage.takeRemovals (S := S) (W := W)).run c.store).run w = (([], c.store), w)) :
    exec (relayRemovals : CacheM L E H S W Unit) c w = ((.ok (), c), w) := by
  rw [relayRemovals, exec_bind, exec_current]
  dsimp only
  rw [exec_bind, exec_lift, h]
  dsimp only
  rw [exec_bind, exec_modify]
  rfl

/-- A store action runs on the cache's store; the removals it noticed are then relayed from the
cache holding the store it left, and the call answers what the action answered. -/
theorem exec_onStore_eq [Storage S W] [Listener E W] [Handler H W] [Journal W]
    (act : StoreM S W α) {a : α} {s : S} {w₁ : W} (h : (act.run c.store).run w = ((a, s), w₁)) :
    exec (onStore act : CacheM L E H S W α) c w =
      exec (relayRemovals >>= fun _ => pure a) { c with store := s } w₁ := by
  rw [onStore, exec_bind, exec_current]
  dsimp only
  rw [exec_bind, exec_lift, h]
  dsimp only
  rw [exec_bind, exec_modify]

/-- A store action that leaves the world alone, after which the store has noticed no removal, is
just that action on the cache's store. -/
theorem exec_onStore [Storage S W] [Listener E W] [Handler H W] [Journal W]
    (act : StoreM S W α) {a : α} {s : S} (h : (act.run c.store).run w = ((a, s), w))
    (hq : ((Storage.takeRemovals (S := S) (W := W)).run s).run w = (([], s), w)) :
    exec (onStore act : CacheM L E H S W α) c w = ((.ok a, { c with store := s }), w) := by
  rw [exec_onStore_eq act h, exec_bind, exec_relayRemovals_quiet hq]
  rfl

/-! ## Listeners that answer at once

A listener that takes every event at once and leaves the world alone, such as the null sink, is
*silent*. With only silent listeners (or none), a round of notifications leaves no trace and
relaying the store's removals only takes them from the store.
-/

section
variable [Storage S W] [Listener E W] [Handler H W] [Journal W]

/-- Every listener of the cache takes every event at once and leaves the world alone. -/
def ListenersSilent (c : Cache L E H S) : Prop :=
  ∀ l ∈ c.listeners, ∀ (name : String) (ev : Event) (w : W),
    (Listener.notify (W := W) l name ev).run w = (.ok (), w)

omit [Storage S W] [Handler H W] [Journal W] in
theorem listenersSilent_of_nil (hl : c.listeners = []) : ListenersSilent (W := W) c := by
  intro l hmem
  rw [hl] at hmem
  cases hmem

omit [Storage S W] [Journal W] in
/-- Silent listeners hear a round of notifications without a trace. -/
theorem exec_notify_silent (hl : ListenersSilent (W := W) c) (key : Option String) (ev : Event) :
    exec (notify key ev : CacheM L E H S W Unit) c w = ((.ok (), c), w) := by
  rw [notify, exec_bind, exec_current]
  dsimp only
  -- the round goes through the listeners in order, each of them answering at once
  suffices h : ∀ ls : List E, (∀ l ∈ ls, l ∈ c.listeners) → ∀ w : W,
      exec (ls.forM fun l => do
          let r ← monadLift (Listener.notify (W := W) l c.name ev)
          discard (isolate key r) : CacheM L E H S W Unit) c w = ((.ok (), c), w) from
    h c.listeners (fun _ h => h) w
  intro ls
  induction ls with
  | nil => exact fun _ _ => rfl
  | cons l rest ih =>
    intro hsub w
    have hl' := hl l (hsub l List.mem_cons_self) c.name ev w
    rw [List.forM_eq_forM, List.forM_cons, exec_bind, exec_bind, exec_lift, hl']
    dsimp only
    rw [exec_discard, exec_isolate_ok]
    exact ih (fun l' h => hsub l' (List.mem_cons_of_mem _ h)) w

/-- With silent listeners, relaying removals only takes them from the store. -/
theorem exec_relayRemovals_silent (hl : ListenersSilent (W := W) c) {rs : List Removal} {s : S}
    {w₁ : W} (ht : ((Storage.takeRemovals (S := S) (W := W)).run c.store).run w = ((rs, s), w₁)) :
    exec (relayRemovals : CacheM L E H S W Unit) c w = ((.ok (), { c with store := s }), w₁) := by
  unfold relayRemovals
  rw [exec_bind, exec_current]
  dsimp only
  rw [exec_bind, exec_lift, ht]
  dsimp only
  rw [exec_bind, exec_modify]
  dsimp only
  clear ht
  -- every removal is told to listeners that answer at once
  induction rs with
  | nil => rfl
  | cons r rest ih =>
    rw [List.forM_eq_forM, List.forM_cons, exec_bind, exec_tryCatch,
      exec_notify_silent (c := { c with store := s }) hl]
    exact ih

/-- With silent listeners, a store action is that action on the cache's store, followed by
taking the removals it noticed. -/
theorem exec_onStore_silent (hl : ListenersSilent (W := W) c) (act : StoreM S W α) {a : α}
    {s s' : S} {rs : List Removal} {w₁ w₂ : W} (h : (act.run c.store).run w = ((a, s), w₁))
    (ht : ((Storage.takeRemovals (S := S) (W := W)).run s).run w₁ = ((rs, s'), w₂)) :
    exec (onStore act : CacheM L E H S W α) c w = ((.ok a, { c with store := s' }), w₂) := by
  rw [exec_onStore_eq act h, exec_bind, exec_relayRemovals_silent (c := { c with store := s }) hl ht]
  rfl

/-- With no listener, a store action is that action on the cache's store, followed by taking
the removals it noticed. -/
theorem exec_onStore_unheard (hl : c.listeners = []) (act : StoreM S W α) {a : α} {s s' : S}
    {rs : List Removal} {w₁ w₂ : W} (h : (act.run c.store).run w = ((a, s), w₁))
    (ht : ((Storage.takeRemovals (S := S) (W := W)).run s).run w₁ = ((rs, s'), w₂)) :
    exec (onStore act : CacheM L E H S W α) c w = ((.ok a, { c with store := s' }), w₂) :=
  exec_onStore_silent (listenersSilent_of_nil hl) act h ht

end

end NamedCaches.Cache
