import NamedCaches.Proofs.Cache.Lifecycle
import NamedCaches.Cache.Call
import NamedCaches.Cache.Engine
import NamedCaches.Bench.Handler
import NamedCaches.Bench.Listener
import NamedCaches.Bench.Loader
set_option autoImplicit false
/-!
# Runs of calls on a cache: the status moves forward, and disposal is final

A program calls a cache's operations one after another (`CacheCall`); `CacheCall.steps` records
each call with the cache and world it met, its answer, and the cache and world it left. Over
every run from a cache that is uninitialised or alive (`CacheCall.steps_lifecycle`):

* only `initialise` and `dispose` move the status, and only forward; `disposing` is seen only
  inside `dispose`, so no call leaves the cache in it;
* `initialise` succeeds only on an uninitialised cache: anywhere else it is refused with an
  `illegalState` and changes nothing, so after one has run every later one is refused;
* after a `dispose` the cache is disposed and its store holds nothing (`len` answers 0); every
  later call is refused with an `illegalState` naming the cache, except `dispose` and a `putAll`
  of nothing, which answer `done`, and none touches the cache or the world.

The runs are over any store that a clear empties (`ClearLaws`), as it does the engine
(`Engine.clearLaws`), and over every behaviour of the loader, listeners, handler and world. A call that
touches neither the cache nor the world for every such behaviour calls none of them: a store
access, a load, a notification or a report shows in the store, the binding or the world for
some behaviour.
-/

namespace NamedCaches

/-! ## An engine after a clear -/

namespace Engine

theorem evict_pending (e : Engine) (k : String) :
    (e.evict k).reads = e.reads ∧ (e.evict k).writes = e.writes := by
  unfold evict
  split <;> exact ⟨rfl, rfl⟩

theorem refresh_pending (e : Engine) (k : String) :
    (e.refresh k).reads = e.reads ∧ (e.refresh k).writes = e.writes := by
  unfold refresh
  split <;> exact ⟨rfl, rfl⟩

theorem learnRead_pending (e : Engine) (k : String) :
    (e.learnRead k).reads = e.reads ∧ (e.learnRead k).writes = e.writes := by
  have hc : (e.countRead k).reads = e.reads ∧ (e.countRead k).writes = e.writes := by
    unfold countRead halve
    dsimp only
    split
    · exact ⟨rfl, rfl⟩
    · split <;> exact ⟨rfl, rfl⟩
  obtain ⟨h1, h2⟩ := refresh_pending (e.countRead k) k
  exact ⟨h1.trans hc.1, h2.trans hc.2⟩

theorem learnUpsert_pending (e : Engine) (k : String) (n : Nat) (later : List Pending) :
    (e.learnUpsert k n later).reads = e.reads ∧ (e.learnUpsert k n later).writes = e.writes := by
  unfold learnUpsert
  split
  · exact ⟨rfl, rfl⟩
  split
  · exact refresh_pending e k
  split
  · exact ⟨rfl, rfl⟩
  -- a newcomer without room: the reject path evicts it at most, the winning path the victim
  have hk := evict_pending e k
  dsimp only
  split
  · split
    · exact evict_pending _ _
    · split <;> simp only [hk, and_self]
  · split <;> simp only [hk, and_self]

theorem learnWrites_pending : ∀ (ws : List Pending) (e : Engine),
    (e.learnWrites ws).reads = e.reads ∧ (e.learnWrites ws).writes = e.writes
  | [], _ => ⟨rfl, rfl⟩
  | .upsert k n :: rest, e => by
    obtain ⟨h1, h2⟩ := learnWrites_pending rest (e.learnUpsert k n rest)
    obtain ⟨h3, h4⟩ := learnUpsert_pending e k n rest
    exact ⟨h1.trans h3, h2.trans h4⟩
  | .remove k :: rest, e => learnWrites_pending rest _

theorem foldl_learnRead_pending : ∀ (rs : List String) (e : Engine),
    (rs.foldl learnRead e).reads = e.reads ∧ (rs.foldl learnRead e).writes = e.writes
  | [], _ => ⟨rfl, rfl⟩
  | k :: rest, e => by
    obtain ⟨h1, h2⟩ := foldl_learnRead_pending rest (e.learnRead k)
    obtain ⟨h3, h4⟩ := learnRead_pending e k
    exact ⟨h1.trans h3, h2.trans h4⟩

theorem startCounting_unheld (e : Engine) :
    e.startCounting.reads = e.reads ∧ e.startCounting.writes = e.writes ∧
      e.startCounting.held = e.held := by
  unfold startCounting
  split <;> exact ⟨rfl, rfl, rfl⟩

theorem dropExpired_pending (e : Engine) :
    e.dropExpired.reads = e.reads ∧ e.dropExpired.writes = e.writes := by
  unfold dropExpired
  split <;> exact ⟨rfl, rfl⟩

/-- Doing the pending work leaves no read or write pending. -/
theorem settle_pending (e : Engine) : e.settle.reads = [] ∧ e.settle.writes = [] := by
  let e₁ := e.reads.foldl learnRead { e with reads := [] }
  let e₂ := ({ e₁ with writes := [] } : Engine).learnWrites e.writes
  have h₁ := foldl_learnRead_pending e.reads { e with reads := [] }
  have h₂ := learnWrites_pending e.writes { e₁ with writes := [] }
  have h₃ := startCounting_unheld e₂
  have h₄ := dropExpired_pending e₂.startCounting
  show e₂.startCounting.dropExpired.reads = [] ∧ e₂.startCounting.dropExpired.writes = []
  rw [h₄.1, h₄.2, h₃.1, h₃.2.1, h₂.1, h₂.2]
  exact ⟨h₁.1, rfl⟩

/-- An engine whose policy holds no entry and which has no read or write to learn of. -/
structure Idle (e : Engine) : Prop where
  held : e.held = []
  reads : e.reads = []
  writes : e.writes = []

/-- A clear leaves the engine idle, whatever removals it keeps. -/
theorem idle_clear (e : Engine) (rs : List Removal) : Idle { e.clear with removals := rs } :=
  ⟨rfl, (settle_pending e).1, (settle_pending e).2⟩

/-- An idle engine has nothing to learn: its pending work leaves its policy empty. -/
theorem Idle.settle_held {e : Engine} (h : e.Idle) : e.settle.held = [] := by
  have hs := (startCounting_unheld
    (({ (e.reads.foldl learnRead { e with reads := [] }) with writes := [] } : Engine).learnWrites
      e.writes)).2.2
  unfold settle dropExpired
  rw [h.reads, h.writes] at hs ⊢
  dsimp only
  split
  · rfl
  · exact hs.trans h.held

end Engine

/-- How far along its life a status is. -/
def Status.stage : Status → Nat
  | .uninitialized => 0
  | .alive => 1
  | .disposing => 2
  | .disposed => 3

/-! ## Calls -/

namespace CacheCall

variable {L E H S W : Type}

/-- The name under which the cache checks the call. -/
def label : CacheCall L E → String
  | .initialise => "initialise"
  | .dispose => "dispose"
  | .registerLoader _ => "register_loader"
  | .attachDeclaredLoader _ => "attach_declared_loader"
  | .registerListener _ => "register_listener"
  | .replaceListeners _ => "replace_listeners"
  | .get .. => "get"
  | .getAll .. => "get_all"
  | .put .. | .putAll _ => "put"
  | .remove _ => "remove"
  | .removeAll => "remove_all"
  | .containsKey _ => "contains_key"

/-- The failure with which a cache that is disposing or disposed refuses the call: none for
`dispose` and for a `putAll` of nothing, which it lets through. -/
def refusal (c : Cache L E H S) : CacheCall L E → Option Failure
  | .initialise => some (.illegalState c.name ("cannot move to alive while " ++ c.status.text))
  | .dispose => none
  | .attachDeclaredLoader _ =>
    some (.illegalState c.name "declared loaders attach only before initialisation")
  | .putAll [] => none
  | call => some (.illegalState c.name ("`" ++ call.label ++ "` not permitted while " ++ c.status.text))

/-- What a cache that is disposing or disposed answers a call. -/
def refusedAnswer (c : Cache L E H S) (call : CacheCall L E) : Except Failure CacheReply :=
  match call.refusal c with
  | some e => .error e
  | none => .ok .done

/-- Every refusal is an `illegalState` naming the cache, and only `dispose` and a `putAll` of
nothing are let through. -/
theorem refusal_eq_some {c : Cache L E H S} {call : CacheCall L E} :
    (∃ e, call.refusal c = some e) ↔ call ≠ .dispose ∧ call ≠ .putAll [] := by
  cases call with
  | dispose => simp [refusal]
  | putAll es => cases es <;> simp [refusal]
  | _ => simp [refusal]

theorem refusal_illegalState {c : Cache L E H S} {call : CacheCall L E} {e : Failure}
    (h : call.refusal c = some e) : ∃ msg, e = .illegalState c.name msg := by
  cases call with
  | dispose => cases h
  | putAll es =>
    cases es with
    | nil => cases h
    | cons => exact ⟨_, (Option.some.inj h).symm⟩
  | _ => exact ⟨_, (Option.some.inj h).symm⟩

/-- The status a call leaves: `initialise` moves an uninitialised cache to alive, `dispose`
moves an operable cache to disposed, and nothing else moves it. -/
def nextStatus : CacheCall L E → Status → Status
  | .initialise, s => if s = .uninitialized then .alive else s
  | .dispose, s => if s.isOperable then .disposed else s
  | _, s => s

theorem stage_le_nextStatus (call : CacheCall L E) (s : Status) :
    s.stage ≤ (call.nextStatus s).stage := by
  cases call <;> cases s <;> simp [nextStatus, Status.stage, Status.isOperable]

theorem nextStatus_ne_disposing (call : CacheCall L E) {s : Status} (h : s ≠ .disposing) :
    call.nextStatus s ≠ .disposing := by
  cases call <;> cases s <;> simp_all [nextStatus, Status.isOperable]

theorem nextStatus_ne_uninitialized (call : CacheCall L E) {s : Status}
    (h : s ≠ .uninitialized) : call.nextStatus s ≠ .uninitialized := by
  cases call <;> cases s <;> simp_all [nextStatus, Status.isOperable]

/-- Only `dispose` takes an operable cache out of use. -/
theorem nextStatus_isOperable {call : CacheCall L E} {s : Status} (h : s.isOperable = true)
    (hd : call ≠ .dispose) : (call.nextStatus s).isOperable = true := by
  cases call <;> cases s <;> simp_all [nextStatus, Status.isOperable]

end CacheCall

/-- A call of a run: the call, the cache and world it met, its answer, and the cache and world
it left. -/
structure CacheStep (L E H S W : Type) where
  call : CacheCall L E
  cache : Cache L E H S
  world : W
  answer : Except Failure CacheReply
  cache' : Cache L E H S
  world' : W

/-- The call answered `a` and touched neither the cache nor the world. -/
def CacheStep.Inert {L E H S W : Type} (s : CacheStep L E H S W) (a : Except Failure CacheReply) :
    Prop :=
  s.answer = a ∧ s.cache' = s.cache ∧ s.world' = s.world

namespace CacheCall

variable {L E H S W : Type} [Named L] [KeyedLoader L W] [Named E] [Listener E W] [Handler H W]
  [Storage S W] [Journal W]

/-- A call made on a cache in a world. -/
def step (call : CacheCall L E) (c : Cache L E H S) (w : W) : CacheStep L E H S W :=
  ⟨call, c, w, (Cache.exec call.run c w).1.1, (Cache.exec call.run c w).1.2,
    (Cache.exec call.run c w).2⟩

/-- Makes calls in order, each on the cache and world the one before left. -/
def steps : List (CacheCall L E) → Cache L E H S → W → List (CacheStep L E H S W)
  | [], _, _ => []
  | call :: rest, c, w => step call c w :: steps rest (step call c w).cache' (step call c w).world'

/-! ## Runs -/

/-- Every call of a run is the call made on the cache and world it met. -/
theorem eq_step_of_mem_steps : ∀ {calls : List (CacheCall L E)} {c : Cache L E H S} {w : W}
    {s : CacheStep L E H S W}, s ∈ steps calls c w → s = step s.call s.cache s.world
  | [], _, _, _, h => by cases h
  | _ :: _, _, _, _, h => by
    rcases List.mem_cons.1 h with h | h
    · subst h
      rfl
    · exact eq_step_of_mem_steps h

/-- What follows a call in a run is the run of the later calls from what that call left. -/
theorem steps_suffix : ∀ {calls : List (CacheCall L E)} {c : Cache L E H S} {w : W}
    {pre : List (CacheStep L E H S W)} {s : CacheStep L E H S W} {post : List (CacheStep L E H S W)},
    steps calls c w = pre ++ s :: post → ∃ rest, post = steps rest s.cache' s.world'
  | [], _, _, pre, _, _, h => by cases pre <;> cases h
  | _ :: rest, _, _, [], _, _, h => by
    simp only [steps, List.nil_append, List.cons.injEq] at h
    obtain ⟨rfl, rfl⟩ := h
    exact ⟨rest, rfl⟩
  | _ :: _, _, _, _ :: _, _, _, h => by
    simp only [steps, List.cons_append, List.cons.injEq] at h
    exact steps_suffix h.2

/-- A property of caches that every call keeps holds of every cache a run meets or leaves. -/
theorem steps_invariant {I : Cache L E H S → Prop}
    (hstep : ∀ (call : CacheCall L E) c (w : W), I c → I (step call c w).cache') :
    ∀ (calls : List (CacheCall L E)) (c : Cache L E H S) (w : W), I c →
      ∀ s ∈ steps calls c w, I s.cache ∧ I s.cache'
  | [], _, _, _, _, h => by cases h
  | call :: rest, c, w, hc, s, h => by
    rcases List.mem_cons.1 h with h | h
    · subst h
      exact ⟨hc, hstep call c w hc⟩
    · exact steps_invariant hstep rest _ _ (hstep call c w hc) s h

/-- A call whose run answers `a` and leaves the cache and the world as they were is inert. -/
theorem inert_of_exec {call : CacheCall L E} {c : Cache L E H S} {w : W}
    {a : Except Failure CacheReply} (h : Cache.exec call.run c w = ((a, c), w)) :
    (step call c w).Inert a := by
  unfold CacheStep.Inert step
  rw [h]
  exact ⟨rfl, rfl, rfl⟩

theorem inert_of_mem {calls : List (CacheCall L E)} {c : Cache L E H S} {w : W}
    {s : CacheStep L E H S W} {a : Except Failure CacheReply} (hs : s ∈ steps calls c w)
    (h : Cache.exec s.call.run s.cache s.world = ((a, s.cache), s.world)) : s.Inert a := by
  rw [eq_step_of_mem_steps hs]
  exact inert_of_exec h

/-! ## One call -/

omit [Named E] [Listener E W] [Handler H W] [Storage S W] in
/-- `initialise` on a cache that is not uninitialised is refused and changes nothing. -/
theorem exec_initialise_refused {c : Cache L E H S} (h : c.status ≠ .uninitialized) (w : W) :
    Cache.exec (Cache.initialise : CacheM L E H S W Unit) c w =
      ((.error (.illegalState c.name ("cannot move to alive while " ++ c.status.text)), c), w) := by
  unfold Cache.initialise
  exact Cache.exec_bind_error (Cache.exec_markAlive_refused h w)

/-- A cache that is disposing or disposed refuses every call but `dispose` and a `putAll` of
nothing, and changes nothing. -/
theorem exec_inoperable (call : CacheCall L E) {c : Cache L E H S} (hc : c.status.isOperable = false)
    (w : W) : Cache.exec call.run c w = ((call.refusedAnswer c, c), w) := by
  -- every guarded operation fails at its check, before anything else
  have hcheck : ∀ (op : String) {α : Type} (k : Unit → CacheM L E H S W α),
      Cache.exec (Cache.checkOperable op >>= k) c w =
        ((.error (.illegalState c.name ("`" ++ op ++ "` not permitted while " ++ c.status.text)),
          c), w) := fun op _ _ => Cache.exec_bind_error (Cache.exec_checkOperable_refused op hc)
  cases call with
  | initialise =>
    have hs : c.status ≠ .uninitialized := fun h => by simp [h, Status.isOperable] at hc
    exact Cache.exec_bind_error (exec_initialise_refused hs w)
  | dispose =>
    rw [run, Cache.exec_bind_ok]
    · rfl
    unfold Cache.dispose Cache.disposeWith
    rw [Cache.exec_bind, Cache.exec_current]
    dsimp only
    rw [if_neg (by simp [hc]), Cache.exec_pure]
  | attachDeclaredLoader t =>
    have hs : (c.status != .uninitialized) = true := by
      cases h : c.status <;> simp_all [Status.isOperable]
    refine Cache.exec_bind_error ?_
    unfold Cache.attachDeclaredLoader Cache.attachDeclaredLoaderWith
    rw [Cache.exec_bind, Cache.exec_current]
    dsimp only
    rw [if_pos hs]
    exact Cache.exec_bind_error rfl
  | putAll es =>
    cases es with
    | nil => rfl
    | cons e rest =>
      refine Cache.exec_bind_error ?_
      rw [Cache.putAll, List.forM_eq_forM, List.forM_cons]
      exact Cache.exec_bind_error (hcheck "put" _)
  | registerLoader l => exact Cache.exec_bind_error (hcheck _ _)
  | registerListener l => exact Cache.exec_bind_error (hcheck _ _)
  | replaceListeners ls => exact Cache.exec_bind_error (hcheck _ _)
  | put k v => exact Cache.exec_bind_error (hcheck _ _)
  | removeAll => exact Cache.exec_bind_error (hcheck _ _)
  | get k a =>
    rw [run, Cache.exec_map, Cache.get, hcheck]
    rfl
  | getAll ks a =>
    rw [run, Cache.exec_map, Cache.getAll, hcheck]
    rfl
  | remove k =>
    rw [run, Cache.exec_map, Cache.remove, hcheck]
    rfl
  | containsKey k =>
    rw [run, Cache.exec_map, Cache.containsKey, hcheck]
    rfl

/-- The status a call leaves is its `nextStatus`, whatever the call answers. -/
theorem status_step (call : CacheCall L E) (c : Cache L E H S) (w : W) :
    (step call c w).cache'.status = call.nextStatus c.status := by
  have hb : Cache.Blind (Cache.status : Cache L E H S → Status) :=
    ⟨fun _ _ => rfl, fun _ _ => rfl, fun _ _ => rfl⟩
  have hdone : ∀ x : CacheM L E H S W Unit, Cache.Fixes Cache.status x →
      Cache.Fixes Cache.status (do x; pure CacheReply.done) := fun _ hx =>
    hx.bind fun _ => Cache.fixes_pure _
  cases call with
  | initialise =>
    show (Cache.exec (Cache.initialise >>= fun _ => pure CacheReply.done) c w).1.2.status = _
    by_cases hs : c.status = .uninitialized
    · rw [Cache.exec_bind]
      rcases h : Cache.exec (Cache.initialise : CacheM L E H S W Unit) c w with ⟨⟨r, c'⟩, w'⟩
      have hst := (Cache.exec_initialise hs w).1
      rw [h] at hst
      simp only [nextStatus, hs, if_true]
      cases r <;> exact hst
    · rw [Cache.exec_bind_error (exec_initialise_refused hs w)]
      simp only [nextStatus, hs, if_false]
  | dispose =>
    show (Cache.exec (Cache.dispose >>= fun _ => pure CacheReply.done) c w).1.2.status = _
    obtain ⟨hr, hst⟩ := Cache.dispose_status (L := L) (E := E) (H := H) (S := S) c w
    rcases h : Cache.exec (Cache.dispose : CacheM L E H S W Unit) c w with ⟨⟨r, c'⟩, w'⟩
    rw [h] at hr hst
    cases hr
    rw [Cache.exec_bind_ok h]
    exact hst
  | registerLoader l => exact hdone _ (Cache.fixes_registerLoader hb l) c w
  | attachDeclaredLoader t => exact hdone _ (Cache.fixes_attachDeclaredLoader hb t) c w
  | registerListener l => exact hdone _ (Cache.fixes_registerListener hb l) c w
  | replaceListeners ls => exact hdone _ (Cache.fixes_replaceListeners hb ls) c w
  | get k a => exact (Cache.fixes_get hb k a).map _ c w
  | getAll ks a => exact (Cache.fixes_getAll hb ks a).map _ c w
  | put k v => exact hdone _ (Cache.fixes_put hb k v) c w
  | putAll es => exact hdone _ (Cache.fixes_putAll hb es) c w
  | remove k => exact (Cache.fixes_remove hb k).map _ c w
  | removeAll => exact hdone _ (Cache.fixes_removeAll hb) c w
  | containsKey k => exact (Cache.fixes_containsKey k).map _ c w

end CacheCall

/-! ## A store that a clear empties -/

section
variable {S W : Type} [Storage S W]

/-- What disposal asks of a store, with `empty` saying which stores hold nothing: a clear leaves
the store empty, taking the removals an empty store noticed keeps it so, and an empty store
counts no entry, whatever the world. -/
structure ClearLaws (empty : S → Prop) : Prop where
  /-- A clear leaves the store empty. -/
  clear : ∀ s w, empty (((Storage.removeAll (S := S) (W := W)).run s).run w).1.2
  /-- Taking the removals an empty store noticed leaves it empty. -/
  take : ∀ s w, empty s → empty (((Storage.takeRemovals (S := S) (W := W)).run s).run w).1.2
  /-- An empty store counts no entry. -/
  size : ∀ s w, empty s → (((Storage.size (S := S) (W := W)).run s).run w).1.1 = 0

end

/-- A cleared engine is idle, and stays so when its removals are taken; an idle engine counts no
entry. -/
theorem Engine.clearLaws {W : Type} : ClearLaws (W := W) Engine.Idle where
  clear e _ := by
    show Engine.Idle e.clear
    exact Engine.idle_clear e e.clear.removals
  take e _ h := ⟨h.held, h.reads, h.writes⟩
  size e _ h := by
    show e.settle.held.length = 0
    rw [h.settle_held]
    rfl

/-! ## Disposing a cache -/

namespace Cache

variable {L E H S W : Type} [Storage S W] [Named L] [KeyedLoader L W] [Listener E W] [Handler H W]
  [Journal W] {empty : S → Prop}

/-- Disposing an operable cache drops its loader and listeners, clears its store, and leaves
it disposed. -/
theorem dispose_clears (laws : ClearLaws (W := W) empty) (c : Cache L E H S)
    (hc : c.status.isOperable = true) (w : W) :
    ∃ s w', exec (dispose : CacheM L E H S W Unit) c w =
      ((.ok (), { c with status := .disposed, binding := none, listeners := [], store := s }), w') ∧
      empty s := by
  unfold dispose disposeWith
  rw [exec_bind, exec_current]
  dsimp -zeta only
  rw [if_pos hc, exec_bind, exec_modify]
  dsimp -zeta only
  -- what follows the loader's disposal, and what follows the store's release
  extract_lets finish release
  have hrelease : ∀ w₁, ∃ s w', exec (release ()) { c with status := .disposing, binding := none } w₁ =
      ((.ok (), { c with status := .disposed, binding := none, listeners := [], store := s }), w') ∧
      empty s := fun w₁ => by
    rw [exec_bind, exec_modify]
    dsimp only
    rw [releaseListener_noCalls]
    obtain ⟨u, w₂, hl⟩ := exec_of_fixes_succeeds
      (fixes_forM (fun l => monadLift (Listener.dispose (W := W) l)) (fun _ => fixes_lift _)
        c.listeners)
      (succeeds_forM _ (fun _ => succeeds_lift _) c.listeners)
      { c with status := .disposing, binding := none, listeners := [] } w₁
    rw [exec_bind, hl]
    dsimp only
    -- the store's release is a clear, which leaves it empty once its removals are taken
    rcases hclear : ((Storage.removeAll (S := S) (W := W)).run c.store).run w₂ with ⟨⟨r, s₁⟩, w₃⟩
    rcases htake : ((Storage.takeRemovals (S := S) (W := W)).run s₁).run w₃ with ⟨⟨rs, s₂⟩, w₄⟩
    have hs₁ : empty s₁ := by simpa [hclear] using laws.clear c.store w₂
    have hs₂ : empty s₂ := by simpa [htake] using laws.take s₁ w₃ hs₁
    obtain ⟨w₅, hs⟩ := exec_onStore_taken (L := L) (E := E) (H := H)
      (c := { c with status := .disposing, binding := none, listeners := [] }) (w := w₂)
      (Storage.removeAll (S := S) (W := W)) hclear htake
    rw [exec_bind, hs]
    -- a clear that fails is only logged
    rcases r with e | ⟨⟩
    · dsimp only
      rw [exec_bind, log, exec_lift]
      dsimp only
      rw [exec_bind, exec_modify]
      exact ⟨s₂, _, rfl, hs₂⟩
    · dsimp only
      rw [exec_bind, exec_modify]
      exact ⟨s₂, _, rfl, hs₂⟩
  cases c.binding with
  | some b =>
    rw [exec_bind, release_noCalls, exec_discard, onDetached, exec_lift]
    exact hrelease _
  | none => exact hrelease w

omit [Named L] [KeyedLoader L W] in
/-- A cache whose store is empty has no entry, and counting them cannot fail. -/
theorem len_empty (laws : ClearLaws (W := W) empty) (c : Cache L E H S) (h : empty c.store)
    (w : W) : (exec (len : CacheM L E H S W Nat) c w).1.1 = .ok 0 := by
  rcases hsize : ((Storage.size (S := S) (W := W)).run c.store).run w with ⟨⟨n, s⟩, w₁⟩
  rcases htake : ((Storage.takeRemovals (S := S) (W := W)).run s).run w₁ with ⟨⟨rs, s'⟩, w₂⟩
  obtain ⟨w', hw⟩ := exec_onStore_taken (c := c) (Storage.size (S := S) (W := W)) hsize htake
  have hn : n = 0 := by simpa [hsize] using laws.size c.store w h
  rw [len, hw, hn]

end Cache

/-! ## Runs over a store that a clear empties -/

namespace CacheCall

variable {L E H S W : Type} [Storage S W] [Named L] [KeyedLoader L W] [Named E] [Listener E W]
  [Handler H W] [Journal W] {empty : S → Prop}

/-- What holds of the cache between calls: it is not being disposed, and once disposed its
store is empty. -/
structure Settled (empty : S → Prop) (c : Cache L E H S) : Prop where
  not_disposing : c.status ≠ .disposing
  cleared : c.status = .disposed → empty c.store

/-- A call on a settled cache leaves it settled. -/
theorem settled_step (laws : ClearLaws (W := W) empty) (call : CacheCall L E)
    {c : Cache L E H S} (w : W) (hc : Settled empty c) : Settled empty (step call c w).cache' := by
  cases ho : c.status.isOperable
  · -- a disposed cache is left as it was
    rw [show (step call c w).cache' = c from congrArg (·.1.2) (exec_inoperable call ho w)]
    exact hc
  by_cases hd : call = .dispose
  · subst hd
    obtain ⟨s, w', h, hs⟩ := Cache.dispose_clears laws c ho w
    show Settled empty (Cache.exec (Cache.dispose >>= fun _ => pure CacheReply.done) c w).1.2
    rw [Cache.exec_bind_ok h]
    exact ⟨by simp, fun _ => hs⟩
  -- any other call keeps an operable cache operable
  have hop := nextStatus_isOperable ho hd
  rw [← status_step call c w] at hop
  refine ⟨fun h => ?_, fun h => ?_⟩ <;> simp [h, Status.isOperable] at hop

/-- From a cache that is disposing or disposed, every call of a run meets that cache and world
and is inert. -/
theorem steps_inoperable : ∀ (calls : List (CacheCall L E)) {c : Cache L E H S} (w : W),
    c.status.isOperable = false → ∀ s ∈ steps calls c w,
      s.cache = c ∧ s.world = w ∧ s.Inert (s.call.refusedAnswer c)
  | [], _, _, _, _, h => by cases h
  | call :: rest, c, w, hc, s, h => by
    have hx := exec_inoperable call hc w
    rcases List.mem_cons.1 h with h | h
    · subst h
      exact ⟨rfl, rfl, inert_of_exec hx⟩
    · have hs : step call c w = ⟨call, c, w, call.refusedAnswer c, c, w⟩ := by
        rw [step, hx]
      rw [hs] at h
      exact steps_inoperable rest w hc s h

/-- What a run of calls shows of the cache's life. -/
structure Lifecycle (ss : List (CacheStep L E H S W)) : Prop where
  /-- Only `initialise` and `dispose` move the status, and only forward; no call leaves the
  cache disposing. -/
  forward : ∀ s ∈ ss, s.cache'.status = s.call.nextStatus s.cache.status ∧
    s.cache.status.stage ≤ s.cache'.status.stage ∧ s.cache'.status ≠ .disposing
  /-- `initialise` on a cache that is not uninitialised is refused. -/
  initialise_refused : ∀ s ∈ ss, s.call = .initialise → s.cache.status ≠ .uninitialized →
    s.Inert (.error (.illegalState s.cache.name ("cannot move to alive while " ++ s.cache.status.text)))
  /-- After an `initialise`, every later one is refused. -/
  initialised : ∀ pre s post, ss = pre ++ s :: post → s.call = .initialise →
    ∀ t ∈ post, t.cache.status ≠ .uninitialized ∧ (t.call = .initialise →
      t.Inert (.error (.illegalState t.cache.name ("cannot move to alive while " ++ t.cache.status.text))))
  /-- After a `dispose`, the cache is disposed and its store holds nothing; every later call
  meets that cache and is refused, or let through, without touching the cache or the world. -/
  disposed : ∀ pre s post, ss = pre ++ s :: post → s.call = .dispose →
    s.cache'.status = .disposed ∧ (∀ w : W, (Cache.exec Cache.len s.cache' w).1.1 = .ok 0) ∧
      ∀ t ∈ post, t.cache = s.cache' ∧ t.Inert (t.call.refusedAnswer t.cache)

/-- Every run of calls from an uninitialised or alive cache, over a store that a clear empties,
has the cache's life: its status moves forward, it is initialised at most once, and disposal is
final. -/
theorem steps_lifecycle (laws : ClearLaws (W := W) empty) (calls : List (CacheCall L E))
    (c : Cache L E H S) (w : W) (hc : c.status.isOperable = true) :
    Lifecycle (steps calls c w) := by
  have hsettled : Settled empty c :=
    ⟨fun h => by simp [h, Status.isOperable] at hc, fun h => by simp [h, Status.isOperable] at hc⟩
  have hinv := steps_invariant (fun call _ w hc => settled_step laws call w hc) calls c w hsettled
  -- a call of the run is the call made on the cache and world it met
  have hstep : ∀ s ∈ steps calls c w, s.cache'.status = s.call.nextStatus s.cache.status :=
    fun s hs => by rw [eq_step_of_mem_steps hs]; exact status_step _ _ _
  refine ⟨fun s hs => ?_, fun s hs hi hu => ?_, fun pre s post hsplit hi t ht => ?_,
    fun pre s post hsplit hd => ?_⟩
  · rw [hstep s hs]
    exact ⟨rfl, stage_le_nextStatus _ _,
      nextStatus_ne_disposing _ (hinv s hs).1.not_disposing⟩
  · refine inert_of_mem hs ?_
    rw [hi]
    exact Cache.exec_bind_error (exec_initialise_refused hu s.world)
  · obtain ⟨rest, hpost⟩ := steps_suffix hsplit
    have hs : s ∈ steps calls c w := by simp [hsplit]
    -- after an initialise the status is never uninitialised again
    have hs' : s.cache'.status ≠ .uninitialized := by
      rw [hstep s hs, hi]
      simp only [nextStatus]
      split <;> simp_all
    have hu := (steps_invariant (I := fun c => c.status ≠ .uninitialized)
      (fun call c w h => by rw [status_step]; exact nextStatus_ne_uninitialized call h)
      rest _ _ hs' t (hpost ▸ ht)).1
    have ht' : t ∈ steps calls c w := by simp [hsplit, ht]
    refine ⟨hu, fun hti => inert_of_mem ht' ?_⟩
    rw [hti]
    exact Cache.exec_bind_error (exec_initialise_refused hu t.world)
  · obtain ⟨rest, hpost⟩ := steps_suffix hsplit
    have hs : s ∈ steps calls c w := by simp [hsplit]
    have hset := hinv s hs
    -- the dispose leaves the cache disposed: it was operable, or disposed already
    have hdisp : s.cache'.status = .disposed := by
      rw [hstep s hs, hd]
      have := hset.1.not_disposing
      cases h : s.cache.status <;> simp_all [nextStatus, Status.isOperable]
    have hop : s.cache'.status.isOperable = false := by
      rw [hdisp]
      rfl
    refine ⟨hdisp, fun w' => Cache.len_empty laws _ (hset.2.cleared hdisp) w', fun t ht => ?_⟩
    obtain ⟨htc, -, hinert⟩ := steps_inoperable rest s.world' hop t (hpost ▸ ht)
    rw [htc]
    exact ⟨rfl, hinert⟩

/-- A fresh cache of the bench over the engine, with a listener that writes what it is told. -/
def benchFresh : Cache BenchLoader BenchListener BenchHandler Engine where
  settings := Settings.named "c"
  store := { name := "c", capacity := 10, idle := none, live := none }
  listeners := [.logging "a" []]
  handler := .recording

theorem steps_lifecycle_bench : ClearLaws (W := World) Engine.Idle ∧
    benchFresh.status.isOperable = true ∧
    Lifecycle (steps [.initialise, .put "k" "1", .dispose, .get "k" none, .dispose, .initialise]
      benchFresh ({} : World)) :=
  ⟨Engine.clearLaws, rfl, steps_lifecycle Engine.clearLaws _ benchFresh ({} : World) rfl⟩

end CacheCall

end NamedCaches
