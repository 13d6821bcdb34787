import NamedCaches.Proofs.Watch.Arrivals
import NamedCaches.Proofs.Watch.Runs
import NamedCaches.Proofs.Watch.Lifecycle
import NamedCaches.Proofs.Cache.Disposal
import NamedCaches.Request.Session
set_option autoImplicit false
/-!
# Isolated failures

A data operation of a cache hands every recoverable failure of a step it makes (a store call, a
load, a notification) to the cache's handler, with the cache's settings and the key the step was
about, and goes on as if the step had produced nothing; a failure that is not recoverable is the
operation's own.

Over a watched world this is an accounting. `Accounts m obs note x credit debt` says that over
every run of `x`, a part `m` of a data operation, the handler receives, in order, the `credit`
owed from before and then what the run's calls owe as it falls due (`Sighting.arrivals`), less the
`debt` the run's answer still carries (a step's result that the operation has not yet isolated).
It also says that an observation `obs` of the world that only the handler adds to (`Records`)
grows by `note` of each report, in order: the log of a recording handler is one.

The accounting has one exception, in `relayRemovals`: a listener that fails, not recoverably, on
an entry the store dropped on its own ends that entry's round, and its failure is only logged.
`exec_remove_swallowed` and `remove_hides_listener_failure` show a removal that answers as if
nothing had failed.
-/

namespace NamedCaches

open Sighting

/-- Two runs one after the other: what the second pays of the first's debt drops out. -/
theorem settle_debt {γ : Type} {r₁ r₂ d₁ d₂ c o₁ o₂ : List γ} (h₁ : r₁ ++ d₁ = c ++ o₁)
    (h₂ : r₂ ++ d₂ = d₁ ++ o₂) : r₁ ++ r₂ ++ d₂ = c ++ (o₁ ++ o₂) := by
  rw [List.append_assoc, h₂, ← List.append_assoc, h₁, List.append_assoc]

/-- The record a recording handler keeps of a failure of the cache with settings `s`. -/
def HandledFailure.of (s : Settings) (key : Option String) (f : Failure) : HandledFailure :=
  ⟨s.name, s.manager, key, f⟩

namespace Cache

variable {L E H S W α β γ : Type}

/-- An action of the watched world that leaves an observation of the world being watched alone. -/
def Leaves (obs : W → List γ) (act : StateM (Watched W) α) : Prop :=
  ∀ w, obs (act.run w).2.base = obs w.base

/-- An observation of the world that only the handler adds to, `note` of each failure it
receives: no log line, load, notification or store call changes it. -/
structure Records (L E H S : Type) [KeyedLoader L W] [Listener E W] [Handler H W] [Storage S W]
    [Journal W] (obs : W → List γ) (note : Settings × Option String × Failure → List γ) : Prop where
  handled : ∀ (h : H) st key f w,
    obs ((Handler.onFailure h st key f).run w).2 = obs w ++ note (st, key, f)
  logged : ∀ line w, obs (Journal.write line w) = obs w
  notified : ∀ (l : E) cache ev w, obs ((Listener.notify l cache ev).run w).2 = obs w
  loaded : ∀ (l : L) key arg w, obs (((dispatch (W := W) key arg).run l).run w).2 = obs w
  loadedAll : ∀ (l : L) keys arg w, obs (((dispatchAll (W := W) keys arg).run l).run w).2 = obs w
  got : ∀ (st : S) key w, obs (((Storage.get (W := W) key).run st).run w).2 = obs w
  put : ∀ (st : S) key value w, obs (((Storage.put (W := W) key value).run st).run w).2 = obs w
  removed : ∀ (st : S) key w, obs (((Storage.remove (W := W) key).run st).run w).2 = obs w
  cleared : ∀ (st : S) w, obs (((Storage.removeAll (S := S) (W := W)).run st).run w).2 = obs w
  drained : ∀ (st : S) w,
    obs (((Storage.takeRemovals (S := S) (W := W)).run st).run w).2 = obs w

/-- The observation that sees nothing. -/
theorem records_nothing [KeyedLoader L W] [Listener E W] [Handler H W] [Storage S W] [Journal W] :
    Records L E H S (fun _ : W => ([] : List Unit)) fun _ => [] :=
  ⟨fun _ _ _ _ _ => rfl, fun _ _ => rfl, fun _ _ _ _ => rfl, fun _ _ _ _ => rfl,
    fun _ _ _ _ => rfl, fun _ _ _ => rfl, fun _ _ _ _ => rfl, fun _ _ _ => rfl, fun _ _ => rfl,
    fun _ _ => rfl⟩

/-- What a run from cache `c` and world `w` to `r` kept of the books, as a part `m` of a data
operation that owed `credit` from before and leaves `debt` of its answer to what follows: it
added `seg`, which fits `m`, to the log and `note` of each of its reports to `obs`, kept the
cache's settings, and reported what was owed in the order it fell due. -/
structure Balanced (m : Mode) (obs : W → List γ) (note : Settings × Option String × Failure → List γ)
    (credit : List (Option String × Failure)) (debt : α → List (Option String × Failure))
    (c : Cache L E H S) (w : Watched W) (r : (Except Failure α × Cache L E H S) × Watched W)
    (seg : List Sighting) : Prop where
  seen : r.2.seen = w.seen ++ seg
  fits : m.Fits seg
  settings : r.1.2.settings = c.settings
  observed : obs r.2.base = obs w.base ++ (reports seg).flatMap note
  paid : ∀ a, r.1.1 = .ok a →
    reports seg ++ stamp c.settings (debt a) = stamp c.settings (credit ++ arrivals [] seg)
  failed : ∀ e, r.1.1 = .error e →
    e.isRecoverable = false ∧ reports seg = stamp c.settings (credit ++ arrivals [] seg)

/-- The books of every run of `x`. -/
def Accounts (m : Mode) (obs : W → List γ) (note : Settings × Option String × Failure → List γ)
    (x : CacheM L E H S (Watched W) α) (credit : List (Option String × Failure))
    (debt : α → List (Option String × Failure)) : Prop :=
  ∀ c w, ∃ seg, Balanced m obs note credit debt c w (exec x c w) seg

/-! ## Putting operations together -/

section
variable {m : Mode} {obs : W → List γ} {note : Settings × Option String × Failure → List γ}
  {x : CacheM L E H S (Watched W) α} {cr : List (Option String × Failure)}
  {d : α → List (Option String × Failure)}

/-- A run that sees nothing and leaves `obs` and the settings alone: its answer carries what was
owed, and a failure of it owes nothing. -/
theorem balanced_quiet {c : Cache L E H S} {w : Watched W}
    {r : (Except Failure α × Cache L E H S) × Watched W} (hw : r.2.seen = w.seen)
    (ho : obs r.2.base = obs w.base) (hs : r.1.2.settings = c.settings)
    (hok : ∀ a, r.1.1 = .ok a → d a = cr)
    (herr : ∀ e, r.1.1 = .error e → e.isRecoverable = false ∧ cr = []) :
    Balanced m obs note cr d c w r [] where
  seen := by rw [hw, List.append_nil]
  fits := m.fits_nil
  settings := hs
  observed := by simp [ho]
  paid a ha := by simp [hok a ha]
  failed e he := by simp [(herr e he).1, (herr e he).2]

/-- A run, then another that starts where the first stopped and is owed `mid`, what the first
left owing: together they keep the books from the first's start. -/
theorem Balanced.then {c c' : Cache L E H S} {w w' : Watched W} {r₀ : Except Failure α}
    {r : (Except Failure β × Cache L E H S) × Watched W} {seg seg' : List Sighting}
    {mid : List (Option String × Failure)} {d' : β → List (Option String × Failure)}
    (h₁ : Balanced m obs note cr d c w ((r₀, c'), w') seg)
    (hmid : reports seg ++ stamp c.settings mid = stamp c.settings (cr ++ arrivals [] seg))
    (h₂ : Balanced m obs note mid d' c' w' r seg') :
    Balanced m obs note cr d' c w r (seg ++ seg') := by
  obtain ⟨hw, hfits, hs, ho, -, -⟩ := h₁
  obtain ⟨hw', hfits', hs', ho', hok', herr'⟩ := h₂
  dsimp only at hw hs ho
  rw [hs] at hok' herr'
  have hmid' : reports seg ++ stamp c.settings mid =
      stamp c.settings cr ++ stamp c.settings (arrivals [] seg) := by simpa using hmid
  refine ⟨by rw [hw', hw, List.append_assoc], hfits.append hfits', hs'.trans hs,
    by rw [ho', ho, reports_append, List.flatMap_append, List.append_assoc], fun b hb => ?_,
    fun e he => ?_⟩
  · have h₂ : reports seg' ++ stamp c.settings (d' b) =
        stamp c.settings mid ++ stamp c.settings (arrivals [] seg') := by simpa using hok' b hb
    simpa [Mode.arrivals_append hfits hfits'] using settle_debt hmid' h₂
  · obtain ⟨hrec, h₂⟩ := herr' e he
    have h₂' : reports seg' ++ [] = stamp c.settings mid ++ stamp c.settings (arrivals [] seg') := by
      simpa using h₂
    exact ⟨hrec, by simpa [Mode.arrivals_append hfits hfits'] using settle_debt hmid' h₂'⟩

theorem Accounts.bind {f : α → CacheM L E H S (Watched W) β}
    {d' : β → List (Option String × Failure)} (hx : Accounts m obs note x cr d)
    (hf : ∀ a, Accounts m obs note (f a) (d a) d') : Accounts m obs note (x >>= f) cr d' := by
  intro c w
  obtain ⟨seg, h₁⟩ := hx c w
  rw [exec_bind]
  rcases h : exec x c w with ⟨⟨r, c'⟩, w'⟩
  rw [h] at h₁
  cases r with
  | error e =>
    exact ⟨seg, h₁.seen, h₁.fits, h₁.settings, h₁.observed, fun _ hb => (by cases hb),
      fun _ he => by cases he; exact h₁.failed e rfl⟩
  | ok a =>
    -- what the first run leaves owing is what the rest is owed
    obtain ⟨seg', h₂⟩ := hf a c' w'
    exact ⟨seg ++ seg', h₁.then (h₁.paid a rfl) h₂⟩

theorem accounts_pure (a : α) (d : α → List (Option String × Failure)) :
    Accounts m obs note (pure a : CacheM L E H S (Watched W) α) (d a) d :=
  fun _ _ => ⟨[], balanced_quiet rfl rfl rfl (fun _ h => by cases h; rfl) fun _ h => by cases h⟩

theorem accounts_throw {e : Failure} (he : e.isRecoverable = false) :
    Accounts m obs note (throw e : CacheM L E H S (Watched W) α) [] d :=
  fun _ _ => ⟨[], balanced_quiet rfl rfl rfl (fun _ h => by cases h) fun _ h => by
    cases h
    exact ⟨he, rfl⟩⟩

theorem accounts_current :
    Accounts m obs note (current : CacheM L E H S (Watched W) _) cr fun _ => cr :=
  fun _ _ => ⟨[], balanced_quiet rfl rfl rfl (fun _ _ => rfl) fun _ h => by cases h⟩

theorem accounts_modify {g : Cache L E H S → Cache L E H S} (hg : ∀ c, (g c).settings = c.settings) :
    Accounts m obs note (modify g : CacheM L E H S (Watched W) Unit) cr fun _ => cr :=
  fun c _ => ⟨[], balanced_quiet rfl rfl (hg c) (fun _ _ => rfl) fun _ h => by cases h⟩

theorem accounts_lift {act : StateM (Watched W) α} (hq : Watched.Quiet act) (hk : Leaves obs act) :
    Accounts m obs note (monadLift act : CacheM L E H S (Watched W) α) cr fun _ => cr := by
  intro c w
  obtain ⟨b, hb⟩ := hq w
  exact ⟨[], balanced_quiet (by rw [exec_lift, hb]; simp) (hk w) rfl (fun _ _ => rfl)
    fun _ h => by cases h⟩

theorem Accounts.discard {dd : List (Option String × Failure)}
    (hx : Accounts m obs note x cr fun _ => dd) :
    Accounts m obs note (Functor.discard x) cr fun _ => dd := by
  rw [show (Functor.discard x : CacheM L E H S (Watched W) Unit) = x >>= fun _ => pure () from
    (bind_pure_comp _ x).symm]
  exact hx.bind fun _ => accounts_pure () fun _ => dd

theorem Accounts.map {dd : List (Option String × Failure)} (g : α → β)
    (hx : Accounts m obs note x cr fun _ => dd) : Accounts m obs note (g <$> x) cr fun _ => dd := by
  rw [← bind_pure_comp]
  exact hx.bind fun a => accounts_pure (g a) fun _ => dd

theorem Accounts.tryCatch {g : Failure → CacheM L E H S (Watched W) α}
    (hx : Accounts m obs note x cr d) (hg : ∀ e, Accounts m obs note (g e) [] d) :
    Accounts m obs note (MonadExcept.tryCatch x g) cr d := by
  intro c w
  obtain ⟨seg, h₁⟩ := hx c w
  rw [exec_tryCatch]
  rcases h : exec x c w with ⟨⟨r, c'⟩, w'⟩
  rw [h] at h₁
  cases r with
  | ok a => exact ⟨seg, h₁⟩
  | error e =>
    -- the handler of the failure starts from what the failed run settled, owing nothing
    obtain ⟨seg', h₂⟩ := hg e c' w'
    exact ⟨seg ++ seg', h₁.then (by simpa using (h₁.failed e rfl).2) h₂⟩

end

section
variable {m : Mode} {obs : W → List γ} {note : Settings × Option String × Failure → List γ}

theorem accounts_forM {δ : Type} (g : δ → CacheM L E H S (Watched W) PUnit)
    (hg : ∀ a, Accounts m obs note (g a) [] fun _ => []) :
    ∀ l : List δ, Accounts m obs note (l.forM g) [] fun _ => []
  | [] => accounts_pure _ fun _ => []
  | a :: l => by
    rw [List.forM_eq_forM, List.forM_cons]
    exact (hg a).bind fun _ => accounts_forM g hg l

theorem accounts_foldlM {δ ε : Type} (g : ε → δ → CacheM L E H S (Watched W) ε)
    (hg : ∀ a b, Accounts m obs note (g a b) [] fun _ => []) :
    ∀ (l : List δ) (init : ε), Accounts m obs note (l.foldlM g init) [] fun _ => []
  | [], _ => accounts_pure _ fun _ => []
  | b :: l, init => by
    rw [List.foldlM_cons]
    exact (hg init b).bind fun a => accounts_foldlM g hg l a

theorem accounts_orFail {r : Except Failure α} (hr : ∀ e, r = .error e → e.isRecoverable = false) :
    Accounts m obs note (orFail r : CacheM L E H S (Watched W) α) [] fun _ => [] := by
  cases r with
  | ok a => exact accounts_pure a fun _ => []
  | error e => exact accounts_throw (hr e rfl)

/-- A refused operation fails with an `illegalState`, which is not recoverable. -/
theorem accounts_checkOperable (op : String) :
    Accounts m obs note (checkOperable op : CacheM L E H S (Watched W) Unit) [] fun _ => [] := by
  unfold checkOperable
  refine accounts_current.bind fun c => accounts_orFail fun e he => ?_
  unfold Status.checkOperable at he
  split at he
  · cases he
  · cases he
    rfl

theorem accounts_log [Journal W] (hj : ∀ line w, obs (Journal.write line w) = obs w)
    (level : Level) (target message : String) :
    Accounts m obs note (log level target message : CacheM L E H S (Watched W) Unit) [] fun _ => [] :=
  accounts_lift (Watched.quiet_logLine level target message) fun w => hj _ w.base

/-- One call of a watched collaborator: every run adds one sighting, which arrives as `k` and owes
`due` of what the call answers. -/
def OneCall (k : Arrival) (act : StateM (Watched W) α) (due : α → List (Option String × Failure)) :
    Prop :=
  ∀ w, ∃ s, (act.run w).2.seen = w.seen ++ [s] ∧ s.arrival = k ∧ s.owed = due (act.run w).1

theorem accounts_call {k : Arrival} {act : StateM (Watched W) α}
    {due : α → List (Option String × Failure)} (hm : m.calls k = true) (h : OneCall k act due)
    (hk : Leaves obs act) :
    Accounts m obs note (monadLift act : CacheM L E H S (Watched W) α) [] due := by
  intro c w
  obtain ⟨s, hw, hs, ho⟩ := h w
  have hr : reports [s] = [] := reports_cons_call (by rw [hs]; exact Mode.arrival_ne_report hm) []
  refine ⟨[s], hw, Mode.fits_call (by rw [hs]; exact hm), rfl, ?_, fun a ha => ?_,
    fun _ he => (by cases he)⟩
  · simp [hr, hk w]
  · cases ha
    rw [hr, List.nil_append, List.nil_append, arrivals_singleton, ho]
    rfl

/-- A failure handed to the handler pays the first of what is owed. -/
theorem accounts_report [Handler H W]
    (hh : ∀ (h : H) st key f w, obs ((Handler.onFailure h st key f).run w).2 = obs w ++ note (st, key, f))
    (key : Option String) (f : Failure) (more : List (Option String × Failure)) :
    Accounts m obs note (report key f : CacheM L E H S (Watched W) Unit) ((key, f) :: more)
      fun _ => more := by
  intro c w
  refine ⟨[.handled c.settings key f], rfl, m.fits_report _ _ _, rfl,
    (hh c.handler c.settings key f w.base).trans (by simp [reports, report?]), fun _ _ => ?_,
    fun _ he => (by cases he)⟩
  simp [reports, report?, stamp, arrivals]

variable [Handler H W]
  (hh : ∀ (h : H) st key f w, obs ((Handler.onFailure h st key f).run w).2 = obs w ++ note (st, key, f))
include hh

/-- A failed step, isolated: a recoverable failure is reported and the step gives nothing; any
other fails the operation. -/
theorem accounts_isolate_error (key : Option String) (f : Failure)
    (d : Option α → List (Option String × Failure)) (hd : d none = []) :
    Accounts m obs note (isolate key (.error f) : CacheM L E H S (Watched W) (Option α)) (due key f) d := by
  unfold isolate
  dsimp only
  split
  · rename_i hf
    rw [show due key f = [(key, f)] by simp [due, hf]]
    exact (accounts_report hh key f []).bind fun _ => by
      rw [← hd]
      exact accounts_pure none d
  · rename_i hf
    rw [show due key f = [] by simp [due, hf]]
    exact accounts_throw (by simpa using hf)

theorem accounts_isolate (key : Option String) (r : Except Failure α) :
    Accounts m obs note (isolate key r : CacheM L E H S (Watched W) (Option α)) (owedOf key r)
      fun _ => [] := by
  cases r with
  | ok a => exact accounts_pure (some a) fun _ => []
  | error f => exact accounts_isolate_error hh key f _ rfl

/-- A batch load's answer, isolated: a failure of the whole batch is settled at once, and the
batch's own failures are left to what follows. -/
theorem accounts_isolate_batch (r : Except Failure Batch) :
    Accounts m obs note (isolate none r : CacheM L E H S (Watched W) (Option Batch)) (loadAllDue r)
      fun o => o.elim [] fun b => batchDue b.failures := by
  cases r with
  | ok b => exact accounts_pure (some b) fun o => o.elim [] fun b => batchDue b.failures
  | error f => exact accounts_isolate_error hh none f _ rfl

/-- The failures of a batch, each reported in order until the first that is not recoverable,
which fails the operation. -/
theorem accounts_reportBatch (g : String × Failure → CacheM L E H S (Watched W) PUnit)
    (hg : ∀ p, g p = if p.2.isRecoverable then report (some p.1) p.2 else throw p.2) :
    ∀ fs : List (String × Failure), Accounts m obs note (fs.forM g) (batchDue fs) fun _ => []
  | [] => accounts_pure _ fun _ => []
  | (k, f) :: rest => by
    rw [List.forM_eq_forM, List.forM_cons, hg]
    dsimp only
    by_cases hf : f.isRecoverable = true
    · rw [if_pos hf, show batchDue ((k, f) :: rest) = (some k, f) :: batchDue rest by
        simp [batchDue, hf], ← List.forM_eq_forM]
      exact (accounts_report hh (some k) f _).bind fun _ => accounts_reportBatch g hg rest
    · rw [if_neg hf, show batchDue ((k, f) :: rest) = [] by simp [batchDue, hf],
        ← List.forM_eq_forM]
      exact (accounts_throw (by simpa using hf)).bind fun _ => accounts_reportBatch g hg rest

end

/-! ## Watched calls -/

section
variable {obs : W → List γ}

theorem oneCall_answer {σ β : Type} (act : StateT σ (StateM W) β) (mk : Nat → β → Sighting)
    {k : Arrival} {due : β → List (Option String × Failure)}
    (hmk : ∀ t b, (mk t b).arrival = k ∧ (mk t b).owed = due b) (t : Tagged σ) :
    OneCall k ((Tagged.answer act mk).run t) fun p => due p.1 := by
  intro w
  rcases h : (act.run t.val).run w.base with ⟨⟨b, v⟩, base⟩
  rw [Tagged.answer_of act mk h]
  exact ⟨mk t.tag b, rfl, (hmk _ _).1, (hmk _ _).2⟩

theorem leaves_answer {σ β : Type} (act : StateT σ (StateM W) β) (mk : Nat → β → Sighting)
    (hk : ∀ v w, obs ((act.run v).run w).2 = obs w) (t : Tagged σ) :
    Leaves obs ((Tagged.answer act mk).run t) := by
  intro w
  rcases h : (act.run t.val).run w.base with ⟨⟨b, v⟩, base⟩
  have hb := hk t.val w.base
  rw [h] at hb
  rw [Tagged.answer_of act mk h]
  exact hb

theorem oneCall_notify [Listener E W] (l : Tagged E) (name : String) (ev : Event) :
    OneCall (if ev.dropped then .relayed else .call) (Listener.notify (W := Watched W) l name ev)
      (owedOf ev.key?) := fun w =>
  ⟨.listener l.tag (.notify name ev ((Listener.notify l.val name ev).run w.base).1), rfl, rfl, rfl⟩

theorem leaves_notify [Listener E W]
    (hn : ∀ (l : E) cache ev w, obs ((Listener.notify l cache ev).run w).2 = obs w)
    (l : Tagged E) (name : String) (ev : Event) :
    Leaves obs (Listener.notify (W := Watched W) l name ev) :=
  fun w => hn l.val name ev w.base

theorem quiet_takeRemovals [Storage S W] (st : Tagged S) :
    Watched.Quiet ((Storage.takeRemovals (S := Tagged S) (W := Watched W)).run st) :=
  fun w => ⟨(((Storage.takeRemovals (S := S) (W := W)).run st.val).run w.base).2,
    by simp [Watched.after]; rfl⟩

theorem leaves_takeRemovals [Storage S W]
    (hd : ∀ (st : S) w, obs (((Storage.takeRemovals (S := S) (W := W)).run st).run w).2 = obs w)
    (st : Tagged S) : Leaves obs ((Storage.takeRemovals (S := Tagged S) (W := Watched W)).run st) :=
  fun w => hd st.val w.base

theorem oneCall_onLoader {k : Arrival} {act : LoaderM (Tagged L) (Watched W) α}
    {due : α → List (Option String × Failure)} (h : ∀ t, OneCall k (act.run t) fun p => due p.1)
    (b : Binding (Tagged L)) : OneCall k ((Binding.onLoader act).run b) fun p => due p.1 := by
  intro w
  obtain ⟨s, hw, hr, ho⟩ := h b.loader w
  refine ⟨s, ?_, hr, ?_⟩ <;> rw [Binding.onLoader_run] <;> assumption

theorem leaves_onLoader {act : LoaderM (Tagged L) (Watched W) α}
    (hk : ∀ t, Leaves obs (act.run t)) (b : Binding (Tagged L)) :
    Leaves obs ((Binding.onLoader act).run b) := fun w => by
  rw [Binding.onLoader_run]
  exact hk b.loader w

variable [KeyedLoader L W]

theorem oneCall_dispatch (key : String) (arg : Option Argument) (t : Tagged L) :
    OneCall .call ((dispatch (W := Watched W) key arg).run t) fun p => owedOf (some key) p.1 := by
  cases arg <;> rw [dispatch] <;> refine oneCall_answer _ _ (fun _ _ => ?_) t <;> exact ⟨rfl, rfl⟩

theorem oneCall_dispatchAll (keys : List String) (arg : Option Argument) (t : Tagged L) :
    OneCall .call ((dispatchAll (W := Watched W) keys arg).run t) fun p => loadAllDue p.1 := by
  cases arg <;> rw [dispatchAll] <;> refine oneCall_answer _ _ (fun _ _ => ?_) t <;>
    exact ⟨rfl, rfl⟩

theorem leaves_dispatch
    (hl : ∀ (l : L) key arg w, obs (((dispatch (W := W) key arg).run l).run w).2 = obs w)
    (key : String) (arg : Option Argument) (t : Tagged L) :
    Leaves obs ((dispatch (W := Watched W) key arg).run t) := by
  cases arg <;> rw [dispatch] <;> refine leaves_answer _ _ (fun v w => ?_) t
  · exact hl v key none w
  · exact hl v key (some _) w

theorem leaves_dispatchAll
    (hl : ∀ (l : L) keys arg w, obs (((dispatchAll (W := W) keys arg).run l).run w).2 = obs w)
    (keys : List String) (arg : Option Argument) (t : Tagged L) :
    Leaves obs ((dispatchAll (W := Watched W) keys arg).run t) := by
  cases arg <;> rw [dispatchAll] <;> refine leaves_answer _ _ (fun v w => ?_) t
  · exact hl v keys none w
  · exact hl v keys (some _) w

end

/-! ## The steps of a data operation -/

section
variable [KeyedLoader L W] [Listener E W] [Handler H W] [Storage S W] [Journal W]
  {m : Mode} {obs : W → List γ} {note : Settings × Option String × Failure → List γ}
  (hr : Records L E H S obs note)
include hr

/-- A round of notifications settles what it owes when it is about the event's key. -/
theorem accounts_notify (key : Option String) (ev : Event) (hk : key = ev.key?)
    (hm : m.calls (if ev.dropped then .relayed else .call) = true) :
    Accounts m obs note (notify key ev : CacheM (Tagged L) (Tagged E) H (Tagged S) (Watched W) Unit)
      [] fun _ => [] := by
  subst hk
  unfold notify
  refine accounts_current.bind fun c => accounts_forM _ (fun l => ?_) _
  exact (accounts_call hm (oneCall_notify l c.name ev) (leaves_notify hr.notified l c.name ev)).bind
    fun r => (accounts_isolate hr.handled _ r).discard

/-- Telling the listeners what the store dropped settles what it owes, making only relays. -/
theorem accounts_relayRemovals :
    Accounts .relay obs note
      (relayRemovals : CacheM (Tagged L) (Tagged E) H (Tagged S) (Watched W) Unit) [] fun _ => [] := by
  unfold relayRemovals
  refine accounts_current.bind fun c => (accounts_lift (quiet_takeRemovals c.store)
    (leaves_takeRemovals hr.drained c.store)).bind fun p => ?_
  obtain ⟨rs, st⟩ := p
  dsimp only
  refine (accounts_modify fun _ => by rfl).bind fun _ => accounts_forM _ (fun r => ?_) rs
  -- each removal is told as its event, about its key; a failure of the round is only logged
  exact (accounts_notify hr _ _ (Removal.key?_event r).symm (by simp [Mode.calls])).tryCatch fun _ =>
    accounts_current.bind fun _ => accounts_log hr.logged _ _ _

/-- A store call, then the relay of what the store dropped: the call's failure waits for the
relay's reports. -/
theorem accounts_onStore {act : StoreM (Tagged S) (Watched W) α}
    {due : α → List (Option String × Failure)} (h : ∀ st, OneCall .store (act.run st) fun p => due p.1)
    (hk : ∀ st, Leaves obs (act.run st)) :
    Accounts .op obs note (onStore act : CacheM (Tagged L) (Tagged E) H (Tagged S) (Watched W) α) []
      due := by
  intro c w
  rcases hact : (act.run c.store).run w with ⟨⟨a, st⟩, w₁⟩
  obtain ⟨s, hw₁, hs, ho⟩ := h c.store w
  have hk₁ := hk c.store w
  rw [hact] at hw₁ ho hk₁
  dsimp only at hw₁ ho hk₁
  have hcall : ∀ l, reports (s :: l) = reports l := reports_cons_call (by simp [hs])
  -- the relay runs on the cache with the store's new state, and always answers
  obtain ⟨seg, hrel⟩ := accounts_relayRemovals hr { c with store := st } w₁
  obtain ⟨u, hu, -⟩ := succeeds_relayRemovals (L := Tagged L) (E := Tagged E) (H := H)
    { c with store := st } w₁
  rw [exec_onStore_eq act hact, exec_bind]
  rcases hx : exec relayRemovals { c with store := st } w₁ with ⟨⟨r, c₂⟩, w₂⟩
  rw [hx] at hrel hu
  obtain ⟨hw₂, hfits, hs₂, ho₂, hok₂, -⟩ := hrel
  dsimp only at hu hw₂ hs₂ ho₂ hok₂
  subst hu
  dsimp only
  rw [exec_pure]
  have hrep : reports seg = stamp c.settings (seg.flatMap owed) := by
    simpa [arrivals_relays [] hfits] using hok₂ u rfl
  refine ⟨s :: seg, by rw [hw₂, hw₁, List.append_assoc, List.singleton_append],
    by simp [Mode.Fits, Flushes, hs], hs₂, by rw [ho₂, hk₁, hcall], fun b hb => ?_,
    fun _ he => (by cases he)⟩
  -- the store call's failure comes after the relay's
  cases hb
  rw [hcall, hrep, arrivals_store_relays hs hfits, ho]
  simp

theorem accounts_storeGet (k : String) :
    Accounts .op obs note (onStore (Storage.get (S := Tagged S) (W := Watched W) k) :
      CacheM (Tagged L) (Tagged E) H (Tagged S) (Watched W) _) [] (owedOf (some k)) :=
  accounts_onStore hr (oneCall_answer _ _ fun _ _ => ⟨rfl, rfl⟩)
    (leaves_answer _ _ fun st w => hr.got st k w)

theorem accounts_storePut (k v : String) :
    Accounts .op obs note (onStore (Storage.put (S := Tagged S) (W := Watched W) k v) :
      CacheM (Tagged L) (Tagged E) H (Tagged S) (Watched W) _) [] (owedOf (some k)) :=
  accounts_onStore hr (oneCall_answer _ _ fun _ _ => ⟨rfl, rfl⟩)
    (leaves_answer _ _ fun st w => hr.put st k v w)

theorem accounts_storeRemove (k : String) :
    Accounts .op obs note (onStore (Storage.remove (S := Tagged S) (W := Watched W) k) :
      CacheM (Tagged L) (Tagged E) H (Tagged S) (Watched W) _) [] (owedOf (some k)) :=
  accounts_onStore hr (oneCall_answer _ _ fun _ _ => ⟨rfl, rfl⟩)
    (leaves_answer _ _ fun st w => hr.removed st k w)

theorem accounts_storeRemoveAll :
    Accounts .op obs note (onStore (Storage.removeAll (S := Tagged S) (W := Watched W)) :
      CacheM (Tagged L) (Tagged E) H (Tagged S) (Watched W) _) [] (owedOf none) :=
  accounts_onStore hr (oneCall_answer _ _ fun _ _ => ⟨rfl, rfl⟩)
    (leaves_answer _ _ fun st w => hr.cleared st w)

/-! ## Data operations -/

theorem accounts_put (k v : String) :
    Accounts .op obs note (put k v : CacheM (Tagged L) (Tagged E) H (Tagged S) (Watched W) Unit) []
      fun _ => [] := by
  unfold put
  refine (accounts_checkOperable _).bind fun _ => (accounts_storePut hr k v).bind fun r => ?_
  refine (accounts_isolate hr.handled _ r).bind fun o => ?_
  split
  · exact accounts_notify hr _ _ rfl rfl
  · exact accounts_notify hr _ _ rfl rfl
  · exact accounts_pure _ fun _ => []

theorem accounts_putAll (es : List (String × String)) :
    Accounts .op obs note (putAll es : CacheM (Tagged L) (Tagged E) H (Tagged S) (Watched W) Unit) []
      fun _ => [] :=
  accounts_forM _ (fun _ => accounts_put hr _ _) es

theorem accounts_remove (k : String) :
    Accounts .op obs note (remove k : CacheM (Tagged L) (Tagged E) H (Tagged S) (Watched W) _) []
      fun _ => [] := by
  unfold remove
  refine (accounts_checkOperable _).bind fun _ => (accounts_storeRemove hr k).bind fun r => ?_
  refine (accounts_isolate hr.handled _ r).bind fun o => ?_
  dsimp only
  split
  · exact (accounts_notify hr _ _ rfl rfl).bind fun _ => accounts_pure _ fun _ => []
  · exact accounts_pure _ fun _ => []

theorem accounts_removeAll :
    Accounts .op obs note (removeAll : CacheM (Tagged L) (Tagged E) H (Tagged S) (Watched W) Unit) []
      fun _ => [] := by
  unfold removeAll
  refine (accounts_checkOperable _).bind fun _ => (accounts_storeRemoveAll hr).bind fun r => ?_
  refine (accounts_isolate hr.handled _ r).bind fun o => ?_
  split
  · exact accounts_notify hr _ _ rfl rfl
  · exact accounts_pure _ fun _ => []

omit [KeyedLoader L W] [Listener E W] [Handler H W] [Journal W] hr in
theorem accounts_containsKey (k : String) :
    Accounts .op obs note (containsKey k : CacheM (Tagged L) (Tagged E) H (Tagged S) (Watched W) Bool)
      [] fun _ => [] :=
  (accounts_checkOperable _).bind fun _ => accounts_current.bind fun _ => accounts_pure _ fun _ => []

variable [Named L]

omit [Listener E W] [Handler H W] [Storage S W] hr in
/-- A load through the cache's binding leaves the loader's failure owed; without a binding
nothing is called. -/
theorem accounts_onLoader {act : LoaderM (Tagged L) (Watched W) α}
    {due : α → List (Option String × Failure)} (h : ∀ t, OneCall .call (act.run t) fun p => due p.1)
    (hk : ∀ t, Leaves obs (act.run t)) :
    Accounts .op obs note (onBinding (Binding.onLoader act) :
      CacheM (Tagged L) (Tagged E) H (Tagged S) (Watched W) (Option α)) [] fun o => o.elim [] due := by
  unfold onBinding
  refine accounts_current.bind fun c => ?_
  cases c.binding with
  | none => exact accounts_pure none fun o => o.elim [] due
  | some b =>
    refine (accounts_call rfl (oneCall_onLoader h b) (leaves_onLoader hk b)).bind fun p => ?_
    obtain ⟨a, b'⟩ := p
    dsimp only
    exact (accounts_modify fun _ => by rfl).bind fun _ => accounts_pure (some a) fun o => o.elim [] due

theorem accounts_get (k : String) (a : Option Argument) :
    Accounts .op obs note (get k a : CacheM (Tagged L) (Tagged E) H (Tagged S) (Watched W) _) []
      fun _ => [] := by
  unfold get
  refine (accounts_checkOperable _).bind fun _ => (accounts_storeGet hr k).bind fun r => ?_
  refine (accounts_isolate hr.handled _ r).bind fun o => ?_
  split
  · exact accounts_pure _ fun _ => []
  refine accounts_current.bind fun c => ?_
  split
  · exact accounts_pure _ fun _ => []
  -- a miss goes to the loader, and a loaded value is put
  refine (accounts_onLoader (oneCall_dispatch k a) (leaves_dispatch hr.loaded k a)).bind
    fun o => ?_
  split
  · refine (accounts_isolate hr.handled _ _).bind fun o' => ?_
    split
    · exact (accounts_put hr _ _).bind fun _ => accounts_pure _ fun _ => []
    · exact accounts_pure _ fun _ => []
  · exact accounts_pure _ fun _ => []

theorem accounts_getAll (ks : List String) (a : Option Argument) :
    Accounts .op obs note (getAll ks a : CacheM (Tagged L) (Tagged E) H (Tagged S) (Watched W) _) []
      fun _ => [] := by
  unfold getAll
  refine (accounts_checkOperable _).bind fun _ => ?_
  refine (accounts_foldlM _ (fun acc k => ?_) _ _).bind fun p => ?_
  · refine (accounts_storeGet hr k).bind fun r => (accounts_isolate hr.handled _ r).bind fun o => ?_
    split <;> exact accounts_pure _ fun _ => []
  obtain ⟨found, missing⟩ := p
  refine accounts_current.bind fun c => ?_
  split
  · exact accounts_pure _ fun _ => []
  -- the misses go to the loader as one batch
  refine (accounts_onLoader (oneCall_dispatchAll missing a)
    (leaves_dispatchAll hr.loadedAll missing a)).bind fun o => ?_
  cases o with
  | none => exact accounts_pure _ fun _ => []
  | some r =>
    refine (accounts_isolate_batch hr.handled r).bind fun ob => ?_
    cases ob with
    | none => exact accounts_pure _ fun _ => []
    | some b =>
      -- the batch's failures are reported or thrown, then its values are put
      refine (accounts_reportBatch hr.handled _ (fun _ => rfl) b.failures).bind fun _ => ?_
      exact accounts_foldlM _ (fun acc p => (accounts_put hr _ _).bind fun _ => accounts_pure _ fun _ => []) _ _

end

end Cache

namespace CacheCall

variable {L E H S W : Type}

/-- Whether a call reads or writes entries. -/
def isData : CacheCall L E → Bool
  | .get .. | .getAll .. | .put .. | .putAll _ | .remove _ | .removeAll | .containsKey _ => true
  | _ => false

variable [Named L] [KeyedLoader L W] [Named E] [Listener E W] [Handler H W] [Storage S W]
  [Journal W]

theorem accounts_run {γ : Type} {obs : W → List γ} {note : Settings × Option String × Failure → List γ}
    (call : CacheCall (Tagged L) (Tagged E)) (hd : call.isData = true)
    (hr : Cache.Records L E H S obs note) :
    Cache.Accounts .op obs note
      (call.run : CacheM (Tagged L) (Tagged E) H (Tagged S) (Watched W) _) [] fun _ => [] := by
  cases call
  case get k a => exact (Cache.accounts_get hr k a).map _
  case getAll ks a => exact (Cache.accounts_getAll hr ks a).map _
  case put k v => exact (Cache.accounts_put hr k v).bind fun _ => Cache.accounts_pure _ fun _ => []
  case putAll es => exact (Cache.accounts_putAll hr es).bind fun _ => Cache.accounts_pure _ fun _ => []
  case remove k => exact (Cache.accounts_remove hr k).map _
  case removeAll => exact (Cache.accounts_removeAll hr).bind fun _ => Cache.accounts_pure _ fun _ => []
  case containsKey k => exact (Cache.accounts_containsKey k).map _
  all_goals cases hd

/-- A call that reads or writes entries hands its cache's handler every recoverable failure a
store, loader or listener answered during it, each exactly once, unchanged, with the cache's
settings and the key of the step, in the order the failures occur, and nothing else; and it fails
only with a failure that is not recoverable. A log of the world that only the handler adds to,
one record of each failure it receives, grows by the records of those failures, in that order;
and the `reset_counters` step of a bench session empties the bench's failure log. -/
theorem reports_recoverable_failures (call : CacheCall (Tagged L) (Tagged E))
    (hd : call.isData = true) (c : Cache (Tagged L) (Tagged E) H (Tagged S)) (w : Watched W) :
    ∃ seg, (Cache.exec call.run c w).2.seen = w.seen ++ seg ∧
      reports seg = stamp c.settings (arrivals [] seg) ∧
      (reports seg).Perm (dues c.settings seg) ∧
      (∀ e, (Cache.exec call.run c w).1.1 = .error e → e.isRecoverable = false) ∧
      (∀ log : W → List HandledFailure,
        Cache.Records L E H S log (fun p => [HandledFailure.of p.1 p.2.1 p.2.2]) →
        log (Cache.exec call.run c w).2.base =
          log w.base ++ (arrivals [] seg).map fun p => HandledFailure.of c.settings p.1 p.2) ∧
      ∀ (s : Session) (step : Json.Value), step.get "do" = .str "reset_counters" →
        ((Request.sessionStep step).run s).2.world.failures = #[] := by
  obtain ⟨seg, hb⟩ := accounts_run (H := H) (S := S) call hd Cache.records_nothing c w
  have horder : reports seg = stamp c.settings (arrivals [] seg) := by
    rcases hr : (Cache.exec call.run c w).1.1 with e | a
    · simpa using (hb.failed e hr).2
    · simpa using hb.paid a hr
  refine ⟨seg, hb.seen, horder, ?_, fun e he => (hb.failed e he).1, fun log hlog => ?_,
    fun s step h => ?_⟩
  · -- each failure owed arrives once
    rw [horder, dues]
    unfold stamp
    simpa using (arrivals_perm [] seg).map fun p => (c.settings, p.1, p.2)
  · obtain ⟨seg', hb'⟩ := accounts_run (H := H) (S := S) call hd hlog c w
    have hseg : seg' = seg := List.append_cancel_left (hb'.seen.symm.trans hb.seen)
    subst hseg
    rw [hb'.observed, horder, stamp, List.flatMap_map, List.map_eq_flatMap]
  · simp [Request.sessionStep, h]
    rfl

end CacheCall

/-- A cache of the test bench over watched collaborators, with one listener. -/
def watchedBench : Cache (Tagged BenchLoader) (Tagged BenchListener) BenchHandler (Tagged Engine) where
  settings := Settings.named "c"
  store := ⟨1, { name := "c", capacity := 10, idle := none, live := none }⟩
  listeners := [⟨0, .logging "a" []⟩]
  handler := .recording

/-! ## The bench's failure log -/

section
variable {σ α β : Type}

/-- An action over the bench world that leaves its failure log alone. -/
def KeepsFailures (x : StateT σ (StateM World) α) : Prop :=
  ∀ s w, ((x.run s).run w).2.failures = w.failures

theorem keepsFailures_pure (a : α) : KeepsFailures (pure a : StateT σ (StateM World) α) :=
  fun _ _ => rfl

theorem keepsFailures_get : KeepsFailures (get : StateT σ (StateM World) σ) :=
  fun _ _ => rfl

theorem keepsFailures_set (s : σ) : KeepsFailures (set s : StateT σ (StateM World) PUnit) :=
  fun _ _ => rfl

theorem keepsFailures_note (line : String) :
    KeepsFailures (monadLift (World.note line) : StateT σ (StateM World) PUnit) :=
  fun _ _ => rfl

theorem KeepsFailures.bind {x : StateT σ (StateM World) α} {f : α → StateT σ (StateM World) β}
    (hx : KeepsFailures x) (hf : ∀ a, KeepsFailures (f a)) : KeepsFailures (x >>= f) := by
  intro s w
  rcases h : (x.run s).run w with ⟨⟨a, s'⟩, w'⟩
  have hx' := hx s w
  rw [h] at hx'
  have hrun : ((x >>= f).run s).run w = ((f a).run s').run w' := by
    simp only [StateT.run_bind]
    rw [h]
    rfl
  rw [hrun, hf a s' w']
  exact hx'

theorem KeepsFailures.map {x : StateT σ (StateM World) α} (g : α → β) (hx : KeepsFailures x) :
    KeepsFailures (g <$> x) := by
  rw [← bind_pure_comp]
  exact hx.bind fun a => keepsFailures_pure (g a)

theorem keepsFailures_collect (load : String → LoaderM σ World (Except Failure (Option String)))
    (h : ∀ k, KeepsFailures (load k)) : ∀ keys, KeepsFailures (Batch.collect load keys)
  | [] => keepsFailures_pure _
  | k :: rest => (h k).bind fun _ => (keepsFailures_collect load h rest).bind fun _ =>
    keepsFailures_pure _

end

namespace BenchLoader

theorem keepsFailures_onTable {α : Type} {act : LoaderM PropertiesLoader World α}
    (h : KeepsFailures act) (l : PropertiesLoader) : KeepsFailures (onTable act l) :=
  fun _ w => h l w

theorem keepsFailures_load (key : String) : KeepsFailures (load key) := by
  intro l w
  cases l <;> rfl

theorem keepsFailures_loadWith (key : String) (a : Argument) : KeepsFailures (loadWith key a) := by
  intro l w
  cases l
  case stubborn name values => exact keepsFailures_load key (.stubborn name values) w
  all_goals rfl

theorem keepsFailures_loadBatch (keys : List String) (a : Option Argument) :
    KeepsFailures (loadBatch keys a) := by
  unfold loadBatch
  refine keepsFailures_get.bind fun l => ?_
  cases l with
  | table l =>
    -- the properties loader loads a batch key by key, and writes nothing
    cases a <;> exact keepsFailures_onTable
      ((keepsFailures_collect _ (fun _ _ _ => rfl) keys).map _) l
  | scripted name values =>
    refine (keepsFailures_note _).bind fun _ => ?_
    split
    · exact keepsFailures_pure _
    · cases a
      · exact (keepsFailures_collect _ keepsFailures_load keys).map _
      · exact (keepsFailures_collect _ (fun k => keepsFailures_loadWith k _) keys).map _
  | stubborn name values =>
    cases a
    · exact (keepsFailures_collect _ keepsFailures_load keys).map _
    · exact (keepsFailures_collect _ (fun k => keepsFailures_loadWith k _) keys).map _

end BenchLoader

namespace BenchStore

theorem keepsFailures_attempt {α : Type} (op : String) (key : Option String)
    (act : ScriptedStore → α × ScriptedStore) : KeepsFailures (ScriptedStore.attempt op key act) := by
  unfold ScriptedStore.attempt
  refine (keepsFailures_note _).bind fun _ => keepsFailures_get.bind fun s => ?_
  split
  · exact keepsFailures_pure _
  · exact (keepsFailures_set _).bind fun _ => keepsFailures_pure _

theorem keepsFailures_each {α : Type} (act : {S : Type} → [Storage S World] → StoreM S World α)
    (he : KeepsFailures (act (S := Engine))) (hs : KeepsFailures (act (S := ScriptedStore))) :
    KeepsFailures (each act) := by
  unfold each
  refine keepsFailures_get.bind fun st => ?_
  cases st with
  | engine e => exact fun _ w => he e w
  | scripted s => exact fun _ w => hs s w

end BenchStore

/-- The collaborators of the test bench never write its failure log: only a recording handler
adds to it, one record of each failure it receives. -/
theorem records_failureLog :
    Cache.Records BenchLoader BenchListener RecordingHandler BenchStore
      (fun w : World => w.failures.toList) fun p => [HandledFailure.of p.1 p.2.1 p.2.2] where
  handled _ _ _ _ _ := Array.toList_push ..
  logged _ _ := rfl
  notified l _ _ _ := by cases l <;> rfl
  loaded l key arg w := by
    cases arg
    · exact congrArg Array.toList (BenchLoader.keepsFailures_load key l w)
    · exact congrArg Array.toList (BenchLoader.keepsFailures_loadWith key _ l w)
  loadedAll l keys arg w := by
    cases arg
    · exact congrArg Array.toList (BenchLoader.keepsFailures_loadBatch keys none l w)
    · exact congrArg Array.toList (BenchLoader.keepsFailures_loadBatch keys (some _) l w)
  got st key w := congrArg Array.toList (BenchStore.keepsFailures_each
    (fun {S} [Storage S World] => Storage.get (S := S) key) (fun _ _ => rfl)
    (BenchStore.keepsFailures_attempt _ _ _) st w)
  put st key value w := congrArg Array.toList (BenchStore.keepsFailures_each
    (fun {S} [Storage S World] => Storage.put (S := S) key value) (fun _ _ => rfl)
    (BenchStore.keepsFailures_attempt _ _ _) st w)
  removed st key w := congrArg Array.toList (BenchStore.keepsFailures_each
    (fun {S} [Storage S World] => Storage.remove (S := S) key) (fun _ _ => rfl)
    (BenchStore.keepsFailures_attempt _ _ _) st w)
  cleared st w := congrArg Array.toList (BenchStore.keepsFailures_each
    (fun {S} [Storage S World] => Storage.removeAll (S := S)) (fun _ _ => rfl)
    (BenchStore.keepsFailures_attempt _ _ _) st w)
  drained st w := by cases st <;> rfl

/-- A cache of the test bench over watched collaborators, with a recording handler and one
listener that fails, recoverably, on every put. -/
def recordingBench :
    Cache (Tagged BenchLoader) (Tagged BenchListener) RecordingHandler (Tagged BenchStore) where
  settings := Settings.named "c"
  store := ⟨1, .engine { name := "c", capacity := 10, idle := none, live := none }⟩
  listeners := [⟨0, .logging "a" [("put", "boom")]⟩]
  handler := {}

theorem reports_recoverable_failures_bench :
    (CacheCall.put "k" "1" : CacheCall (Tagged BenchLoader) (Tagged BenchListener)).isData = true ∧
      ∃ seg, (Cache.exec (CacheCall.put "k" "1").run recordingBench
          (⟨{}, 2, []⟩ : Watched World)).2.seen = [] ++ seg ∧
        reports seg = stamp recordingBench.settings (arrivals [] seg) ∧
        (reports seg).Perm (dues recordingBench.settings seg) ∧
        (∀ e, (Cache.exec (CacheCall.put "k" "1").run recordingBench
          (⟨{}, 2, []⟩ : Watched World)).1.1 = .error e → e.isRecoverable = false) ∧
        (Cache.exec (CacheCall.put "k" "1").run recordingBench
          (⟨{}, 2, []⟩ : Watched World)).2.base.failures.toList =
            [] ++ (arrivals [] seg).map fun p => HandledFailure.of recordingBench.settings p.1 p.2 := by
  obtain ⟨seg, hw, ho, hp, he, hlog, -⟩ :=
    CacheCall.reports_recoverable_failures (CacheCall.put "k" "1") rfl recordingBench
      (⟨{}, 2, []⟩ : Watched World)
  exact ⟨rfl, seg, hw, ho, hp, he, hlog _ records_failureLog⟩

/-! ## A failure that is only logged -/

namespace Cache

section
variable {L E H S W : Type} [Listener E W] [Handler H W] [Storage S W] [Journal W]
  {c : Cache L E H S} {w₁ w₂ w₃ : W}

/-- The line a cache logs when a listener fails on an entry its store dropped. -/
def relayFailureLine (c : Cache L E H S) (r : Removal) (f : Failure) : LogLine :=
  ⟨.error, Target.handle,
    "Listener failed on " ++ r.cause.title ++ " in cache '" ++ c.name ++ "': " ++ f.message⟩

omit [Storage S W] [Journal W] in
/-- A round of notifications to a single listener that fails with a failure that is not
recoverable fails with it. -/
theorem exec_notify_fatal {l : E} {key : Option String} {ev : Event} {f : Failure}
    (hl : c.listeners = [l]) (hn : (Listener.notify (W := W) l c.name ev).run w₁ = (.error f, w₂))
    (hf : f.isRecoverable = false) :
    exec (notify key ev : CacheM L E H S W Unit) c w₁ = ((.error f, c), w₂) := by
  unfold notify
  rw [exec_bind, exec_current]
  dsimp only
  rw [hl, List.forM_eq_forM, List.forM_cons, exec_bind, exec_bind, exec_lift, hn]
  dsimp only
  rw [exec_discard, exec_isolate_fatal _ _ hf]

/-- The store dropped one entry, and the cache's only listener fails on it with a failure that is
not recoverable: relaying succeeds, and the failure is only logged. -/
theorem exec_relayRemovals_swallowed {r : Removal} {s s' : S} {l : E} {f : Failure}
    (ht : ((Storage.takeRemovals (S := S) (W := W)).run s).run w₁ = (([r], s'), w₂))
    (hl : c.listeners = [l])
    (hn : (Listener.notify (W := W) l c.name r.event).run w₂ = (.error f, w₃))
    (hf : f.isRecoverable = false) :
    exec (relayRemovals : CacheM L E H S W Unit) { c with store := s } w₁ =
      ((.ok (), { c with store := s' }), Journal.write (relayFailureLine c r f) w₃) := by
  unfold relayRemovals
  rw [exec_bind, exec_current]
  dsimp only
  rw [exec_bind, exec_lift, ht]
  dsimp only
  rw [exec_bind, exec_modify]
  dsimp only
  rw [List.forM_eq_forM, List.forM_cons, exec_bind, exec_tryCatch,
    exec_notify_fatal (c := { c with store := s' }) hl hn hf]
  rfl

/-- A store action after which the store dropped one entry that the cache's only listener fails
on, with a failure that is not recoverable, answers what the action answered. -/
theorem exec_onStore_swallowed {α : Type} (act : StoreM S W α) {a : α} {w : W} {r : Removal}
    {s₁ s₂ : S} {l : E} {f : Failure}
    (h : (act.run c.store).run w = ((a, s₁), w₁))
    (ht : ((Storage.takeRemovals (S := S) (W := W)).run s₁).run w₁ = (([r], s₂), w₂))
    (hl : c.listeners = [l])
    (hn : (Listener.notify (W := W) l c.name r.event).run w₂ = (.error f, w₃))
    (hf : f.isRecoverable = false) :
    exec (onStore act : CacheM L E H S W α) c w =
      ((.ok a, { c with store := s₂ }), Journal.write (relayFailureLine c r f) w₃) := by
  rw [exec_onStore_eq act h, exec_bind, exec_relayRemovals_swallowed (c := c) ht hl hn hf]
  rfl

/-- Removing an absent key while the store drops an entry that the cache's only listener fails
on, with a failure that is not recoverable: the removal answers that no value was removed, and the
failure is only logged. -/
theorem exec_remove_swallowed {k : String} {w : W} {r : Removal} {s₁ s₂ : S} {l : E} {f : Failure}
    (hc : c.status.isOperable = true)
    (hs : ((Storage.remove (S := S) (W := W) k).run c.store).run w = ((.ok none, s₁), w₁))
    (ht : ((Storage.takeRemovals (S := S) (W := W)).run s₁).run w₁ = (([r], s₂), w₂))
    (hl : c.listeners = [l])
    (hn : (Listener.notify (W := W) l c.name r.event).run w₂ = (.error f, w₃))
    (hf : f.isRecoverable = false) :
    exec (remove k : CacheM L E H S W (Option String)) c w =
      ((.ok none, { c with store := s₂ }), Journal.write (relayFailureLine c r f) w₃) := by
  unfold remove
  rw [exec_bind, exec_checkOperable _ hc]
  dsimp only
  rw [exec_bind, exec_onStore_swallowed _ hs ht hl hn hf]
  dsimp only
  rw [exec_bind, exec_isolate_ok]
  rfl

end

end Cache

/-- A live cache of the test bench whose store has noticed that the entry `a` expired, and whose
one listener fails with a configuration error when it is told of an expiry. -/
def expiringBench : Cache BenchLoader BenchListener BenchHandler Engine where
  settings := Settings.named "c"
  status := .alive
  store := { name := "c", capacity := 10, idle := none, live := none, removals := [⟨"a", "va", .expired⟩] }
  listeners := [.logging "L" [("expired", "!config:x")]]
  handler := .recording

/-- The failure spec of the expiring bench's listener is a configuration error. -/
theorem ofSpecOr_config_x : Failure.ofSpecOr "L" "!config:x" (.listener "L") = .config "L" "x" := by
  simp +decide [Failure.ofSpecOr, Failure.ofSpec?, Failure.specParts, String.splitOn,
    String.splitOnAux]

/-- Removing an absent key from the expiring bench answers that nothing was removed, although its
listener failed, not recoverably, on the expiry the store noticed meanwhile. -/
theorem remove_hides_listener_failure :
    ((Listener.notify (W := World) (BenchListener.logging "L" [("expired", "!config:x")]) "c"
        (.expired "a" "va")).run {}).1 = .error (.config "L" "x") ∧
      (Failure.config "L" "x").isRecoverable = false ∧
      (Cache.exec (Cache.remove "a") expiringBench ({} : World)).1.1 = .ok none := by
  have hn : (Listener.notify (W := World) (BenchListener.logging "L" [("expired", "!config:x")]) "c"
      (.expired "a" "va")).run {} = (.error (.config "L" "x"), { events := #["L expired a=va"] }) := by
    rw [← ofSpecOr_config_x]
    rfl
  refine ⟨by rw [hn], rfl, ?_⟩
  rw [Cache.exec_remove_swallowed rfl rfl rfl rfl hn rfl]
end NamedCaches
