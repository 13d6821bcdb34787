import NamedCaches.Report
import NamedCaches.Proofs.Registry.Calls
set_option autoImplicit false
/-!
# Shutting the report's manager down

The report logs to a `Console`, which only ever takes lines at its end. An action *appends*
(`Console.Appends`) when the log after it continues the log before it (`Console.Grows`); a cache
operation appends when it does so from every cache (`Cache.Appends`). Both are closed under the
ways actions are put together, and disposing a cache appends as soon as its collaborators only
log (`LogsOnly`): a loader's teardown, a listener's events and teardown, the handler and the
store. The report's collaborators do (`LogsOnly.report`), so shutting its manager down only adds
lines after those the report wrote before (`Manager.appends_shutdown`).

A manager whose caches are all alive leaves each of them disposed when it is shut down
(`Manager.shutdown_disposes`).
-/

namespace NamedCaches

namespace Console

/-- The log `after` continues the log `before`: it holds its lines in order, then perhaps more. -/
def Grows (before after : Console) : Prop := before.lines.toList <+: after.lines.toList

theorem Grows.refl (w : Console) : Grows w w := List.prefix_refl _

theorem Grows.trans {a b c : Console} (h : Grows a b) (h' : Grows b c) : Grows a c :=
  List.IsPrefix.trans h h'

/-- An action on the log that only adds lines to it, whatever log it starts from. -/
def Appends {α : Type} (x : StateM Console α) : Prop := ∀ w, Grows w (x.run w).2

variable {α β : Type}

theorem appends_pure (a : α) : Appends (pure a : StateM Console α) := fun w => .refl w

theorem Appends.bind {x : StateM Console α} {f : α → StateM Console β} (hx : Appends x)
    (hf : ∀ a, Appends (f a)) : Appends (x >>= f) :=
  fun w => (hx w).trans (hf _ _)

theorem appends_logLine (level : Level) (target message : String) :
    Appends (logLine (W := Console) level target message) :=
  fun _ => ⟨[⟨level, target, message⟩], (Array.toList_push ..).symm⟩

theorem appends_mapM {γ : Type} (g : γ → StateM Console β) (hg : ∀ a, Appends (g a)) :
    ∀ l : List γ, Appends (l.mapM g)
  | [] => appends_pure _
  | a :: l => by
    rw [List.mapM_cons]
    exact (hg a).bind fun _ => (appends_mapM g hg l).bind fun _ => appends_pure _

end Console

namespace Cache

variable {L E H S : Type} {α β : Type}

/-- Running the operation, from any cache and log, only adds lines to the log. -/
def Appends (x : CacheM L E H S Console α) : Prop :=
  ∀ c w, Console.Grows w (exec x c w).2

theorem appends_pure (a : α) : Appends (pure a : CacheM L E H S Console α) :=
  fun _ w => .refl w

theorem appends_current : Appends (current : CacheM L E H S Console _) :=
  fun _ w => .refl w

theorem appends_modify (f : Cache L E H S → Cache L E H S) :
    Appends (modify f : CacheM L E H S Console Unit) :=
  fun _ w => .refl w

theorem appends_throw (e : Failure) : Appends (throw e : CacheM L E H S Console α) :=
  fun _ w => .refl w

theorem appends_lift {act : StateM Console α} (h : Console.Appends act) :
    Appends (monadLift act : CacheM L E H S Console α) :=
  fun _ w => h w

-- an appending operation moves along the growth of the log, whatever it does to the cache
theorem Appends.bind {x : CacheM L E H S Console α} {f : α → CacheM L E H S Console β}
    (hx : Appends x) (hf : ∀ a, Appends (f a)) : Appends (x >>= f) :=
  Moves.bind (R := fun p q => Console.Grows p.2 q.2) Console.Grows.trans hx hf

theorem Appends.discard {x : CacheM L E H S Console α} (hx : Appends x) :
    Appends (discard x) :=
  Moves.discard (R := fun p q => Console.Grows p.2 q.2) hx

theorem Appends.tryCatch {x : CacheM L E H S Console α} {g : Failure → CacheM L E H S Console α}
    (hx : Appends x) (hg : ∀ e, Appends (g e)) : Appends (MonadExcept.tryCatch x g) :=
  Moves.tryCatch (R := fun p q => Console.Grows p.2 q.2) Console.Grows.trans hx hg

theorem appends_forM {γ : Type} (g : γ → CacheM L E H S Console PUnit)
    (hg : ∀ a, Appends (g a)) : ∀ l : List γ, Appends (l.forM g)
  | [] => appends_pure _
  | a :: l => by
    rw [List.forM_eq_forM, List.forM_cons]
    exact (hg a).bind fun _ => appends_forM g hg l

theorem appends_log (level : Level) (target message : String) :
    Appends (log level target message : CacheM L E H S Console _) :=
  appends_lift (Console.appends_logLine level target message)

/-- Collaborators that do nothing to the log but add lines to it: the loader's teardown (as
its binding runs it), a listener's events and teardown, the handler, and clearing the store and
taking its removals. -/
structure LogsOnly (L E H S : Type) [Named L] [KeyedLoader L Console] [Listener E Console]
    [Handler H Console] [Storage S Console] : Prop where
  binding : ∀ b : Binding L, Console.Appends ((Binding.dispose (W := Console)).run b)
  notify : ∀ (l : E) cache ev, Console.Appends (Listener.notify (W := Console) l cache ev)
  dispose : ∀ l : E, Console.Appends (Listener.dispose (W := Console) l)
  handler : ∀ (h : H) s key f, Console.Appends (Handler.onFailure (W := Console) h s key f)
  removeAll : ∀ s : S, Console.Appends ((Storage.removeAll (W := Console)).run s)
  takeRemovals : ∀ s : S, Console.Appends ((Storage.takeRemovals (W := Console)).run s)

section
variable [Named L] [KeyedLoader L Console] [Listener E Console] [Handler H Console]
  [Storage S Console] (hC : LogsOnly L E H S)
include hC

theorem appends_isolate (key : Option String) (r : Except Failure α) :
    Appends (isolate key r : CacheM L E H S Console _) := by
  unfold isolate
  cases r with
  | ok a => exact appends_pure _
  | error e =>
    dsimp only
    split
    · refine (appends_current.bind fun c => appends_lift (hC.handler _ _ _ _)).bind fun _ => ?_
      exact appends_pure _
    · exact appends_throw e

theorem appends_notify (key : Option String) (ev : Event) :
    Appends (notify key ev : CacheM L E H S Console _) := by
  unfold notify
  refine appends_current.bind fun c => appends_forM _ (fun l => ?_) _
  exact (appends_lift (hC.notify _ _ _)).bind fun r => (appends_isolate hC key r).discard

theorem appends_relayRemovals : Appends (relayRemovals : CacheM L E H S Console _) := by
  unfold relayRemovals
  refine appends_current.bind fun c => (appends_lift (hC.takeRemovals _)).bind fun p => ?_
  refine (appends_modify _).bind fun _ => appends_forM _ (fun r => ?_) _
  exact (appends_notify hC _ _).tryCatch fun _ => appends_current.bind fun _ => appends_log _ _ _

theorem appends_onStore_removeAll :
    Appends (onStore (Storage.removeAll (S := S) (W := Console)) : CacheM L E H S Console _) := by
  unfold onStore
  refine appends_current.bind fun c => (appends_lift (hC.removeAll _)).bind fun p => ?_
  exact (appends_modify _).bind fun _ => (appends_relayRemovals hC).bind fun _ => appends_pure _

/-- Disposing a cache only adds lines to the log. -/
theorem appends_dispose : Appends (dispose : CacheM L E H S Console Unit) := by
  unfold dispose disposeWith
  rw [releaseListener_noCalls]
  refine appends_current.bind fun c => ?_
  split
  · refine (appends_modify _).bind fun _ => ?_
    -- the loader's teardown, then the listeners', the store's release and the last line
    extract_lets finish release
    have hfinish : ∀ u, Appends (finish u) := fun _ =>
      (appends_modify _).bind fun _ => appends_log _ _ _
    have hrelease : ∀ u, Appends (release u) := fun _ => by
      refine (appends_modify _).bind fun _ => ?_
      refine (appends_forM _ (fun l => appends_lift (hC.dispose l)) _).bind fun _ => ?_
      refine (appends_onStore_removeAll hC).bind fun r => ?_
      cases r with
      | error e => exact (appends_log _ _ _).bind hfinish
      | ok u => exact hfinish ()
    cases c.binding with
    | some b =>
      dsimp only
      rw [release_noCalls]
      exact (appends_lift (hC.binding b)).discard.bind hrelease
    | none => exact hrelease ()
  · exact appends_pure _

end

/-- The report's collaborators only log: the properties loader's teardown does nothing, the
null sink and the logging handler write a line, and the engine never touches the log. -/
theorem LogsOnly.report : LogsOnly PropertiesLoader NullSink LoggingHandler Engine where
  binding b w := by
    rcases b with ⟨l, _ | _ | _⟩ <;> exact .refl w
  notify _ _ _ := (Console.appends_logLine _ _ _).bind fun _ => Console.appends_pure _
  dispose _ := Console.appends_logLine _ _ _
  handler _ _ key _ := by
    cases key <;> exact Console.appends_logLine _ _ _
  removeAll _ w := .refl w
  takeRemovals _ w := .refl w

end Cache

namespace Manager

variable {L E H S : Type}

/-- Shutting a manager down only adds lines to the log, when its caches' collaborators only
log. -/
theorem appends_shutdown [Named L] [KeyedLoader L Console] [Listener E Console]
    [Handler H Console] [Storage S Console] (hC : Cache.LogsOnly L E H S) (m : Manager L E H S) :
    Console.Appends m.shutdown := by
  unfold shutdown
  refine (Console.appends_mapM _ (fun p => ?_) m.caches).bind fun _ => ?_
  · refine Console.Appends.bind (fun w => Cache.appends_dispose hC p.2 w) fun q => ?_
    obtain ⟨r, c'⟩ := q
    dsimp -zeta only
    -- a failed disposal would only be logged
    extract_lets keep
    cases r with
    | error e => exact (Console.appends_logLine _ _ _).bind fun _ => Console.appends_pure _
    | ok u => exact Console.appends_pure _
  · exact (Console.appends_logLine _ _ _).bind fun _ => Console.appends_pure _

section
variable {W : Type} [Named L] [KeyedLoader L W] [Listener E W] [Handler H W] [Storage S W]
  [Journal W]

/-- Disposing an alive cache leaves it disposed, with its settings. -/
theorem runOn_dispose_alive (c : Cache L E H S) (hc : c.status = .alive) :
    Ensures (runOn (W := W) c Cache.dispose) fun q =>
      q.2.settings = c.settings ∧ q.2.status = .disposed := by
  intro w
  obtain ⟨-, hstatus⟩ := Cache.dispose_status c w
  refine ⟨Cache.fixesSettings_dispose c w, ?_⟩
  show (Cache.exec Cache.dispose c w).1.2.status = .disposed
  rw [hstatus, hc]
  rfl

/-- Shutting down a manager whose caches are all alive leaves the same manager with each of its
caches disposed. -/
theorem shutdown_disposes (m : Manager L E H S) (h : ∀ p ∈ m.caches, p.2.status = .alive) :
    Ensures (m.shutdown (W := W)) fun m' =>
      m.Same m' ∧ ∀ p ∈ m'.caches, p.2.status = .disposed := by
  unfold shutdown
  refine (ensures_mapM_of_mem (g := fun q => (q.1, q.2.settings))
    (k := fun p => (p.1, p.2.settings)) (P := fun q => q.2.status = .disposed) m.caches
      fun p hp => ?_).bind fun caches hc => ?_
  · obtain ⟨name, c⟩ := p
    refine (runOn_dispose_alive c (h _ hp)).bind fun q hq => ?_
    obtain ⟨r, c'⟩ := q
    dsimp -zeta only
    -- a failed disposal would only be logged before the cache is kept
    extract_lets keep
    have hkeep : ∀ u, Ensures (keep u) fun b =>
        (b.1, b.2.settings) = (name, c.settings) ∧ b.2.status = .disposed :=
      fun _ => ensures_pure ⟨by rw [← hq.1], hq.2⟩
    cases r with
    | error e => exact (ensures_any _).bind fun u _ => hkeep u
    | ok u => exact hkeep ()
  · exact (ensures_any _).bind fun _ _ => ensures_pure ⟨⟨rfl, rfl, hc.1⟩, hc.2⟩

end

end Manager

end NamedCaches
