import NamedCaches.Proofs.Cache.Frame
set_option autoImplicit false
/-!
# A new cache takes its loader and comes alive

A cache built from a declaration with a loader gets a clone of the loader's template: the clone
is made for the cache's name, the template is disposed, and the clone is bound to the cache
(`exec_attachDeclaredLoader`). Initialising the cache then marks it alive and runs the bound
loader's `init` for the cache's name, whose failure is the initialisation's
(`exec_initialise`).
-/

namespace NamedCaches

namespace Binding

variable {L W : Type} [Named L] [KeyedLoader L W] [Journal W]

omit [Named L] [KeyedLoader L W] [Journal W] in
theorem onLoader_run {α : Type} (act : LoaderM L W α) (b : Binding L) (w : W) :
    ((onLoader act).run b).run w =
      ((((act.run b.loader).run w).1.1, { b with loader := ((act.run b.loader).run w).1.2 }),
        ((act.run b.loader).run w).2) := rfl

/-- Cloning a new binding asks its loader for a clone, whatever the owner's status. -/
theorem cloneInto_run (owner : Status) (target : String) (t : L) (w : W) :
    (((cloneInto owner target).run { loader := t }).run w).1.1 =
      ((((KeyedLoader.cloneFor target).run t).run w).1.1).map fun copy => { loader := copy } := by
  unfold cloneInto
  simp only [StateT.run_bind, StateT.run_get, pure_bind, bne_self_eq_false, Bool.false_and,
    Bool.false_eq_true, if_false, onLoader_run]
  rcases ((KeyedLoader.cloneFor target).run t).run w with ⟨⟨_ | copy, t'⟩, w'⟩ <;> rfl

/-- Initialising a new binding answers what its loader's `init` answers. -/
theorem init_run (cache : String) (l : L) (w : W) :
    (((Binding.init cache).run { loader := l }).run w).1.1 =
      (((KeyedLoader.init cache).run l).run w).1.1 := by
  unfold Binding.init
  simp only [StateT.run_bind, StateT.run_get, pure_bind, onLoader_run]
  rcases ((KeyedLoader.init cache).run l).run w with ⟨⟨_ | _, l'⟩, w'⟩ <;> rfl

end Binding

namespace Cache

variable {L E H S W : Type} [Named L] [KeyedLoader L W] [Journal W]

/-- A new cache without a loader takes a clone of the template made for its name, or fails as
the clone fails and stays as it was. -/
theorem exec_attachDeclaredLoader (t : L) {c : Cache L E H S} (hs : c.status = .uninitialized)
    (hb : c.binding = none) (w : W) :
    (exec (attachDeclaredLoader t) c w).1 =
      match (((KeyedLoader.cloneFor (W := W) c.name).run t).run w).1.1 with
      | .error e => (.error e, c)
      | .ok copy => (.ok (), { c with binding := some { loader := copy } }) := by
  unfold attachDeclaredLoader attachDeclaredLoaderWith
  rw [exec_bind, exec_current]
  dsimp only
  rw [if_neg (by simp [hs]), exec_bind]
  simp only [onDetached, exec_lift]
  have hclone := Binding.cloneInto_run (W := W) c.status c.name t w
  rcases h : ((Binding.cloneInto c.status c.name).run { loader := t }).run w with
    ⟨⟨r, t'⟩, w'⟩
  rw [h] at hclone
  dsimp only at hclone ⊢
  -- the template is disposed whatever the clone gave
  rw [exec_bind, exec_discard, exec_lift]
  dsimp only
  rw [exec_bind]
  rcases hc : (((KeyedLoader.cloneFor (W := W) c.name).run t).run w).1.1 with e | copy
  · rw [hc] at hclone
    subst hclone
    rfl
  · rw [hc] at hclone
    subst hclone
    simp only [orFail, Except.map, exec_pure]
    unfold installWith
    rw [exec_bind, exec_current]
    dsimp only
    rw [exec_bind, exec_modify]
    dsimp only
    rw [hb]
    rfl

omit [Named L] [KeyedLoader L W] [Journal W] in
/-- A new cache is marked alive. -/
theorem exec_markAlive {c : Cache L E H S} (hs : c.status = .uninitialized) (w : W) :
    exec (markAlive : CacheM L E H S W Unit) c w = ((.ok (), { c with status := .alive }), w) := by
  unfold markAlive
  have htr : c.status.transition c.name .uninitialized .alive = .ok .alive := by
    rw [hs]
    rfl
  rw [exec_bind, exec_current]
  dsimp only
  rw [htr, exec_bind]
  simp only [orFail, exec_pure]
  rw [exec_modify]

omit [Named L] [KeyedLoader L W] [Journal W] in
/-- A cache that is not new is not marked alive: the move is refused and changes nothing. -/
theorem exec_markAlive_refused {c : Cache L E H S} (h : c.status ≠ .uninitialized) (w : W) :
    exec (markAlive : CacheM L E H S W Unit) c w =
      ((.error (.illegalState c.name ("cannot move to alive while " ++ c.status.text)), c), w) := by
  unfold markAlive
  rw [exec_bind, exec_current]
  dsimp only
  rw [show c.status.transition c.name .uninitialized .alive =
    .error (.illegalState c.name ("cannot move to " ++ Status.alive.text ++ " while " ++
      c.status.text)) from if_neg h]
  exact exec_bind_error rfl

/-- Initialising a bound loader runs the binding's `init` for the cache; the rest of the call
takes `init`'s answer on the cache with the binding `init` left. -/
theorem exec_initBinding_bound {c : Cache L E H S} {b b' : Binding L} (hb : c.binding = some b)
    {w w' : W} {r : Except Failure Unit} (h : ((Binding.init c.name).run b).run w = ((r, b'), w')) :
    exec initBinding c w =
      exec (do
          orFail r
          log .debug Target.handle ("Cache '" ++ c.name ++ "' is alive"))
        { c with binding := some b' } w' := by
  unfold initBinding
  rw [exec_bind, exec_current]
  dsimp only
  rw [exec_bind]
  unfold onBinding
  rw [exec_bind, exec_current]
  dsimp only
  rw [hb, exec_bind]
  simp only [onDetached, exec_lift, h]
  rfl

/-- A cache without a loader has nothing to initialise, and logs that it is alive. -/
theorem exec_initBinding_of_none {c : Cache L E H S} (hb : c.binding = none) (w : W) :
    exec initBinding c w =
      exec (log .debug Target.handle ("Cache '" ++ c.name ++ "' is alive") :
        CacheM L E H S W Unit) c w := by
  unfold initBinding
  rw [exec_bind, exec_current]
  dsimp only
  rw [exec_bind]
  unfold onBinding
  rw [exec_bind, exec_current]
  dsimp only
  rw [hb]
  rfl

/-- Initialising a new cache with a bound loader marks it alive and runs the binding's `init`;
the rest of the call takes `init`'s answer on the cache with the binding `init` left. -/
theorem exec_initialise_bound {c : Cache L E H S} (hs : c.status = .uninitialized)
    {b b' : Binding L} (hb : c.binding = some b) {w w' : W} {r : Except Failure Unit}
    (h : ((Binding.init c.name).run b).run w = ((r, b'), w')) :
    exec initialise c w =
      exec (do
          orFail r
          log .debug Target.handle ("Cache '" ++ c.name ++ "' is alive"))
        { c with status := .alive, binding := some b' } w' := by
  unfold initialise
  rw [exec_bind, exec_markAlive hs]
  exact exec_initBinding_bound (c := { c with status := .alive }) hb h

/-- Initialising a new cache without a loader marks it alive and logs so. -/
theorem exec_initialise_of_none {c : Cache L E H S} (hs : c.status = .uninitialized)
    (hb : c.binding = none) (w : W) :
    exec initialise c w =
      exec (log .debug Target.handle ("Cache '" ++ c.name ++ "' is alive") :
        CacheM L E H S W Unit) { c with status := .alive } w := by
  unfold initialise
  rw [exec_bind, exec_markAlive hs]
  exact exec_initBinding_of_none (c := { c with status := .alive }) hb w

/-- Initialising a new cache leaves it alive, and fails exactly as its bound loader's `init`
fails. -/
theorem exec_initialise {c : Cache L E H S} (hs : c.status = .uninitialized) (w : W) :
    (exec initialise c w).1.2.status = .alive ∧
      (exec initialise c w).1.1 =
        match c.binding with
        | none => .ok ()
        | some b => (((Binding.init c.name).run b).run w).1.1 := by
  rcases hb : c.binding with _ | b
  · rw [exec_initialise_of_none hs hb]
    exact ⟨rfl, rfl⟩
  · rcases h : ((Binding.init c.name).run b).run w with ⟨⟨r, b'⟩, w'⟩
    rw [exec_initialise_bound hs hb h, exec_bind]
    dsimp only
    rw [h]
    -- the log line after `init` changes neither the answer nor the status
    cases r with
    | error e => exact ⟨rfl, rfl⟩
    | ok u => exact ⟨rfl, rfl⟩

/-- Initialising a new cache whose bound loader's `init` succeeds leaves it alive, with the
binding `init` left, once the cache has logged that it is alive. -/
theorem exec_initialise_of_init_ok {c : Cache L E H S} (hs : c.status = .uninitialized)
    {b b' : Binding L} (hb : c.binding = some b) {w w' : W}
    (h : ((Binding.init c.name).run b).run w = ((.ok (), b'), w')) :
    exec initialise c w =
      ((.ok (), { c with status := .alive, binding := some b' }),
        ((logLine .debug Target.handle ("Cache '" ++ c.name ++ "' is alive")).run w').2) := by
  rw [exec_initialise_bound hs hb h, exec_bind]
  rfl

end Cache

end NamedCaches
