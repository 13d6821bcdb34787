import NamedCaches.Proofs.Watch.World
import NamedCaches.Proofs.Cache.Lifecycle
set_option autoImplicit false
/-!
# The calls of a cache's lifecycle, watched

Each lifecycle step of a cache over watched collaborators is given with the exact sightings it
adds, and how many fresh tags it takes:

* initialising a new cache calls its bound loader's `init` once (`exec_initialise_watched`), or
  nothing if it has no loader (`exec_initialise_unbound`);
* disposing an operable cache disposes its loader, then each listener in order, then clears its
  store (`exec_dispose_watched`); its listeners are dropped before the store is cleared, so no
  removal the clearing causes is told to anyone.

The collaborators themselves are arbitrary: each answer is whatever the underlying collaborator
gives, and each lemma holds for all of them.
-/

namespace NamedCaches

/-! ## Watched collaborators -/

namespace Tagged

variable {σ W α : Type}

theorem run_of (act : StateT σ (StateM W) α) {t : Tagged σ} {w : Watched W} {a : α} {v : σ}
    {b : W} (h : (act.run t.val).run w.base = ((a, v), b)) :
    ((run act).run t).run w = ((a, { t with val := v }), { w with base := b }) := by
  show (((((act.run t.val).run w.base).1.1, _), _)) = _
  rw [h]

theorem answer_of (act : StateT σ (StateM W) α) (s : Nat → α → Sighting) {t : Tagged σ}
    {w : Watched W} {a : α} {v : σ} {b : W} (h : (act.run t.val).run w.base = ((a, v), b)) :
    ((answer act s).run t).run w = ((a, { t with val := v }), w.after b 0 [s t.tag a]) := by
  unfold answer
  simp only [StateT.run_bind, run_of _ h]
  rfl

variable {L : Type} [KeyedLoader L W]

theorem init_run (cache : String) (t : Tagged L) (w : Watched W) :
    ((KeyedLoader.init cache).run t).run w =
      (((((KeyedLoader.init cache).run t.val).run w.base).1.1,
          { t with val := (((KeyedLoader.init cache).run t.val).run w.base).1.2 }),
        w.after (((KeyedLoader.init cache).run t.val).run w.base).2 0
          [.loader t.tag (.init cache (((KeyedLoader.init cache).run t.val).run w.base).1.1)]) :=
  rfl

/-- A clone that is made gets the next fresh tag. -/
theorem cloneFor_of_ok (target : String) {t : Tagged L} {w : Watched W} {copy l' : L} {b' : W}
    (h : ((KeyedLoader.cloneFor target).run t.val).run w.base = ((.ok copy, l'), b')) :
    ((KeyedLoader.cloneFor (L := Tagged L) target).run t).run w =
      ((.ok ⟨w.next, copy⟩, { t with val := l' }),
        w.after b' 1 [.loader t.tag (.cloneFor target (.ok w.next))]) := by
  show ((Tagged.cloneFor target).run t).run w = _
  unfold Tagged.cloneFor
  simp only [StateT.run_bind, run_of _ h]
  rfl

theorem cloneFor_of_error (target : String) {t : Tagged L} {w : Watched W} {e : Failure} {l' : L}
    {b' : W} (h : ((KeyedLoader.cloneFor target).run t.val).run w.base = ((.error e, l'), b')) :
    ((KeyedLoader.cloneFor (L := Tagged L) target).run t).run w =
      ((.error e, { t with val := l' }),
        w.after b' 0 [.loader t.tag (.cloneFor target (.error e))]) := by
  show ((Tagged.cloneFor target).run t).run w = _
  unfold Tagged.cloneFor
  simp only [StateT.run_bind, run_of _ h]
  rfl

end Tagged

/-! ## Bindings -/

namespace Binding

variable {L W : Type} [Named L] [KeyedLoader L W] [Journal W]

/-- A new binding is cloned by its loader, whatever the owner's status. -/
theorem cloneInto_of_ok (owner : Status) (target : String) {t : Tagged L} {w : Watched W}
    {copy l' : L} {b' : W}
    (h : ((KeyedLoader.cloneFor target).run t.val).run w.base = ((.ok copy, l'), b')) :
    ∃ base, (((cloneInto owner target).run { loader := t }).run w) =
      ((.ok { loader := ⟨w.next, copy⟩ }, { loader := { t with val := l' } }),
        w.after base 1 [.loader t.tag (.cloneFor target (.ok w.next))]) := by
  unfold cloneInto
  simp only [StateT.run_bind, StateT.run_get, pure_bind, bne_self_eq_false, Bool.false_and,
    Bool.false_eq_true, if_false, onLoader_run, Tagged.cloneFor_of_ok target h]
  exact ⟨_, rfl⟩

theorem cloneInto_of_error (owner : Status) (target : String) {t : Tagged L} {w : Watched W}
    {e : Failure} {l' : L} {b' : W}
    (h : ((KeyedLoader.cloneFor target).run t.val).run w.base = ((.error e, l'), b')) :
    (((cloneInto owner target).run { loader := t }).run w) =
      ((.error e, { loader := { t with val := l' } }),
        w.after b' 0 [.loader t.tag (.cloneFor target (.error e))]) := by
  unfold cloneInto
  simp only [StateT.run_bind, StateT.run_get, pure_bind, bne_self_eq_false, Bool.false_and,
    Bool.false_eq_true, if_false, onLoader_run, Tagged.cloneFor_of_error target h]
  rfl

/-- Initialising a new binding calls its loader's `init` once; the binding is initialised
exactly when that succeeds. -/
theorem init_watched (cache : String) (t : Tagged L) (w : Watched W) :
    (∃ l' base, (((Binding.init cache).run { loader := t }).run w) =
      ((.ok (), { loader := { t with val := l' }, state := .initialized }),
        w.after base 0 [.loader t.tag (.init cache (.ok ()))])) ∨
    (∃ e l' base, (((Binding.init cache).run { loader := t }).run w) =
      ((.error e, { loader := { t with val := l' } }),
        w.after base 0 [.loader t.tag (.init cache (.error e))])) := by
  unfold Binding.init
  simp only [StateT.run_bind, StateT.run_get, pure_bind, onLoader_run, Tagged.init_run]
  rcases ((KeyedLoader.init (L := L) (W := W) cache).run t.val).run w.base with
    ⟨⟨e | _, l'⟩, b'⟩
  · exact .inr ⟨e, l', b', rfl⟩
  · exact .inl ⟨l', _, rfl⟩

omit [Named L] [Journal W] in
/-- Disposing a binding that is not disposed yet calls its loader's `dispose` once. -/
theorem dispose_watched (b : Binding (Tagged L)) (hb : b.state ≠ .disposed) (w : Watched W) :
    ∃ l' base, ((Binding.dispose.run b).run w) =
      (((), { loader := { b.loader with val := l' }, state := .disposed }),
        w.after base 0 [.loader b.loader.tag .dispose]) := by
  rcases b with ⟨t, st⟩
  unfold Binding.dispose
  cases st with
  | disposed => exact absurd rfl hb
  | _ =>
    simp only [StateT.run_bind, StateT.run_get, pure_bind]
    exact ⟨_, _, rfl⟩

end Binding

/-! ## What disposal retires -/

/-- The sighting of the disposal of a binding's loader, if there is a binding. -/
def Sighting.retiring {L : Type} (b : Option (Binding (Tagged L))) : List Sighting :=
  b.toList.map fun b => .loader b.loader.tag .dispose

/-- The sightings of the disposal of each listener, in order. -/
def Sighting.dismissing {E : Type} (ls : List (Tagged E)) : List Sighting :=
  ls.map fun l => .listener l.tag .dispose

/-! ## Cache lifecycle steps -/

namespace Cache

variable {L E H S W : Type}

section
variable [Named L] [KeyedLoader L W] [Journal W]

/-- Initialising a new cache with a loader that is not initialised calls the loader's `init`
once for the cache's name. The cache is alive either way; the loader is initialised exactly when
`init` succeeds, and otherwise its failure is the initialisation's. -/
theorem exec_initialise_watched {c : Cache (Tagged L) E H S} (hs : c.status = .uninitialized)
    {b : Binding (Tagged L)} (hb : c.binding = some b) (hc : b.state = .constructed)
    (w : Watched W) :
    (∃ l' base, exec initialise c w =
      ((.ok (), { c with status := .alive,
                         binding := some { loader := { b.loader with val := l' },
                                           state := .initialized } }),
        w.after base 0 [.loader b.loader.tag (.init c.name (.ok ()))])) ∨
    (∃ e l' base, exec initialise c w =
      ((.error e, { c with status := .alive,
                           binding := some { loader := { b.loader with val := l' } } }),
        w.after base 0 [.loader b.loader.tag (.init c.name (.error e))])) := by
  rcases b with ⟨t, st⟩
  dsimp only at hc
  subst hc
  rcases Binding.init_watched c.name t w with ⟨l', b', h⟩ | ⟨e, l', b', h⟩
  · rw [exec_initialise_bound hs hb h]
    exact .inl ⟨l', _, rfl⟩
  · rw [exec_initialise_bound hs hb h]
    exact .inr ⟨e, l', _, rfl⟩

/-- Initialising a new cache without a loader calls nothing and leaves it alive. -/
theorem exec_initialise_unbound {c : Cache (Tagged L) E H S} (hs : c.status = .uninitialized)
    (hb : c.binding = none) (w : Watched W) :
    ∃ base, exec initialise c w = ((.ok (), { c with status := .alive }), w.after base 0 []) := by
  rw [exec_initialise_of_none hs hb]
  exact ⟨_, by simp [Watched.after]; rfl⟩

end

/-- Disposing listeners one after another sights each disposal in order and leaves the cache
alone. -/
theorem exec_dismiss [Listener E W] (c : Cache L (Tagged E) H S) :
    ∀ (ls : List (Tagged E)) (w : Watched W), ∃ base,
      exec (ls.forM fun l => monadLift (Listener.dispose (W := Watched W) l)) c w =
        ((.ok (), c), w.after base 0 (Sighting.dismissing ls))
  | [], w => ⟨w.base, by simp [Sighting.dismissing, Watched.after]⟩
  | l :: rest, w => by
    rw [List.forM_eq_forM, List.forM_cons, exec_bind, exec_lift]
    obtain ⟨base, h⟩ := exec_dismiss c rest
      (w.after ((Listener.dispose (W := W) l.val).run w.base).2 0 [.listener l.tag .dispose])
    refine ⟨base, ?_⟩
    rw [← List.forM_eq_forM]
    refine h.trans ?_
    rw [Watched.after_after]
    rfl

variable [Named L] [KeyedLoader L W] [Listener E W] [Handler H W] [Storage S W] [Journal W]

/-- Disposing an operable cache whose loader is not disposed yet disposes that loader, then each
listener in order, then clears the store once; nothing else is called, and no fresh tag is
taken. The cache is left disposed, without loader or listeners. -/
theorem exec_dispose_watched {c : Cache (Tagged L) (Tagged E) H (Tagged S)}
    (hc : c.status.isOperable = true) (hb : ∀ b ∈ c.binding, b.state ≠ .disposed)
    (w : Watched W) :
    ∃ v r base, exec dispose c w =
      ((.ok (), { c with status := .disposed, binding := none, listeners := [],
                         store := { c.store with val := v } }),
        w.after base 0 (Sighting.retiring c.binding ++ Sighting.dismissing c.listeners ++
          [.store c.store.tag (.removeAll r)])) := by
  unfold dispose disposeWith
  rw [releaseListener_noCalls, exec_bind, exec_current]
  dsimp -zeta only
  rw [if_pos hc, exec_bind, exec_modify]
  dsimp -zeta only
  extract_lets finish release
  -- after the loader: the listeners are dismissed, then the store is cleared
  have hrelease : ∀ w₁ : Watched W, ∃ v r base,
      exec (release ()) { c with status := .disposing, binding := none } w₁ =
        ((.ok (), { c with status := .disposed, binding := none, listeners := [],
                           store := { c.store with val := v } }),
          w₁.after base 0 (Sighting.dismissing c.listeners ++
            [.store c.store.tag (.removeAll r)])) := by
    intro w₁
    rw [exec_bind, exec_modify]
    dsimp only
    obtain ⟨b₁, hl⟩ := exec_dismiss { c with status := .disposing, binding := none, listeners := [] }
      c.listeners w₁
    rw [exec_bind, hl]
    dsimp only
    rcases hr : ((Storage.removeAll (S := S) (W := W)).run c.store.val).run b₁ with ⟨⟨r, v⟩, b₂⟩
    rcases ht : ((Storage.takeRemovals (S := S) (W := W)).run v).run b₂ with ⟨⟨rs, v'⟩, b₃⟩
    have h₁ := Tagged.answer_of _ (fun t r => Sighting.store t (.removeAll r)) (t := c.store)
      (w := w₁.after b₁ 0 (Sighting.dismissing c.listeners)) hr
    have h₂ := Tagged.run_of _ (t := { c.store with val := v })
      (w := (w₁.after b₁ 0 (Sighting.dismissing c.listeners)).after b₂ 0
        [.store c.store.tag (.removeAll r)]) ht
    -- the listeners are gone, so the removals the clearing noticed are told to no one
    rw [exec_bind,
      exec_onStore_unheard (c := { c with status := .disposing, binding := none, listeners := [] })
        rfl (Storage.removeAll (S := Tagged S) (W := Watched W)) h₁ h₂]
    dsimp only
    cases r with
    | error e => exact ⟨v', .error e, _, by rw [Watched.after_after]; rfl⟩
    | ok u => exact ⟨v', .ok u, _, by rw [Watched.after_after]; rfl⟩
  cases hcb : c.binding with
  | none =>
    obtain ⟨v, r, base, h⟩ := hrelease w
    exact ⟨v, r, base, by simpa [Sighting.retiring] using h⟩
  | some b =>
    obtain ⟨_, b₁, hd⟩ := Binding.dispose_watched (W := W) b (hb b hcb) w
    rw [exec_bind, release_noCalls, exec_discard, onDetached, exec_lift, hd]
    obtain ⟨v, r, base, h⟩ := hrelease (w.after b₁ 0 [.loader b.loader.tag .dispose])
    refine ⟨v, r, base, ?_⟩
    dsimp only
    rw [h, Watched.after_after]
    rfl

end Cache

end NamedCaches
