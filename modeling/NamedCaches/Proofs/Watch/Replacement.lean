import NamedCaches.Proofs.Watch.Lifecycle
set_option autoImplicit false
/-!
# Replacing a cache's loader

A cache takes a new loader in two ways, each all or nothing.

`registerLoader` takes a loader as it is. A cache that is being or has been torn down refuses it,
and nothing is called. A new cache binds it at once. A live cache first runs the loader's
`init`: if that fails, the failure is the answer, the cache is left exactly as it was and only
that `init` was called; otherwise the loader is bound, initialised.

`attachDeclaredLoader` takes a template, and only while the cache is new; any other cache refuses
it, and nothing is called. The template is asked for one clone for the cache and is then disposed,
whether or not the clone was made; the clone is bound, new, only if it was made, and otherwise the
cache is left as it was.

Whenever a loader is bound, the binding it replaces is disposed. A binding that is disposed
already is not disposed again (`Sighting.releasing`), so these statements hold of every cache,
in every world (`loader_replaced_atomically`).
-/

namespace NamedCaches

/-- The sighting of the disposal of a binding's loader, if there is a binding and it is not
disposed yet: a binding disposes its loader once. -/
def Sighting.releasing {L : Type} (b : Option (Binding (Tagged L))) : List Sighting :=
  Sighting.retiring (b.filter fun b => b.state != .disposed)

@[simp] theorem Sighting.releasing_none {L : Type} :
    Sighting.releasing (none : Option (Binding (Tagged L))) = [] := rfl

/-- A binding that is not disposed yet is released by disposing it. -/
theorem Sighting.releasing_of_live {L : Type} {b : Option (Binding (Tagged L))}
    (hb : ∀ b' ∈ b, b'.state ≠ .disposed) : Sighting.releasing b = Sighting.retiring b := by
  cases b with
  | none => rfl
  | some b' => simp [releasing, Option.filter_some, hb b' rfl]

namespace Binding

variable {L W : Type} [KeyedLoader L W]

/-- Disposing a binding that is disposed already calls nothing. -/
theorem dispose_disposed (b : Binding (Tagged L)) (hb : b.state = .disposed) (w : Watched W) :
    (Binding.dispose.run b).run w = (((), b), w) := by
  rcases b with ⟨t, st⟩
  dsimp only at hb
  subst hb
  rfl

end Binding

namespace Cache

variable {L E H S W : Type}

/-- Logging changes only the world being watched. -/
theorem exec_log_watched [Journal W] (level : Level) (target message : String)
    (c : Cache L E H S) (w : Watched W) :
    exec (log level target message : CacheM L E H S (Watched W) Unit) c w =
      ((.ok (), c), w.after (Journal.write ⟨level, target, message⟩ w.base) 0 []) := by
  simp only [Watched.after, Nat.add_zero, List.append_nil]
  rfl

section
variable [Named L] [KeyedLoader L W] [Journal W]

/-- Installing a binding disposes the one it replaces, unless that one is disposed already. -/
theorem exec_install_watched (b : Binding (Tagged L)) (c : Cache (Tagged L) E H S)
    (w : Watched W) :
    ∃ base, exec (installWith noCalls b) c w =
      ((.ok (), { c with binding := some b }), w.after base 0 (Sighting.releasing c.binding)) := by
  unfold installWith
  rw [exec_bind, exec_current]
  dsimp only
  rw [exec_bind, exec_modify]
  dsimp only
  cases hcb : c.binding with
  | none => exact ⟨w.base, by simp [Sighting.releasing, Sighting.retiring, Watched.after]⟩
  | some b' =>
    dsimp only
    rw [release_noCalls, exec_discard, onDetached, exec_lift]
    by_cases hd : b'.state = .disposed
    · -- a disposed binding is let go of without a call
      refine ⟨w.base, ?_⟩
      rw [Binding.dispose_disposed b' hd]
      simp [Sighting.releasing, Sighting.retiring, Option.filter_some, hd, Watched.after]
    · obtain ⟨_, base, h⟩ := Binding.dispose_watched (W := W) b' hd w
      refine ⟨base, ?_⟩
      rw [h, Sighting.releasing_of_live fun b'' hb'' => Option.some.inj hb'' ▸ hd]
      rfl

/-- A cache that is being or has been torn down refuses a loader, and nothing is called. -/
theorem exec_registerLoader_refused (l : L) {c : Cache L E H S} (hc : c.status.isOperable = false)
    (w : W) :
    exec (registerLoader l) c w =
      ((.error (.illegalState c.name ("`register_loader` not permitted while " ++ c.status.text)),
        c), w) := by
  unfold registerLoader registerLoaderWith
  exact exec_bind_error (exec_checkOperable_refused _ hc)

/-- Registering a loader on a live cache calls its `init` for the cache's name. If that fails the
cache is left as it was; otherwise the loader is bound, initialised, and the one it replaces is
disposed. -/
theorem exec_registerLoader_alive (l : Tagged L) {c : Cache (Tagged L) E H S}
    (hs : c.status = .alive) (w : Watched W) :
    (∃ e base, exec (registerLoader l) c w =
      ((.error e, c), w.after base 0 [.loader l.tag (.init c.name (.error e))])) ∨
    (∃ v base, exec (registerLoader l) c w =
      ((.ok (), { c with binding := some { loader := { l with val := v }, state := .initialized } }),
        w.after base 0 (.loader l.tag (.init c.name (.ok ())) :: Sighting.releasing c.binding))) := by
  unfold registerLoader registerLoaderWith
  rw [exec_bind, exec_checkOperable _ (by rw [hs]; rfl)]
  dsimp only
  rw [exec_bind, exec_current]
  dsimp only
  rw [if_pos (by simp [Cache.isAlive, hs]), exec_bind, exec_noCalls]
  dsimp only
  rw [exec_bind, onDetached, exec_lift]
  rcases Binding.init_watched c.name l w with ⟨v, base, h⟩ | ⟨e, v, base, h⟩
  · rw [h]
    dsimp only
    rw [exec_bind]
    simp only [orFail, exec_pure]
    refine .inr ⟨v, ?_⟩
    rw [exec_bind, exec_pure]
    dsimp only
    rw [exec_bind, exec_log_watched]
    dsimp only
    generalize hw₁ : (w.after base 0 [.loader l.tag (.init c.name (.ok ()))]).after _ 0 [] = w₁
    obtain ⟨base', hi⟩ := exec_install_watched
      { loader := { l with val := v }, state := .initialized } c w₁
    refine ⟨base', ?_⟩
    rw [hi, ← hw₁, Watched.after_after, Watched.after_after]
    rfl
  · -- the failed `init` is the answer, before anything is bound
    rw [h]
    dsimp only
    rw [exec_bind]
    simp only [orFail, exec_throw]
    exact .inl ⟨e, base, rfl⟩

/-- Registering a loader on a new cache binds it as it is, uninitialised, and disposes the one it
replaces. -/
theorem exec_registerLoader_new (l : Tagged L) {c : Cache (Tagged L) E H S}
    (hs : c.status = .uninitialized) (w : Watched W) :
    ∃ base, exec (registerLoader l) c w =
      ((.ok (), { c with binding := some { loader := l } }),
        w.after base 0 (Sighting.releasing c.binding)) := by
  unfold registerLoader registerLoaderWith
  rw [exec_bind, exec_checkOperable _ (by rw [hs]; rfl)]
  dsimp only
  rw [exec_bind, exec_current]
  dsimp only
  rw [if_neg (by simp [Cache.isAlive, hs]), exec_bind, exec_pure]
  dsimp only
  rw [exec_bind, exec_log_watched]
  dsimp only
  obtain ⟨base', hi⟩ := exec_install_watched { loader := l } c
    (w.after (Journal.write ⟨.debug, Target.handle, "Registered loader '" ++
      Binding.name { loader := l } ++ "' on cache '" ++ c.name ++ "'"⟩ w.base) 0 [])
  refine ⟨base', ?_⟩
  rw [hi, Watched.after_after]
  rfl

/-- A cache that is not new takes no declared loader, and nothing is called. -/
theorem exec_attach_refused (t : L) {c : Cache L E H S} (hs : c.status ≠ .uninitialized) (w : W) :
    exec (attachDeclaredLoader t) c w =
      ((.error (.illegalState c.name "declared loaders attach only before initialisation"), c), w) := by
  unfold attachDeclaredLoader attachDeclaredLoaderWith
  rw [exec_bind, exec_current]
  dsimp only
  rw [if_pos (by simpa using hs)]
  exact exec_bind_error rfl

/-- A new cache asks the template for a clone for its name and then disposes the template. A
clone that is made takes the next fresh tag and is bound to the cache, and the loader it replaces
is disposed; if none is made the cache stays as it was. -/
theorem exec_attach_replacing (t : Tagged L) {c : Cache (Tagged L) E H S}
    (hs : c.status = .uninitialized) (w : Watched W) :
    (∃ e base, exec (attachDeclaredLoader t) c w =
      ((.error e, c),
        w.after base 0 [.loader t.tag (.cloneFor c.name (.error e)), .loader t.tag .dispose])) ∨
    (∃ copy base, exec (attachDeclaredLoader t) c w =
      ((.ok (), { c with binding := some { loader := ⟨w.next, copy⟩ } }),
        w.after base 1 (.loader t.tag (.cloneFor c.name (.ok w.next)) :: .loader t.tag .dispose ::
          Sighting.releasing c.binding))) := by
  unfold attachDeclaredLoader attachDeclaredLoaderWith
  rw [exec_bind, exec_current]
  dsimp only
  rw [if_neg (by simp [hs]), exec_bind]
  simp only [onDetached, exec_lift]
  rcases h : ((KeyedLoader.cloneFor (L := L) (W := W) c.name).run t.val).run w.base with
    ⟨⟨e | copy, l'⟩, b'⟩
  · -- the clone failed: the template is still disposed, and the failure is the attachment's
    rw [Binding.cloneInto_of_error _ _ h]
    obtain ⟨_, b'', hd⟩ := Binding.dispose_watched (W := W) { loader := { t with val := l' } }
      (by simp) _
    rw [exec_bind, exec_discard, exec_lift, hd]
    refine .inl ⟨e, b'', ?_⟩
    rw [Watched.after_after]
    rfl
  · obtain ⟨b₁, hc⟩ := Binding.cloneInto_of_ok c.status c.name h
    rw [hc]
    obtain ⟨_, b'', hd⟩ := Binding.dispose_watched (W := W) { loader := { t with val := l' } }
      (by simp) _
    rw [exec_bind, exec_discard, exec_lift, hd]
    simp only [orFail, exec_bind, exec_pure]
    obtain ⟨base', hi⟩ := exec_install_watched { loader := ⟨w.next, copy⟩ } c
      ((w.after b₁ 1 [.loader t.tag (.cloneFor c.name (.ok w.next))]).after b'' 0
        [.loader t.tag .dispose])
    refine .inr ⟨copy, base', ?_⟩
    rw [hi, Watched.after_after, Watched.after_after]
    rfl

/-- Replacing a cache's loader is all or nothing, from every cache in every world.
`registerLoader` refuses a cache that is being or has been torn down; binds the loader as it is on
a new cache; and on a live cache runs the loader's `init` first, answering its failure with the
cache left as it was and only that `init` called, or binding the loader initialised.
`attachDeclaredLoader` refuses every cache but a new one; on a new one it asks the template for one
clone and disposes the template once, and binds the clone, new, only if it was made, leaving the
cache as it was otherwise. A refusal calls nothing and changes nothing, and whenever a loader is
bound the binding it replaces is disposed, unless it was already. -/
theorem loader_replaced_atomically (l t : Tagged L) (c : Cache (Tagged L) E H S) (w : Watched W) :
    (c.status.isOperable = false →
      exec (registerLoader l) c w =
        ((.error (.illegalState c.name ("`register_loader` not permitted while " ++ c.status.text)),
          c), w)) ∧
    (c.status = .uninitialized → ∃ base,
      exec (registerLoader l) c w =
        ((.ok (), { c with binding := some { loader := l } }),
          w.after base 0 (Sighting.releasing c.binding))) ∧
    (c.status = .alive →
      (∃ e base, exec (registerLoader l) c w =
        ((.error e, c), w.after base 0 [.loader l.tag (.init c.name (.error e))])) ∨
      (∃ v base, exec (registerLoader l) c w =
        ((.ok (), { c with binding := some { loader := { l with val := v }, state := .initialized } }),
          w.after base 0 (.loader l.tag (.init c.name (.ok ())) :: Sighting.releasing c.binding)))) ∧
    (c.status ≠ .uninitialized →
      exec (attachDeclaredLoader t) c w =
        ((.error (.illegalState c.name "declared loaders attach only before initialisation"), c),
          w)) ∧
    (c.status = .uninitialized →
      (∃ e base, exec (attachDeclaredLoader t) c w =
        ((.error e, c),
          w.after base 0 [.loader t.tag (.cloneFor c.name (.error e)), .loader t.tag .dispose])) ∨
      (∃ copy base, exec (attachDeclaredLoader t) c w =
        ((.ok (), { c with binding := some { loader := ⟨w.next, copy⟩ } }),
          w.after base 1 (.loader t.tag (.cloneFor c.name (.ok w.next)) :: .loader t.tag .dispose ::
            Sighting.releasing c.binding)))) :=
  ⟨fun hc => exec_registerLoader_refused l hc w, fun hs => exec_registerLoader_new l hs w,
    fun hs => exec_registerLoader_alive l hs w, fun hs => exec_attach_refused t hs w,
    fun hs => exec_attach_replacing t hs w⟩

end

end Cache

end NamedCaches
