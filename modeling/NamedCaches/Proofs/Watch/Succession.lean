import NamedCaches.Proofs.Watch.Lives
import NamedCaches.Proofs.Watch.Ledger
import NamedCaches.Proofs.Watch.Replacement
set_option autoImplicit false
/-!
# Succession of a cache's loaders and listeners

The lifecycle operations are where a cache changes hands: `registerLoader` and
`attachDeclaredLoader` swap in a new loader and dispose the one it replaces (`install`),
`replaceListeners` disposes the listeners it drops, and `dispose` disposes all of them. Each call
keeps what the log owes the collaborators (`CacheCall.Keeps`): what it owed them still holds, the
ones the cache let go of are retired, and only collaborators the call may reach were called. That
holds of every call whose loaders and listeners are new (`CacheCall.Fresh`,
`CacheCall.keeps_step`), and so of every call of a run that hands the cache only new ones
(`CacheCall.Unused`, `CacheCall.steps_keep`).

Read back through the phases, the log of such a run shows each loader initialised at most once,
loaded only after an `init` that succeeded and called no more once disposed, each listener told
nothing once disposed, and each collaborator the cache let go of disposed
(`CacheCall.collaborators_live_in_order`).

Loaders and listeners act on the world only: they cannot call back into the cache, so calls made
from inside a collaborator's `init` or `dispose` are not runs of this model.
-/

namespace NamedCaches

/-! ## What lifecycle operations add to the log -/

namespace Cache

variable {L E H S W : Type}

/-- Registering a listener on an operable cache adds it after the others and calls nothing. -/
theorem exec_registerListener_watched [Named E] [Journal W] (l : E) {c : Cache L E H S}
    (hc : c.status.isOperable = true) (w : Watched W) :
    ∃ base, exec (registerListener l) c w =
      ((.ok (), { c with listeners := c.listeners ++ [l] }), w.after base 0 []) := by
  unfold registerListener
  rw [exec_bind, exec_checkOperable _ hc]
  dsimp only
  rw [exec_bind, exec_current]
  dsimp only
  rw [exec_bind, exec_log_watched]
  dsimp only
  rw [exec_modify]
  exact ⟨_, rfl⟩

/-- Replacing the listeners of an operable cache installs the new ones and then disposes the old
ones in order. -/
theorem exec_replaceListeners_watched [Listener E W] (ls : List (Tagged E))
    {c : Cache L (Tagged E) H S} (hc : c.status.isOperable = true) (w : Watched W) :
    ∃ base, exec (replaceListeners ls) c w =
      ((.ok (), { c with listeners := ls }), w.after base 0 (Sighting.dismissing c.listeners)) := by
  unfold replaceListeners replaceListenersWith
  rw [releaseListener_noCalls, exec_bind, exec_checkOperable _ hc]
  dsimp only
  rw [exec_bind, exec_current]
  dsimp only
  rw [exec_bind, exec_modify]
  dsimp only
  exact exec_dismiss { c with listeners := ls } c.listeners w

end Cache

/-! ## Reading the calls of a step -/

namespace Sighting

@[simp] theorem loaderCall?_loader (t t' : Nat) (c : LoaderCall) :
    loaderCall? t (.loader t' c) = if t' = t then some c else none := rfl

@[simp] theorem loaderCall?_listener (t t' : Nat) (c : ListenerCall) :
    loaderCall? t (.listener t' c) = none := rfl

@[simp] theorem loaderCall?_store (t t' : Nat) (c : StoreCall) :
    loaderCall? t (.store t' c) = none := rfl

@[simp] theorem listenerCall?_listener (t t' : Nat) (c : ListenerCall) :
    listenerCall? t (.listener t' c) = if t' = t then some c else none := rfl

@[simp] theorem listenerCall?_loader (t t' : Nat) (c : LoaderCall) :
    listenerCall? t (.loader t' c) = none := rfl

@[simp] theorem listenerCall?_store (t t' : Nat) (c : StoreCall) :
    listenerCall? t (.store t' c) = none := rfl

@[simp] theorem retiring_none {L : Type} : retiring (none : Option (Binding (Tagged L))) = [] := rfl

@[simp] theorem retiring_some {L : Type} (b : Binding (Tagged L)) :
    retiring (some b) = [.loader b.loader.tag .dispose] := rfl

theorem listenerCalls_retiring {L : Type} (t : Nat) (b : Option (Binding (Tagged L))) :
    listenerCalls t (retiring b) = [] := by
  cases b <;> rfl

theorem loaderCalls_retiring_of_map {L : Type} {b₀ : Option (Binding (Tagged L))} {t : Nat}
    {st : BindingState} (h : b₀.map (fun b => (b.loader.tag, b.state)) = some (t, st)) :
    loaderCalls t (retiring b₀) = [.dispose] := by
  obtain ⟨b, rfl, he⟩ := Option.map_eq_some_iff.1 h
  obtain ⟨rfl, -⟩ := Prod.mk.inj he
  simp

theorem loaderCalls_retiring_of_not_map {L : Type} {b₀ : Option (Binding (Tagged L))} {t : Nat}
    (h : ∀ st, b₀.map (fun b => (b.loader.tag, b.state)) ≠ some (t, st)) :
    loaderCalls t (retiring b₀) = [] := by
  cases b₀ with
  | none => rfl
  | some b =>
    have hne : b.loader.tag ≠ t := fun he => h b.state (by rw [← he]; rfl)
    simp [hne]

theorem dismissing_cons {E : Type} (l : Tagged E) (ls : List (Tagged E)) :
    dismissing (l :: ls) = .listener l.tag .dispose :: dismissing ls := rfl

theorem listenerCalls_dismissing_of_not_mem {E : Type} {t : Nat} :
    ∀ {ls : List (Tagged E)}, t ∉ ls.map Tagged.tag → listenerCalls t (dismissing ls) = []
  | [], _ => rfl
  | l :: ls, ht => by
    simp only [List.map_cons, List.mem_cons, not_or] at ht
    rw [dismissing_cons, listenerCalls_cons, listenerCall?_listener, if_neg fun h => ht.1 h.symm]
    exact listenerCalls_dismissing_of_not_mem ht.2

/-- Each of distinct listeners is disposed once. -/
theorem listenerCalls_dismissing_of_mem {E : Type} {t : Nat} :
    ∀ {ls : List (Tagged E)}, (ls.map Tagged.tag).Nodup → t ∈ ls.map Tagged.tag →
      listenerCalls t (dismissing ls) = [.dispose]
  | [], _, ht => by cases ht
  | l :: ls, hd, ht => by
    simp only [List.map_cons, List.nodup_cons] at hd
    rw [dismissing_cons, listenerCalls_cons, listenerCall?_listener]
    by_cases hl : l.tag = t
    · subst hl
      rw [if_pos rfl, listenerCalls_dismissing_of_not_mem hd.1]
      rfl
    · rw [if_neg hl]
      exact listenerCalls_dismissing_of_mem hd.2
        ((List.mem_cons.1 ht).resolve_left fun h => hl h.symm)

/-- A collaborator that no sighting of a segment calls keeps its phase. -/
theorem loaderPhase_of_untouched {t : Nat} {log seg : List Sighting} (h : loaderCalls t seg = []) :
    loaderPhase t (log ++ seg) = loaderPhase t log := by
  rw [loaderPhase_append, h]
  cases loaderPhase t log <;> rfl

theorem listenerPhase_of_untouched {t : Nat} {log seg : List Sighting}
    (h : listenerCalls t seg = []) : listenerPhase t (log ++ seg) = listenerPhase t log := by
  rw [listenerPhase_append, h]
  cases listenerPhase t log <;> rfl

end Sighting

/-- A bound loader is not retired. -/
theorem BindingState.ne_retired_of_fits {st : BindingState} {s : Status} {p : LoaderPhase}
    (h : st.Fits s p) : p ≠ .retired := by
  rintro rfl
  cases st <;> exact h

/-- Disposing a loader that is not retired retires it. -/
theorem LoaderPhase.next_dispose {p : LoaderPhase} (h : p ≠ .retired) :
    p.next .dispose = some .retired := by
  cases p with
  | retired => exact absurd rfl h
  | _ => rfl

/-! ## What one collaborator is owed after a step -/

section
variable {W : Type} {r r' : Roster} {w w' : Watched W} {seg : List Sighting} {t : Nat}

open Sighting

/-- An empty log owes nothing to a cache with no loader and distinct listeners. -/
theorem Lives.start (w : W) (n : Nat) (hb : r.loader = none) (hd : r.listeners.Nodup) :
    Lives r ⟨w, n, []⟩ :=
  ⟨fun _ => ⟨rfl, fun _ h => (nomatch hb.symm.trans h), fun _ => rfl⟩,
    fun _ => ⟨rfl, fun _ => rfl⟩, hd⟩

namespace LoaderLives

/-- A loader the step did not call, and did not newly bind, keeps what it is owed. -/
theorem untouched (h : LoaderLives r w t) (hw : w'.seen = w.seen ++ seg) (hn : w.next ≤ w'.next)
    (ht : loaderCalls t seg = []) (hb : ∀ st, r'.loader = some (t, st) → r.loader = some (t, st))
    (hfit : ∀ (st : BindingState) p, st.Fits r.status p → st.Fits r'.status p) :
    LoaderLives r' w' t := by
  have hp : loaderPhase t w'.seen = loaderPhase t w.seen := by
    rw [hw]
    exact loaderPhase_of_untouched ht
  refine ⟨by rw [hp]; exact h.phase, fun st hb' => ?_, fun hle => ?_⟩
  · obtain ⟨⟨p, hp', hf⟩, hlt⟩ := h.bound st (hb st hb')
    exact ⟨⟨p, hp.trans hp', hfit st p hf⟩, by omega⟩
  · rw [hw, loaderCalls_append, h.unheard (by omega), ht]
    rfl

/-- The cache's loader, disposed by the step and not bound again, is retired. -/
theorem retire {st : BindingState} (h : LoaderLives r w t) (hb : r.loader = some (t, st))
    (hw : w'.seen = w.seen ++ seg) (hn : w.next ≤ w'.next) (ht : loaderCalls t seg = [.dispose])
    (hb' : ∀ st', r'.loader ≠ some (t, st')) :
    LoaderLives r' w' t ∧ loaderPhase t w'.seen = some .retired := by
  obtain ⟨⟨p, hp, hfit⟩, hlt⟩ := h.bound st hb
  have hret : loaderPhase t w'.seen = some .retired := by
    rw [hw, loaderPhase_append, hp, ht, Option.bind_some, LoaderPhase.after_cons,
      LoaderPhase.next_dispose (BindingState.ne_retired_of_fits hfit)]
    rfl
  exact ⟨⟨by rw [hret]; rfl, fun st' h' => absurd h' (hb' st'), fun hle => by omega⟩, hret⟩

/-- A loader never called before the step, which the step called from a fresh start into phase
`p`. -/
theorem fresh {p : LoaderPhase} (hw : w'.seen = w.seen ++ seg) (h0 : loaderCalls t w.seen = [])
    (hp : LoaderPhase.fresh.after (loaderCalls t seg) = some p)
    (hb : ∀ st, r'.loader = some (t, st) → st.Fits r'.status p ∧ t < w'.next)
    (hu : w'.next ≤ t → loaderCalls t seg = []) : LoaderLives r' w' t := by
  have hp' : loaderPhase t w'.seen = some p := by
    rw [loaderPhase, hw, loaderCalls_append, h0, List.nil_append, hp]
  refine ⟨by rw [hp']; rfl, fun st hb' => ⟨⟨p, hp', (hb st hb').1⟩, (hb st hb').2⟩, fun hle => ?_⟩
  rw [hw, loaderCalls_append, h0, hu hle]
  rfl

end LoaderLives

namespace ListenerLives

/-- A listener the step did not call, and did not newly take, keeps what it is owed. -/
theorem untouched (h : ListenerLives r w t) (hw : w'.seen = w.seen ++ seg)
    (ht : listenerCalls t seg = []) (hm : t ∈ r'.listeners → t ∈ r.listeners) :
    ListenerLives r' w' t := by
  have hp : listenerPhase t w'.seen = listenerPhase t w.seen := by
    rw [hw]
    exact listenerPhase_of_untouched ht
  exact ⟨by rw [hp]; exact h.phase, fun hm' => hp.trans (h.live (hm hm'))⟩

/-- A listener of the cache, disposed by the step and let go, is retired. -/
theorem retire (h : ListenerLives r w t) (hm : t ∈ r.listeners) (hw : w'.seen = w.seen ++ seg)
    (ht : listenerCalls t seg = [.dispose]) (hm' : t ∉ r'.listeners) :
    ListenerLives r' w' t ∧ listenerPhase t w'.seen = some .retired := by
  have hret : listenerPhase t w'.seen = some .retired := by
    rw [hw, listenerPhase_append, h.live hm, ht]
    rfl
  exact ⟨⟨by rw [hret]; rfl, fun h' => absurd h' hm'⟩, hret⟩

/-- A listener never called, before or during the step, is live. -/
theorem fresh (hw : w'.seen = w.seen ++ seg) (h0 : listenerCalls t w.seen = [])
    (ht : listenerCalls t seg = []) : ListenerLives r' w' t := by
  have hp : listenerPhase t w'.seen = some .live := by
    rw [listenerPhase, hw, listenerCalls_append, h0, ht]
    rfl
  exact ⟨by rw [hp]; rfl, fun _ => hp⟩

end ListenerLives

end

/-! ## What a call keeps -/

namespace CacheCall

variable {L E W : Type}

/-- The tags of the loaders a call hands a cache. -/
def loaderTags : CacheCall (Tagged L) (Tagged E) → List Nat
  | .registerLoader l | .attachDeclaredLoader l => [l.tag]
  | _ => []

/-- The tags of the listeners a call hands a cache. -/
def listenerTags : CacheCall (Tagged L) (Tagged E) → List Nat
  | .registerListener l => [l.tag]
  | .replaceListeners ls => ls.map Tagged.tag
  | _ => []

open Sighting

/-- The loaders and listeners a call hands a cache with roster `r` are new: no loader among them
received a call, each is below the next fresh tag and is not the cache's; the listeners are
distinct, never called and not the cache's. -/
structure Fresh (call : CacheCall (Tagged L) (Tagged E)) (r : Roster) (w : Watched W) : Prop where
  loaders : ∀ t ∈ call.loaderTags, t < w.next ∧ loaderCalls t w.seen = [] ∧ ∀ st, r.loader ≠ some (t, st)
  listeners : ∀ t ∈ call.listenerTags, listenerCalls t w.seen = [] ∧ t ∉ r.listeners
  distinct : call.listenerTags.Nodup

/-- The loaders and listeners a program hands a cache over all its calls are new, and no two are
the same. -/
structure Unused (calls : List (CacheCall (Tagged L) (Tagged E))) (r : Roster) (w : Watched W) :
    Prop where
  fresh : ∀ call ∈ calls, call.Fresh r w
  loaders : (calls.flatMap loaderTags).Nodup
  listeners : (calls.flatMap listenerTags).Nodup

/-- The loaders a call may reach on a cache with roster `r`, when the next fresh tag is `n`: the
cache's own, the one the call hands it, and clones it makes with fresh tags. -/
def Reaches (call : CacheCall (Tagged L) (Tagged E)) (r : Roster) (n t : Nat) : Prop :=
  (∃ st, r.loader = some (t, st)) ∨ t ∈ call.loaderTags ∨ n ≤ t

/-- What a call from a cache with roster `r` in world `w`, leaving roster `r'` in world `w'`,
keeps of the lives of the collaborators: the log still owes each what it owes; those the cache
let go are retired; and it touched only the collaborators it may reach. -/
structure Keeps (call : CacheCall (Tagged L) (Tagged E)) (r : Roster) (w : Watched W) (r' : Roster)
    (w' : Watched W) : Prop where
  lives : Lives r' w'
  retires_loader : ∀ t st, r.loader = some (t, st) → (∀ st', r'.loader ≠ some (t, st')) →
    loaderPhase t w'.seen = some .retired
  retires_listeners : ∀ t ∈ r.listeners, t ∉ r'.listeners → listenerPhase t w'.seen = some .retired
  next_le : w.next ≤ w'.next
  touched : ∃ seg, w'.seen = w.seen ++ seg ∧ (∀ t, loaderCalls t seg ≠ [] → call.Reaches r w.next t) ∧
    ∀ t, listenerCalls t seg ≠ [] → t ∈ r.listeners
  loader : ∀ t st, r'.loader = some (t, st) → call.Reaches r w.next t
  listeners : ∀ t ∈ r'.listeners, t ∈ r.listeners ∨ t ∈ call.listenerTags

/-- A call that changed nothing keeps everything. -/
theorem keeps_self (call : CacheCall (Tagged L) (Tagged E)) {r : Roster} {w : Watched W}
    (hl : Lives r w) : call.Keeps r w r w := by
  refine ⟨hl, fun t st hb hn => absurd hb (hn st), fun t ht hn => absurd ht hn, Nat.le_refl _,
    ⟨[], by simp, fun t h => absurd rfl h, fun t h => absurd rfl h⟩,
    fun t st hb => .inl ⟨st, hb⟩, fun t ht => .inl ht⟩

/-- A call that adds only routine sightings, takes no fresh tag and keeps the roster keeps
everything. -/
theorem keeps_routine (call : CacheCall (Tagged L) (Tagged E)) {r : Roster} {w w' : Watched W}
    {seg : List Sighting} (hl : Lives r w) (hw : w'.seen = w.seen ++ seg) (hn : w'.next = w.next)
    (hs : Routine r seg) : call.Keeps r w r w' := by
  refine ⟨hl.routine hw hn hs, fun t st hb hn => absurd hb (hn st), fun t ht hn => absurd ht hn,
    Nat.le_of_eq hn.symm, ⟨seg, hw, fun t h => ?_, fun t h => ?_⟩,
    fun t st hb => .inl ⟨st, hb⟩, fun t ht => .inl ht⟩
  · obtain ⟨c, hc⟩ := List.exists_mem_of_ne_nil _ h
    exact .inl ⟨_, (hs.loaderCalls hc).2⟩
  · obtain ⟨c, hc⟩ := List.exists_mem_of_ne_nil _ h
    exact (hs.listenerCalls hc).2

variable {call : CacheCall (Tagged L) (Tagged E)} {r : Roster} {w w' : Watched W}
  {seg : List Sighting}

/-- A step that only calls loaders the call hands the cache, each into some phase, and keeps the
roster. -/
theorem keeps_touch (hl : Lives r w) (hf : call.Fresh r w) (hw : w'.seen = w.seen ++ seg)
    (hn : w.next ≤ w'.next) (hbound : ∀ t st, r.loader = some (t, st) → loaderCalls t seg = [])
    (hgiven : ∀ t, (∀ st, r.loader ≠ some (t, st)) → loaderCalls t seg ≠ [] →
      t ∈ call.loaderTags ∧ (LoaderPhase.fresh.after (loaderCalls t seg)).isSome)
    (hlisten : ∀ t, listenerCalls t seg = []) : call.Keeps r w r w' := by
  -- a loader is either the cache's, untouched, or one the call hands over
  have hcases : ∀ t, loaderCalls t seg = [] ∨
      ((∀ st, r.loader ≠ some (t, st)) ∧ t ∈ call.loaderTags ∧
        (LoaderPhase.fresh.after (loaderCalls t seg)).isSome) := fun t => by
    by_cases hb : ∃ st, r.loader = some (t, st)
    · obtain ⟨st, hb⟩ := hb
      exact .inl (hbound t st hb)
    · by_cases hc : loaderCalls t seg = []
      · exact .inl hc
      · have hfree : ∀ st, r.loader ≠ some (t, st) := fun st h => hb ⟨st, h⟩
        exact .inr ⟨hfree, hgiven t hfree hc⟩
  refine ⟨⟨fun t => ?_, fun t => (hl.listeners t).untouched hw (hlisten t) id, hl.distinct⟩,
    fun t st hb hn' => absurd hb (hn' st), fun t ht hn' => absurd ht hn', hn,
    ⟨seg, hw, fun t ht => ?_, fun t ht => absurd (hlisten t) ht⟩,
    fun t st hb => .inl ⟨st, hb⟩, fun t ht => .inl ht⟩
  · rcases hcases t with hc | ⟨hfree, hgive, hsome⟩
    · exact (hl.loaders t).untouched hw hn hc (fun _ h => h) fun _ _ h => h
    · obtain ⟨hlt, h₀, -⟩ := hf.loaders t hgive
      obtain ⟨p, hp⟩ := Option.isSome_iff_exists.1 hsome
      exact LoaderLives.fresh hw h₀ hp (fun st hb => absurd hb (hfree st)) fun hle => by omega
  · rcases hcases t with hc | ⟨-, hgive, -⟩
    · exact absurd hc ht
    · exact .inr (.inl hgive)

/-- A step that binds a new loader `t₀` into phase `p₀`, disposes the cache's loader, and
otherwise only calls loaders the call hands the cache, each into some phase. -/
theorem keeps_rebind {t₀ : Nat} {st₀ : BindingState} {p₀ : LoaderPhase} (hl : Lives r w)
    (hf : call.Fresh r w) (hw : w'.seen = w.seen ++ seg) (hn : w.next ≤ w'.next)
    (h₀ : loaderCalls t₀ w.seen = []) (hlt₀ : t₀ < w'.next) (hfree₀ : ∀ st, r.loader ≠ some (t₀, st))
    (hp₀ : LoaderPhase.fresh.after (loaderCalls t₀ seg) = some p₀) (hfit₀ : st₀.Fits r.status p₀)
    (hreach₀ : t₀ ∈ call.loaderTags ∨ w.next ≤ t₀)
    (hold : ∀ t st, r.loader = some (t, st) → loaderCalls t seg = [.dispose])
    (hgiven : ∀ t, t ≠ t₀ → (∀ st, r.loader ≠ some (t, st)) → loaderCalls t seg ≠ [] →
      t ∈ call.loaderTags ∧ (LoaderPhase.fresh.after (loaderCalls t seg)).isSome)
    (hlisten : ∀ t, listenerCalls t seg = []) :
    call.Keeps r w { r with loader := some (t₀, st₀) } w' := by
  have hne : ∀ t st, r.loader = some (t, st) → t ≠ t₀ := fun t st hb he => hfree₀ st (he ▸ hb)
  have hnew : ∀ t st, ({ r with loader := some (t₀, st₀) } : Roster).loader = some (t, st) →
      t = t₀ := fun t st h => (Prod.mk.inj (Option.some.inj h)).1.symm
  -- the cache's old loader is retired
  have hretire : ∀ t st, r.loader = some (t, st) →
      LoaderLives { r with loader := some (t₀, st₀) } w' t ∧ loaderPhase t w'.seen = some .retired :=
    fun t st hb => (hl.loaders t).retire hb hw hn (hold t st hb) fun st' h => hne t st hb (hnew t st' h)
  refine ⟨⟨fun t => ?_, fun t => (hl.listeners t).untouched hw (hlisten t) id, hl.distinct⟩,
    fun t st hb _ => (hretire t st hb).2, fun t ht hn' => absurd ht hn', hn,
    ⟨seg, hw, fun t ht => ?_, fun t ht => absurd (hlisten t) ht⟩,
    fun t st hb => ?_, fun t ht => .inl ht⟩
  · by_cases ht₀ : t = t₀
    · subst ht₀
      refine LoaderLives.fresh hw h₀ hp₀ (fun st hb => ⟨?_, hlt₀⟩) fun hle => by omega
      obtain ⟨-, rfl⟩ := Prod.mk.inj (Option.some.inj hb)
      exact hfit₀
    by_cases hb : ∃ st, r.loader = some (t, st)
    · obtain ⟨st, hb⟩ := hb
      exact (hretire t st hb).1
    have hfree : ∀ st, r.loader ≠ some (t, st) := fun st h => hb ⟨st, h⟩
    by_cases hc : loaderCalls t seg = []
    · exact (hl.loaders t).untouched hw hn hc (fun st h => absurd (hnew t st h) ht₀) fun _ _ h => h
    · obtain ⟨hgive, hsome⟩ := hgiven t ht₀ hfree hc
      obtain ⟨hlt, hc₀, -⟩ := hf.loaders t hgive
      obtain ⟨p, hp⟩ := Option.isSome_iff_exists.1 hsome
      exact LoaderLives.fresh hw hc₀ hp (fun st h => absurd (hnew t st h) ht₀) fun hle => by omega
  · by_cases ht₀ : t = t₀
    · subst ht₀
      exact .inr hreach₀
    by_cases hb : ∃ st, r.loader = some (t, st)
    · exact .inl hb
    · exact .inr (.inl (hgiven t ht₀ (fun st h => hb ⟨st, h⟩) ht).1)
  · rw [hnew t st hb]
    exact .inr hreach₀

/-- A fit that holds while a cache is new holds in every status. -/
theorem fits_of_uninitialized {st : BindingState} {p : LoaderPhase} {s : Status}
    (h : st.Fits .uninitialized p) : st.Fits s p := by
  cases st <;> cases p <;> simp_all [BindingState.Fits]

/-- A fit that holds once a cache has left `uninitialized` holds in every later status. -/
theorem fits_of_ne_uninitialized {st : BindingState} {p : LoaderPhase} {s s' : Status}
    (h : st.Fits s p) (hs' : s' ≠ .uninitialized) : st.Fits s' p := by
  cases st <;> cases p <;> simp_all [BindingState.Fits]

/-- Initialising a new cache without a loader calls nothing. -/
theorem keeps_initialise_unbound (hl : Lives r w) (hs : r.status = .uninitialized)
    (hb : r.loader = none) (hw : w'.seen = w.seen) (hn : w'.next = w.next) :
    (CacheCall.initialise : CacheCall (Tagged L) (Tagged E)).Keeps r w
      { r with status := .alive } w' := by
  have hw' : w'.seen = w.seen ++ [] := by rw [hw, List.append_nil]
  refine ⟨⟨fun t => ?_, fun t => (hl.listeners t).untouched hw' rfl id, hl.distinct⟩,
    fun t st hb' _ => ?_, fun t ht hn' => absurd ht hn', Nat.le_of_eq hn.symm,
    ⟨[], hw', fun t h => absurd rfl h, fun t h => absurd rfl h⟩,
    fun t st h => ?_, fun t ht => .inl ht⟩
  · exact (hl.loaders t).untouched hw' (Nat.le_of_eq hn.symm) rfl (fun _ h => h)
      fun st p h => by rw [hs] at h; exact fits_of_uninitialized h
  · exact (Option.some_ne_none _ (hb'.symm.trans hb)).elim
  · exact (Option.some_ne_none _ (h.symm.trans hb)).elim

/-- Initialising a new cache calls its loader's `init` once; the loader is then ready or has
refused, as its binding's state says. -/
theorem keeps_initialise_bound {t : Nat} {st st' : BindingState} {p' : LoaderPhase} {name : String}
    {res : Except Failure Unit} (hl : Lives r w) (hs : r.status = .uninitialized)
    (hb : r.loader = some (t, st)) (hw : w'.seen = w.seen ++ [.loader t (.init name res)])
    (hn : w'.next = w.next) (hp' : LoaderPhase.fresh.next (.init name res) = some p')
    (hfit : st'.Fits .alive p') :
    (CacheCall.initialise : CacheCall (Tagged L) (Tagged E)).Keeps r w
      ⟨.alive, some (t, st'), r.listeners⟩ w' := by
  have hcalls : ∀ t', loaderCalls t' [.loader t (.init name res)] =
      if t = t' then [.init name res] else [] := fun t' => by
    by_cases h : t = t' <;> simp [h]
  have hnew : ∀ t'' st'', (⟨.alive, some (t, st'), r.listeners⟩ : Roster).loader = some (t'', st'') →
      t'' = t ∧ st'' = st' := fun t'' st'' h => by
    obtain ⟨h₁, h₂⟩ := Prod.mk.inj (Option.some.inj h)
    exact ⟨h₁.symm, h₂.symm⟩
  refine ⟨⟨fun t'' => ?_, fun t'' => (hl.listeners t'').untouched hw (by simp) id, hl.distinct⟩,
    fun t'' st'' hb'' hn'' => ?_, fun t'' ht hn'' => absurd ht hn'',
    Nat.le_of_eq hn.symm, ⟨_, hw, fun t'' h => ?_, fun t'' h => absurd (by simp) h⟩,
    fun t'' st'' h => .inl ⟨st, by rw [(hnew t'' st'' h).1, hb]⟩, fun t'' ht => .inl ht⟩
  · obtain ⟨⟨p, hp, hfit₀⟩, hlt⟩ := (hl.loaders t).bound st hb
    by_cases ht : t'' = t
    · subst ht
      -- a new cache's loader is still fresh, so its `init` is allowed
      have hfresh : p = .fresh := BindingState.eq_fresh_of_fits (hs ▸ hfit₀)
      have hphase : loaderPhase t'' w'.seen = some p' := by
        rw [hw, loaderPhase_append, hp, hfresh, hcalls, if_pos rfl]
        simp [hp']
      refine ⟨by rw [hphase]; rfl, fun st'' h => ?_, fun hle => by omega⟩
      obtain ⟨-, rfl⟩ := hnew t'' st'' h
      exact ⟨⟨p', hphase, hfit⟩, by omega⟩
    · exact (hl.loaders t'').untouched hw (Nat.le_of_eq hn.symm)
        (by rw [hcalls, if_neg fun h => ht h.symm]) (fun st'' h => absurd (hnew t'' st'' h).1 ht)
        fun _ _ h => by rw [hs] at h; exact fits_of_uninitialized h
  · -- the loader stays bound
    rw [hb] at hb''
    obtain ⟨rfl, -⟩ := Prod.mk.inj (Option.some.inj hb'')
    exact absurd rfl (hn'' st')
  · by_cases ht : t'' = t
    · exact .inl ⟨st, by rw [ht, hb]⟩
    · exact absurd (by rw [hcalls, if_neg fun h => ht h.symm]) h

/-- Disposing an operable cache disposes its loader and each of its listeners once, and lets them
all go. -/
theorem keeps_disposal {b₀ : Option (Binding (Tagged L))} {ls : List (Tagged E)} {t₀ : Nat}
    {res : Except Failure Unit} (hl : Lives r w) (hb₀ : r.loader = b₀.map fun b => (b.loader.tag, b.state))
    (hls : r.listeners = ls.map Tagged.tag)
    (hw : w'.seen = w.seen ++ (retiring b₀ ++ dismissing ls ++ [.store t₀ (.removeAll res)]))
    (hn : w'.next = w.next) :
    (CacheCall.dispose : CacheCall (Tagged L) (Tagged E)).Keeps r w ⟨.disposed, none, []⟩ w' := by
  have hloader : ∀ t, loaderCalls t (retiring b₀ ++ dismissing ls ++ [.store t₀ (.removeAll res)]) =
      loaderCalls t (retiring b₀) := fun t => by
    simp [loaderCalls_dismissing]
  have hlistener : ∀ t, listenerCalls t (retiring b₀ ++ dismissing ls ++
      [.store t₀ (.removeAll res)]) = listenerCalls t (dismissing ls) := fun t => by
    simp [listenerCalls_retiring]
  have hbound : ∀ t st, r.loader = some (t, st) →
      loaderCalls t (retiring b₀) = [.dispose] := fun t st hb => by
    rw [hb₀] at hb
    obtain ⟨b, rfl, he⟩ := Option.map_eq_some_iff.1 hb
    obtain ⟨rfl, -⟩ := Prod.mk.inj he
    simp
  have hfree : ∀ t, (∀ st, r.loader ≠ some (t, st)) → loaderCalls t (retiring b₀) = [] :=
    fun t ht => by
      cases b₀ with
      | none => rfl
      | some b =>
        have hne : b.loader.tag ≠ t := fun he => ht b.state (by rw [hb₀, ← he]; rfl)
        simp [hne]
  have hd : (ls.map Tagged.tag).Nodup := hls ▸ hl.distinct
  -- the loader and every listener are disposed once and let go
  have hretire : ∀ t st, r.loader = some (t, st) →
      LoaderLives (⟨.disposed, none, []⟩ : Roster) w' t ∧ loaderPhase t w'.seen = some .retired :=
    fun t st hb => (hl.loaders t).retire hb hw (Nat.le_of_eq hn.symm)
      (by rw [hloader, hbound t st hb]) fun _ h => nomatch h
  have hdismiss : ∀ t ∈ r.listeners,
      ListenerLives (⟨.disposed, none, []⟩ : Roster) w' t ∧ listenerPhase t w'.seen = some .retired :=
    fun t ht => (hl.listeners t).retire ht hw
      (by rw [hlistener, listenerCalls_dismissing_of_mem hd (hls ▸ ht)]) List.not_mem_nil
  refine ⟨⟨fun t => ?_, fun t => ?_, List.nodup_nil⟩, fun t st hb _ => (hretire t st hb).2,
    fun t ht _ => (hdismiss t ht).2, Nat.le_of_eq hn.symm, ⟨_, hw, fun t h => ?_, fun t h => ?_⟩,
    fun t st h => (nomatch h), fun t ht => absurd ht List.not_mem_nil⟩
  · by_cases hb : ∃ st, r.loader = some (t, st)
    · obtain ⟨st, hb⟩ := hb
      exact (hretire t st hb).1
    · exact (hl.loaders t).untouched hw (Nat.le_of_eq hn.symm)
        (by rw [hloader, hfree t fun st h => hb ⟨st, h⟩]) (fun _ h => nomatch h)
        fun _ _ h => fits_of_ne_uninitialized h nofun
  · by_cases ht : t ∈ r.listeners
    · exact (hdismiss t ht).1
    · exact (hl.listeners t).untouched hw
        (by rw [hlistener, listenerCalls_dismissing_of_not_mem (hls ▸ ht)]) fun h => absurd h List.not_mem_nil
  · by_cases hb : ∃ st, r.loader = some (t, st)
    · exact .inl hb
    · exact absurd (by rw [hloader, hfree t fun st h => hb ⟨st, h⟩]) h
  · by_cases ht : t ∈ r.listeners
    · exact ht
    · exact absurd (by rw [hlistener, listenerCalls_dismissing_of_not_mem (hls ▸ ht)]) h

/-- A listener registered on an operable cache joins the others, and nothing is called. -/
theorem keeps_registerListener {l : Tagged E} (hl : Lives r w)
    (hf : (CacheCall.registerListener l : CacheCall (Tagged L) (Tagged E)).Fresh r w)
    (hw : w'.seen = w.seen) (hn : w'.next = w.next) :
    (CacheCall.registerListener l : CacheCall (Tagged L) (Tagged E)).Keeps r w
      { r with listeners := r.listeners ++ [l.tag] } w' := by
  obtain ⟨h₀, hout⟩ := hf.listeners l.tag (List.mem_singleton_self _)
  have hw' : w'.seen = w.seen ++ [] := by rw [hw, List.append_nil]
  refine ⟨⟨fun t => (hl.loaders t).untouched hw' (Nat.le_of_eq hn.symm) rfl (fun _ h => h)
      fun _ _ h => h, fun t => ?_, ?_⟩, fun t st hb hn' => absurd hb (hn' st),
    fun t ht hn' => absurd (List.mem_append_left _ ht) hn', Nat.le_of_eq hn.symm,
    ⟨[], hw', fun t h => absurd rfl h, fun t h => absurd rfl h⟩,
    fun t st hb => .inl ⟨st, hb⟩, fun t ht => ?_⟩
  · by_cases ht : t = l.tag
    · subst ht
      exact ListenerLives.fresh hw' h₀ rfl
    · exact (hl.listeners t).untouched hw' rfl fun hm =>
        (List.mem_append.1 hm).resolve_right fun h => ht (List.mem_singleton.1 h)
  · exact List.nodup_append.2 ⟨hl.distinct, List.nodup_cons.2 ⟨List.not_mem_nil, List.nodup_nil⟩,
      fun a ha b hb he => hout (by rw [← List.mem_singleton.1 hb, ← he]; exact ha)⟩
  · rcases List.mem_append.1 ht with ht | ht
    · exact .inl ht
    · exact .inr ht

/-- Replacing the listeners of an operable cache disposes each old one once and lets it go; the
new ones are live. -/
theorem keeps_replaceListeners {ls olds : List (Tagged E)} (hl : Lives r w)
    (hf : (CacheCall.replaceListeners ls : CacheCall (Tagged L) (Tagged E)).Fresh r w)
    (hls : r.listeners = olds.map Tagged.tag) (hw : w'.seen = w.seen ++ dismissing olds)
    (hn : w'.next = w.next) :
    (CacheCall.replaceListeners ls : CacheCall (Tagged L) (Tagged E)).Keeps r w
      { r with listeners := ls.map Tagged.tag } w' := by
  have hd : (olds.map Tagged.tag).Nodup := hls ▸ hl.distinct
  -- an old listener is not one of the new ones
  have hold : ∀ t ∈ r.listeners, t ∉ ls.map Tagged.tag := fun t ht hnew =>
    (hf.listeners t hnew).2 ht
  have hretire : ∀ t ∈ r.listeners,
      ListenerLives { r with listeners := ls.map Tagged.tag } w' t ∧
        listenerPhase t w'.seen = some .retired := fun t ht =>
    (hl.listeners t).retire ht hw (listenerCalls_dismissing_of_mem hd (hls ▸ ht)) (hold t ht)
  refine ⟨⟨fun t => (hl.loaders t).untouched hw (Nat.le_of_eq hn.symm)
      (loaderCalls_dismissing t olds) (fun _ h => h) fun _ _ h => h, fun t => ?_, hf.distinct⟩,
    fun t st hb hn' => absurd hb (hn' st), fun t ht _ => (hretire t ht).2, Nat.le_of_eq hn.symm,
    ⟨_, hw, fun t h => absurd (loaderCalls_dismissing t olds) h, fun t h => ?_⟩,
    fun t st hb => .inl ⟨st, hb⟩, fun t ht => .inr ht⟩
  · by_cases ht : t ∈ r.listeners
    · exact (hretire t ht).1
    · have hcalls : listenerCalls t (dismissing olds) = [] :=
        listenerCalls_dismissing_of_not_mem (hls ▸ ht)
      by_cases hnew : t ∈ ls.map Tagged.tag
      · exact ListenerLives.fresh hw (hf.listeners t hnew).1 hcalls
      · exact (hl.listeners t).untouched hw hcalls fun h => absurd h hnew
  · by_cases ht : t ∈ r.listeners
    · exact ht
    · exact absurd (listenerCalls_dismissing_of_not_mem (hls ▸ ht)) h

end CacheCall

/-! ## Each call keeps the lives -/

/-- A cache's loader is never disposed while bound. -/
theorem Lives.bound_not_disposed {L E H S W : Type} {c : Cache (Tagged L) (Tagged E) H S}
    {w : Watched W} (hl : Lives c.roster w) : ∀ b ∈ c.binding, b.state ≠ .disposed :=
  fun b hb hd => by
    have hr : c.roster.loader = some (b.loader.tag, b.state) := by
      simp [Cache.roster, Option.mem_def.1 hb]
    obtain ⟨⟨p, -, hfit⟩, -⟩ := (hl.loaders _).bound _ hr
    rw [hd] at hfit
    exact hfit

namespace Cache

variable {L E H S W : Type} {c : Cache (Tagged L) (Tagged E) H (Tagged S)} {w : Watched W}

open Sighting CacheCall

section
variable [Named L] [KeyedLoader L W] [Journal W]

theorem keeps_registerLoader (l : Tagged L) (hl : Lives c.roster w)
    (hf : (CacheCall.registerLoader l : CacheCall (Tagged L) (Tagged E)).Fresh c.roster w)
    (hop : c.status.isOperable = true) :
    (CacheCall.registerLoader l : CacheCall (Tagged L) (Tagged E)).Keeps c.roster w
      (exec (registerLoader l) c w).1.2.roster (exec (registerLoader l) c w).2 := by
  obtain ⟨hlt, h₀, hfree₀⟩ := hf.loaders l.tag (List.mem_singleton_self _)
  have hmem : l.tag ∈ (CacheCall.registerLoader l : CacheCall (Tagged L) (Tagged E)).loaderTags :=
    List.mem_singleton_self _
  -- the cache's loader, if any, is not the new one
  have hold : ∀ t st, c.roster.loader = some (t, st) → t ≠ l.tag :=
    fun t st hb he => hfree₀ st (he ▸ hb)
  have hbd := hl.bound_not_disposed
  by_cases hs : c.status = .alive
  · rcases exec_registerLoader_alive l hs w with ⟨e, base, h⟩ | ⟨v, base, h⟩
    · -- a failed `init` leaves the loader refused and unbound
      rw [h]
      refine keeps_touch hl hf rfl (Nat.le_refl _) (fun t st hb => ?_) (fun t _ ht => ?_)
        fun t => by simp
      · simp [Ne.symm (hold t st hb)]
      · by_cases htl : l.tag = t
        · subst htl
          exact ⟨hmem, by simp⟩
        · simp [htl] at ht
    · rw [Sighting.releasing_of_live hbd] at h
      rw [h]
      have hfit : BindingState.initialized.Fits c.roster.status .ready := by
        show c.status ≠ .uninitialized
        rw [hs]
        exact nofun
      refine keeps_rebind hl hf rfl (Nat.le_refl _) h₀ hlt hfree₀ ?_
        hfit (.inl hmem) (fun t st hb => ?_) (fun t ht hfree hc => ?_)
        fun t => by simp [listenerCalls_retiring]
      · simp [loaderCalls_retiring_of_not_map fun st h => hfree₀ st h]
      · simp [Ne.symm (hold t st hb), loaderCalls_retiring_of_map hb]
      · simp [Ne.symm ht, loaderCalls_retiring_of_not_map fun st h => hfree st h] at hc
  · have hnew : c.status = .uninitialized := by
      cases hst : c.status <;> simp_all [Status.isOperable]
    obtain ⟨base, h⟩ := exec_registerLoader_new l hnew w
    rw [Sighting.releasing_of_live hbd] at h
    rw [h]
    refine keeps_rebind hl hf rfl (Nat.le_refl _) h₀ hlt hfree₀ ?_
      (show BindingState.constructed.Fits _ .fresh from trivial)
      (.inl hmem) (fun t st hb => ?_) (fun t ht hfree hc => ?_) fun t => by simp [listenerCalls_retiring]
    · simp [loaderCalls_retiring_of_not_map fun st h => hfree₀ st h]
    · simp [loaderCalls_retiring_of_map hb]
    · simp [loaderCalls_retiring_of_not_map fun st h => hfree st h] at hc

theorem keeps_attachDeclaredLoader (t : Tagged L) (hl : Lives c.roster w)
    (hf : (CacheCall.attachDeclaredLoader t : CacheCall (Tagged L) (Tagged E)).Fresh c.roster w) :
    (CacheCall.attachDeclaredLoader t : CacheCall (Tagged L) (Tagged E)).Keeps c.roster w
      (exec (attachDeclaredLoader t) c w).1.2.roster (exec (attachDeclaredLoader t) c w).2 := by
  obtain ⟨hlt, h₀, hfree₀⟩ := hf.loaders t.tag (List.mem_singleton_self _)
  have hmem : t.tag ∈ (CacheCall.attachDeclaredLoader t : CacheCall (Tagged L) (Tagged E)).loaderTags :=
    List.mem_singleton_self _
  have hold : ∀ t' st, c.roster.loader = some (t', st) → t' ≠ t.tag :=
    fun t' st hb he => hfree₀ st (he ▸ hb)
  by_cases hs : c.status = .uninitialized
  · rcases exec_attach_replacing t hs w with ⟨e, base, h⟩ | ⟨copy, base, h⟩
    · -- no clone: the template is cloned, then disposed, and the cache is left as it was
      rw [h]
      refine keeps_touch hl hf rfl (Nat.le_refl _) (fun t' st hb => ?_) (fun t' _ ht => ?_)
        fun t' => by simp
      · simp [Ne.symm (hold t' st hb)]
      · by_cases htl : t.tag = t'
        · subst htl
          exact ⟨hmem, by simp; rfl⟩
        · simp [htl] at ht
    · -- the clone takes the next fresh tag, which no sighting has mentioned
      rw [Sighting.releasing_of_live hl.bound_not_disposed] at h
      rw [h]
      have hnext : ∀ st, c.roster.loader ≠ some (w.next, st) := fun st hb =>
        absurd ((hl.loaders _).bound st hb).2 (Nat.lt_irrefl _)
      refine keeps_rebind hl hf rfl (Nat.le_add_right _ _)
        ((hl.loaders w.next).unheard (Nat.le_refl _)) (Nat.lt_succ_self _) hnext ?_
        (show BindingState.constructed.Fits _ .fresh from trivial)
        (.inr (Nat.le_refl _)) (fun t' st hb => ?_) (fun t' ht hfree hc => ?_)
        fun t' => by simp [listenerCalls_retiring]
      · simp [Nat.ne_of_lt hlt, loaderCalls_retiring_of_not_map fun st h => hnext st h]
      · simp [Ne.symm (hold t' st hb), loaderCalls_retiring_of_map hb]
      · by_cases htl : t.tag = t'
        · subst htl
          exact ⟨hmem, by simp [loaderCalls_retiring_of_not_map fun st h => hfree st h]; rfl⟩
        · simp [htl, loaderCalls_retiring_of_not_map fun st h => hfree st h] at hc
  · rw [exec_attach_refused t hs w]
    exact keeps_self _ hl

theorem keeps_initialise (hl : Lives c.roster w) :
    (CacheCall.initialise : CacheCall (Tagged L) (Tagged E)).Keeps c.roster w
      (exec initialise c w).1.2.roster (exec initialise c w).2 := by
  by_cases hs : c.status = .uninitialized
  · cases hb : c.binding with
    | none =>
      obtain ⟨base, h⟩ := exec_initialise_unbound hs hb w
      rw [h]
      exact keeps_initialise_unbound hl hs (by simp [Cache.roster, hb]) (List.append_nil _) rfl
    | some b =>
      have hr : c.roster.loader = some (b.loader.tag, b.state) := by simp [Cache.roster, hb]
      -- the loader of a new cache is constructed
      have hc : b.state = .constructed := by
        obtain ⟨⟨p, -, hfit⟩, -⟩ := (hl.loaders _).bound _ hr
        exact BindingState.eq_constructed_of_fits (p := p) (hs ▸ hfit)
      rcases exec_initialise_watched hs hb hc w with ⟨l', base, h⟩ | ⟨e, l', base, h⟩
      · rw [h]
        exact keeps_initialise_bound hl hs hr rfl rfl
          (show LoaderPhase.fresh.next _ = some .ready from rfl) (by simp [BindingState.Fits])
      · rw [h]
        exact keeps_initialise_bound hl hs hr rfl rfl
          (show LoaderPhase.fresh.next _ = some .refused from rfl) (by simp [BindingState.Fits])
  · rw [exec_initialise_refused hs w]
    exact keeps_self _ hl

end

section
variable [Named L] [KeyedLoader L W] [Listener E W] [Handler H W] [Storage S W] [Journal W]

theorem keeps_dispose (hl : Lives c.roster w) (hop : c.status.isOperable = true) :
    (CacheCall.dispose : CacheCall (Tagged L) (Tagged E)).Keeps c.roster w
      (exec dispose c w).1.2.roster (exec dispose c w).2 := by
  obtain ⟨v, res, base, h⟩ := exec_dispose_watched hop hl.bound_not_disposed w
  rw [h]
  exact keeps_disposal hl rfl rfl rfl rfl

omit [Named L] [KeyedLoader L W] [Handler H W] [Storage S W] [Journal W] in
theorem keeps_replaceListeners (ls : List (Tagged E)) (hl : Lives c.roster w)
    (hf : (CacheCall.replaceListeners ls : CacheCall (Tagged L) (Tagged E)).Fresh c.roster w)
    (hop : c.status.isOperable = true) :
    (CacheCall.replaceListeners ls : CacheCall (Tagged L) (Tagged E)).Keeps c.roster w
      (exec (replaceListeners ls) c w).1.2.roster (exec (replaceListeners ls) c w).2 := by
  obtain ⟨base, h⟩ := exec_replaceListeners_watched ls hop w
  rw [h]
  exact CacheCall.keeps_replaceListeners hl hf rfl rfl rfl

omit [Named L] [KeyedLoader L W] [Listener E W] [Handler H W] [Storage S W] in
theorem keeps_registerListener [Named E] (l : Tagged E) (hl : Lives c.roster w)
    (hf : (CacheCall.registerListener l : CacheCall (Tagged L) (Tagged E)).Fresh c.roster w)
    (hop : c.status.isOperable = true) :
    (CacheCall.registerListener l : CacheCall (Tagged L) (Tagged E)).Keeps c.roster w
      (exec (registerListener l) c w).1.2.roster (exec (registerListener l) c w).2 := by
  obtain ⟨base, h⟩ := exec_registerListener_watched l hop w
  have hr : ({ c with listeners := c.listeners ++ [l] } : Cache (Tagged L) (Tagged E) H (Tagged S)).roster =
      { c.roster with listeners := c.roster.listeners ++ [l.tag] } := by
    simp [Cache.roster]
  rw [h]
  dsimp only
  rw [hr]
  exact CacheCall.keeps_registerListener hl hf (List.append_nil _) rfl

end

end Cache

/-! ## Runs of calls -/

namespace CacheCall

variable {L E H S W : Type} [Named L] [KeyedLoader L W] [Named E] [Listener E W] [Handler H W]
  [Storage S W] [Journal W]

omit [Named L] [KeyedLoader L W] [Named E] [Listener E W] [Handler H W] [Storage S W] [Journal W] in
/-- An operation followed by an answer leaves what the operation left. -/
theorem exec_then {α : Type} (x : CacheM L E H S W α) (v : CacheReply) (c : Cache L E H S) (w : W) :
    (Cache.exec (x >>= fun _ => pure v) c w).1.2 = (Cache.exec x c w).1.2 ∧
      (Cache.exec (x >>= fun _ => pure v) c w).2 = (Cache.exec x c w).2 := by
  rw [Cache.exec_bind]
  rcases Cache.exec x c w with ⟨⟨_ | _, c'⟩, w'⟩ <;> exact ⟨rfl, rfl⟩

/-- An operation on entries keeps the lives of the collaborators of a cache. -/
theorem keeps_data (call : CacheCall (Tagged L) (Tagged E)) (hd : call.isData = true)
    {c : Cache (Tagged L) (Tagged E) H (Tagged S)} {w : Watched W} (hl : Lives c.roster w) :
    call.Keeps c.roster w (Cache.exec call.run c w).1.2.roster (Cache.exec call.run c w).2 := by
  obtain ⟨seg, hw, hn, hr, hs⟩ := confined_run call hd c.roster c w rfl
  rw [hr]
  exact keeps_routine call hl hw hn hs

/-- Every call keeps the lives of the collaborators of a cache, if the loaders and listeners it
hands the cache are new. -/
theorem keeps_step (call : CacheCall (Tagged L) (Tagged E)) (c : Cache (Tagged L) (Tagged E) H (Tagged S))
    (w : Watched W) (hl : Lives c.roster w) (hf : call.Fresh c.roster w) :
    call.Keeps c.roster w (step call c w).cache'.roster (step call c w).world' := by
  show call.Keeps c.roster w (Cache.exec call.run c w).1.2.roster (Cache.exec call.run c w).2
  cases hop : c.status.isOperable
  case false =>
    -- a cache out of use refuses the call and nothing changes
    rw [exec_inoperable call hop w]
    exact keeps_self call hl
  cases call
  case initialise =>
    rw [run, (exec_then _ _ c w).1, (exec_then _ _ c w).2]
    exact Cache.keeps_initialise hl
  case dispose =>
    rw [run, (exec_then _ _ c w).1, (exec_then _ _ c w).2]
    exact Cache.keeps_dispose hl hop
  case registerLoader l =>
    rw [run, (exec_then _ _ c w).1, (exec_then _ _ c w).2]
    exact Cache.keeps_registerLoader l hl hf hop
  case attachDeclaredLoader t =>
    rw [run, (exec_then _ _ c w).1, (exec_then _ _ c w).2]
    exact Cache.keeps_attachDeclaredLoader t hl hf
  case registerListener l =>
    rw [run, (exec_then _ _ c w).1, (exec_then _ _ c w).2]
    exact Cache.keeps_registerListener l hl hf hop
  case replaceListeners ls =>
    rw [run, (exec_then _ _ c w).1, (exec_then _ _ c w).2]
    exact Cache.keeps_replaceListeners ls hl hf hop
  all_goals exact keeps_data _ (by rfl) hl

omit [Named L] [KeyedLoader L W] [Named E] [Listener E W] [Handler H W] [Storage S W] [Journal W] in
/-- What is still new after a call: the loaders and listeners of the later calls. -/
theorem Unused.tail {call : CacheCall (Tagged L) (Tagged E)} {rest : List (CacheCall (Tagged L) (Tagged E))}
    {r r' : Roster} {w w' : Watched W} (hu : Unused (call :: rest) r w) (hk : call.Keeps r w r' w') :
    Unused rest r' w' := by
  have hld := hu.loaders
  have hsd := hu.listeners
  rw [List.flatMap_cons, List.nodup_append] at hld hsd
  obtain ⟨seg, hw, hloader, hlistener⟩ := hk.touched
  refine ⟨fun call' hc' => ?_, hld.2.1, hsd.2.1⟩
  have hf := hu.fresh call' (List.mem_cons_of_mem _ hc')
  refine ⟨fun t ht => ?_, fun t ht => ?_, hf.distinct⟩
  · obtain ⟨hlt, h₀, hfree⟩ := hf.loaders t ht
    -- the call could only reach its own loaders, the cache's, and fresh tags
    have hunreached : ¬call.Reaches r w.next t := by
      rintro (⟨st, hb⟩ | hmine | hle)
      · exact hfree st hb
      · exact hld.2.2 t hmine t (List.mem_flatMap.2 ⟨call', hc', ht⟩) rfl
      · omega
    refine ⟨Nat.lt_of_lt_of_le hlt hk.next_le, ?_, fun st hb => hunreached (hk.loader t st hb)⟩
    rw [hw, Sighting.loaderCalls_append, h₀, List.nil_append]
    exact Classical.byContradiction fun hne => hunreached (hloader t hne)
  · obtain ⟨h₀, hout⟩ := hf.listeners t ht
    have hnot : t ∉ call.listenerTags := fun hmine =>
      hsd.2.2 t hmine t (List.mem_flatMap.2 ⟨call', hc', ht⟩) rfl
    refine ⟨?_, fun hm => (hk.listeners t hm).elim hout hnot⟩
    rw [hw, Sighting.listenerCalls_append, h₀, List.nil_append]
    exact Classical.byContradiction fun hne => hout (hlistener t hne)

/-- Every call of a run keeps the lives of the cache's collaborators, if the loaders and listeners
the run hands the cache are new. -/
theorem steps_keep : ∀ (calls : List (CacheCall (Tagged L) (Tagged E)))
    (c : Cache (Tagged L) (Tagged E) H (Tagged S)) (w : Watched W),
    Lives c.roster w → Unused calls c.roster w →
      ∀ s ∈ steps calls c w, s.call.Keeps s.cache.roster s.world s.cache'.roster s.world'
  | [], _, _, _, _, _, hs => by cases hs
  | call :: rest, c, w, hl, hu, s, hs => by
    have hk := keeps_step call c w hl (hu.fresh call List.mem_cons_self)
    rcases List.mem_cons.1 hs with rfl | hs
    · exact hk
    · exact steps_keep rest _ _ hk.lives (hu.tail hk) s hs

/-- Over every run that hands a cache only new loaders and listeners, after every call each loader
and listener has received its calls in the order its life allows: a loader is initialised at most
once, takes loads only after an `init` that succeeded, and takes nothing after its `dispose`; a
listener takes nothing after its `dispose`. A loader or listener the call let go of, on
`registerLoader`, `attachDeclaredLoader`, `replaceListeners` or `dispose`, has been disposed by
the time the call returns. -/
theorem collaborators_live_in_order (calls : List (CacheCall (Tagged L) (Tagged E)))
    (c : Cache (Tagged L) (Tagged E) H (Tagged S)) (w : Watched W)
    (hl : Lives c.roster w) (hu : Unused calls c.roster w) :
    ∀ s ∈ steps calls c w,
      (∀ t, LoaderCall.InOrder (Sighting.loaderCalls t s.world'.seen)) ∧
      (∀ t, ListenerCall.InOrder (Sighting.listenerCalls t s.world'.seen)) ∧
      (∀ b ∈ s.cache.binding, (∀ b' ∈ s.cache'.binding, b'.loader.tag ≠ b.loader.tag) →
        LoaderCall.dispose ∈ Sighting.loaderCalls b.loader.tag s.world'.seen) ∧
      (∀ l ∈ s.cache.listeners, (∀ l' ∈ s.cache'.listeners, l'.tag ≠ l.tag) →
        ListenerCall.dispose ∈ Sighting.listenerCalls l.tag s.world'.seen) := by
  intro s hs
  have hk := steps_keep calls c w hl hu s hs
  refine ⟨fun t => LoaderPhase.inOrder (hk.lives.loaders t).phase,
    fun t => ListenerPhase.inOrder (hk.lives.listeners t).phase, fun b hb hgone => ?_,
    fun l hl' hgone => ?_⟩
  · have hr : s.cache.roster.loader = some (b.loader.tag, b.state) := by
      simp [Cache.roster, Option.mem_def.1 hb]
    have hr' : ∀ st, s.cache'.roster.loader ≠ some (b.loader.tag, st) := fun st h => by
      simp only [Cache.roster, Option.map_eq_some_iff, Prod.mk.injEq] at h
      obtain ⟨b', hb', htag, -⟩ := h
      exact hgone b' hb' htag
    exact LoaderPhase.mem_dispose_of_after (by decide) (hk.retires_loader _ _ hr hr')
  · have hm : l.tag ∈ s.cache.roster.listeners := List.mem_map_of_mem hl'
    have hm' : l.tag ∉ s.cache'.roster.listeners := fun h => by
      obtain ⟨l', hl'', htag⟩ := List.mem_map.1 h
      exact hgone l' hl'' htag
    exact ListenerPhase.mem_dispose_of_after (hk.retires_listeners _ hm hm')

end CacheCall

/-- A program that gives the bench cache a loader and a listener, starts it and disposes it. -/
def lifeCalls : List (CacheCall (Tagged BenchLoader) (Tagged BenchListener)) :=
  [.registerLoader ⟨2, .scripted "L" []⟩, .registerListener ⟨3, .quiet "q"⟩, .initialise, .dispose]

theorem collaborators_live_in_order_bench :
    Lives watchedBench.roster (⟨{}, 4, []⟩ : Watched World) ∧
      CacheCall.Unused lifeCalls watchedBench.roster (⟨{}, 4, []⟩ : Watched World) ∧
      ∀ s ∈ CacheCall.steps lifeCalls watchedBench (⟨{}, 4, []⟩ : Watched World),
        (∀ t, LoaderCall.InOrder (Sighting.loaderCalls t s.world'.seen)) ∧
        (∀ t, ListenerCall.InOrder (Sighting.listenerCalls t s.world'.seen)) ∧
        (∀ b ∈ s.cache.binding, (∀ b' ∈ s.cache'.binding, b'.loader.tag ≠ b.loader.tag) →
          LoaderCall.dispose ∈ Sighting.loaderCalls b.loader.tag s.world'.seen) ∧
        (∀ l ∈ s.cache.listeners, (∀ l' ∈ s.cache'.listeners, l'.tag ≠ l.tag) →
          ListenerCall.dispose ∈ Sighting.listenerCalls l.tag s.world'.seen) := by
  have hl : Lives watchedBench.roster (⟨{}, 4, []⟩ : Watched World) :=
    Lives.start _ _ rfl (by decide)
  have hu : CacheCall.Unused lifeCalls watchedBench.roster (⟨{}, 4, []⟩ : Watched World) := by
    refine ⟨fun call hc => ?_, by decide, by decide⟩
    simp only [lifeCalls, List.mem_cons, List.not_mem_nil, or_false] at hc
    rcases hc with rfl | rfl | rfl | rfl <;>
      exact ⟨by simp [CacheCall.loaderTags, watchedBench, Cache.roster],
        by simp [CacheCall.listenerTags, watchedBench, Cache.roster], by decide⟩
  exact ⟨hl, hu, CacheCall.collaborators_live_in_order _ _ _ hl hu⟩

end NamedCaches
