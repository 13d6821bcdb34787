import NamedCaches.Proofs.Watch.Runs
import NamedCaches.Proofs.Watch.Ledger
import NamedCaches.Proofs.Watch.Replacement
import NamedCaches.Proofs.Registry.Failures
set_option autoImplicit false
/-!
# What building a manager releases

The first request for a manager builds it cache by cache, in name order, over the registry's
factories, and each of those can fail anywhere. Watching the collaborators, this module follows
every loader template, every clone and every store the request makes or opens to the end of the
request (`getManager_releases`): each is held by a usable cache of the manager or was released
exactly once, and a template is never used beyond the clone it gives.

One cache's build is described exactly by `BuildRun`, one constructor per way it can end
(`sees_buildCache`); a run over the declared caches keeps a `Ledger` of the log so far
(`sees_buildAll`), since a build only mentions the tags it takes itself (`BuildRun.bounds`).
-/

namespace NamedCaches

theorem lookup_map_snd {α β γ : Type} [BEq α] (g : β → γ) (k : α) :
    ∀ l : List (α × β), (l.map fun p => (p.1, g p.2)).lookup k = (l.lookup k).map g
  | [] => rfl
  | (a, b) :: rest => by
    simp only [List.map_cons, List.lookup_cons]
    cases k == a
    · exact lookup_map_snd g k rest
    · rfl

namespace Sighting

variable {L E H S : Type} {n : Nat}

variable {c : Cache (Tagged L) (Tagged E) H (Tagged S)} {r : Except Failure Unit}

/-- A cache's teardown mentions only the cache's loader and store. -/
theorem tags_of_mem_teardown {s : Sighting} (hs : s ∈ teardown c r) {t : Nat} (ht : t ∈ s.tags) :
    (∃ b ∈ c.binding, b.loader.tag = t) ∨ c.store.tag = t := by
  simp only [teardown, retiring, dismissing, List.mem_append, List.mem_map, Option.mem_toList,
    List.mem_singleton] at hs
  rcases hs with (⟨b, hb, rfl⟩ | ⟨l, -, rfl⟩) | rfl
  · simp only [tags, List.mem_singleton] at ht
    exact .inl ⟨b, hb, ht.symm⟩
  · simp [tags] at ht
  · simp only [tags, List.mem_singleton] at ht
    exact .inr ht.symm

theorem from_teardown (hb : ∀ b ∈ c.binding, n ≤ b.loader.tag) (hs : n ≤ c.store.tag) :
    From n (teardown c r) := by
  intro s hm t ht
  rcases tags_of_mem_teardown hm ht with ⟨b, hb', rfl⟩ | rfl
  · exact hb b hb'
  · exact hs

theorem below_teardown (hb : ∀ b ∈ c.binding, b.loader.tag < n) (hs : c.store.tag < n) :
    Below n (teardown c r) := by
  intro s hm t ht
  rcases tags_of_mem_teardown hm ht with ⟨b, hb', rfl⟩ | rfl
  · exact hb b hb'
  · exact hs

end Sighting

open Sighting in
/-- How building one cache goes over watched collaborators, when the store it opens takes the
tag `n`: what the build answers, the sightings it adds, and how many tags it takes. -/
inductive BuildRun {L E H S : Type} (name : String) (n : Nat) :
    Except Failure (Except Failure (Cache (Tagged L) (Tagged E) H (Tagged S))) →
      List Sighting → Nat → Prop
  /-- A problem that sinks the manager: nothing is opened, made or called. -/
  | sunk (e : Failure) : BuildRun name n (.error e) [] 0
  /-- A cache without a loader, alive over its new store. -/
  | plain {c : Cache (Tagged L) (Tagged E) H (Tagged S)} (hs : c.status = .alive)
      (hb : c.binding = none) (ht : c.store.tag = n) :
      BuildRun name n (.ok (.ok c)) [.opened n name] 1
  /-- The factory made no template; the new cache is disposed. -/
  | unmade (e : Failure) {c : Cache (Tagged L) (Tagged E) H (Tagged S)} (hb : c.binding = none)
      (ht : c.store.tag = n) (r : Except Failure Unit) :
      BuildRun name n (.ok (.error e)) (.opened n name :: teardown c r) 1
  /-- The template made no clone; the template is disposed, and so is the new cache. -/
  | uncloned (e : Failure) {c : Cache (Tagged L) (Tagged E) H (Tagged S)}
      (hb : c.binding = none) (ht : c.store.tag = n) (r : Except Failure Unit) :
      BuildRun name n (.ok (.error e))
        ([.opened n name, .made (n + 1), .loader (n + 1) (.cloneFor name (.error e)),
          .loader (n + 1) .dispose] ++ teardown c r) 2
  /-- The clone's `init` failed; the template, the clone and the new cache are disposed. -/
  | uninitialised (e : Failure) {c : Cache (Tagged L) (Tagged E) H (Tagged S)}
      {b : Binding (Tagged L)} (hb : c.binding = some b) (hl : b.loader.tag = n + 2)
      (ht : c.store.tag = n) (r : Except Failure Unit) :
      BuildRun name n (.ok (.error e))
        ([.opened n name, .made (n + 1), .loader (n + 1) (.cloneFor name (.ok (n + 2))),
          .loader (n + 1) .dispose, .loader (n + 2) (.init name (.error e))] ++ teardown c r) 3
  /-- A cache with a clone of its template, initialised, alive over its new store. -/
  | loaded {c : Cache (Tagged L) (Tagged E) H (Tagged S)} {b : Binding (Tagged L)}
      (hs : c.status = .alive) (hb : c.binding = some b) (hi : b.state = .initialized)
      (hl : b.loader.tag = n + 2) (ht : c.store.tag = n) :
      BuildRun name n (.ok (.ok c))
        [.opened n name, .made (n + 1), .loader (n + 1) (.cloneFor name (.ok (n + 2))),
          .loader (n + 1) .dispose, .loader (n + 2) (.init name (.ok ()))] 3

namespace BuildRun

open Sighting

variable {L E H S : Type} {name : String} {n k : Nat} {seg : List Sighting}

/-- A build mentions only the tags it took. -/
theorem bounds {res : Except Failure (Except Failure (Cache (Tagged L) (Tagged E) H (Tagged S)))}
    (h : BuildRun name n res seg k) : From n seg ∧ Below (n + k) seg := by
  cases h with
  | sunk e => exact ⟨by simp [From], by simp [Below]⟩
  | @plain c hs hb ht => exact ⟨by simp [From, tags], by simp [Below, tags]⟩
  | @unmade e c hb ht r =>
    have hf := from_teardown (c := c) (n := n) (r := r) (by simp [hb]) (Nat.le_of_eq ht.symm)
    have hl := below_teardown (c := c) (n := n + 1) (r := r) (by simp [hb]) (by omega)
    exact ⟨from_cons.2 ⟨by simp [tags], hf⟩, below_cons.2 ⟨by simp [tags], hl⟩⟩
  | @uncloned e c hb ht r =>
    have hf := from_teardown (c := c) (n := n) (r := r) (by simp [hb]) (Nat.le_of_eq ht.symm)
    have hl := below_teardown (c := c) (n := n + 2) (r := r) (by simp [hb]) (by omega)
    refine ⟨?_, ?_⟩
    · rw [from_append]
      exact ⟨by simp [From, tags], hf⟩
    · rw [below_append]
      exact ⟨by simp [Below, tags], hl⟩
  | @uninitialised e c b hb hl' ht r =>
    have hf := from_teardown (c := c) (n := n) (r := r) (by simp [hb, hl']) (Nat.le_of_eq ht.symm)
    have hl := below_teardown (c := c) (n := n + 3) (r := r) (by simp [hb, hl']) (by omega)
    refine ⟨?_, ?_⟩
    · rw [from_append]
      exact ⟨by simp [From, tags], hf⟩
    · rw [below_append]
      exact ⟨by simp [Below, tags], hl⟩
  | @loaded c b hs hb hi hl ht => exact ⟨by simp [From, tags], by simp [Below, tags]⟩

theorem eq_nil_of_sunk {e : Failure}
    (h : BuildRun (L := L) (E := E) (H := H) (S := S) name n (.error e) seg k) :
    seg = [] ∧ k = 0 := by
  cases h
  exact ⟨rfl, rfl⟩

/-- A cache that is built and kept is usable, and its build owes nothing else. -/
theorem ledger_built {c : Cache (Tagged L) (Tagged E) H (Tagged S)}
    (h : BuildRun name n (.ok (.ok c)) seg k) : Ledger seg [(name, c)] := by
  cases h with
  | plain hs hb ht =>
    refine ⟨fun t hm => by simp at hm, fun p hp => ?_,
      fun t ht' => by simp [clones, cloneMade?] at ht',
      fun t m hm hk => ?_, by simp [loaderTags, hb], by simp [storeTags]⟩
    · simp only [List.mem_singleton] at hp
      subst hp
      exact ⟨hs, by simp [ht], by simp [ht, storeCall?], fun b hb' => by simp [hb] at hb'⟩
    · simp only [List.mem_singleton, Sighting.opened.injEq] at hm
      simp [storeTags, ht, hm.1] at hk
  | loaded hs hb hi hl ht =>
    refine ⟨fun t hm => ?_, fun p hp => ?_, fun t ht' hk => ?_, fun t m hm hk => ?_,
      by simp [loaderTags, hb], by simp [storeTags]⟩
    · simp at hm
      subst hm
      simp [loaderCall?, LoaderCall.kind]
    · simp only [List.mem_singleton] at hp
      subst hp
      refine ⟨hs, by simp [ht], by simp [ht, storeCall?], fun b' hb' => ?_⟩
      rw [hb, Option.mem_def, Option.some.injEq] at hb'
      subst hb'
      refine ⟨hi, by simp [clones, cloneMade?, hl], by simp [hl, loaderCall?, LoaderCall.kind]⟩
    · simp [clones, cloneMade?] at ht'
      simp [loaderTags, hb, hl, ht'] at hk
    · simp at hm
      simp [storeTags, ht, hm.1] at hk

/-- A cache that failed to build is disposed: everything its build made or opened is released,
and its store was opened under its name. -/
theorem ledger_failed {e : Failure}
    (h : BuildRun (L := L) (E := E) (H := H) (S := S) name n (.ok (.error e)) seg k) :
    Ledger (L := L) (E := Tagged E) (H := H) (S := S) seg [] ∧ .opened n name ∈ seg := by
  cases h with
  | @unmade e c hb ht r =>
    have hl : ∀ t, loaderCalls t (teardown c r) = [] := fun t =>
      loaderCalls_teardown_of_ne (by simp [hb])
    refine ⟨⟨fun t hm => ?_, fun p hp => (by cases hp), fun t ht' _ => ?_, fun t m hm _ => ?_,
      List.nodup_nil, List.nodup_nil⟩, by simp⟩
    · simp [made_not_mem_teardown] at hm
    · simp [clones_cons, clones_teardown, cloneMade?] at ht'
    · simp [opened_not_mem_teardown] at hm
      obtain ⟨rfl, rfl⟩ := hm
      simp [clears, storeCall?, storeCalls_teardown, StoreCall.isClear, ht]
  | @uncloned e c hb ht r =>
    have hl : ∀ t, loaderCalls t (teardown c r) = [] := fun t =>
      loaderCalls_teardown_of_ne (by simp [hb])
    refine ⟨⟨fun t hm => ?_, fun p hp => (by cases hp), fun t ht' _ => ?_, fun t m hm _ => ?_,
      List.nodup_nil, List.nodup_nil⟩, by simp⟩
    · simp [made_not_mem_teardown] at hm
      subst hm
      simp [hl, loaderCall?, LoaderCall.kind]
    · simp [clones_cons, clones_teardown, cloneMade?] at ht'
    · simp [opened_not_mem_teardown] at hm
      obtain ⟨rfl, rfl⟩ := hm
      simp [clears, storeCall?, storeCalls_teardown, StoreCall.isClear, ht]
  | @uninitialised e c b hb hl' ht r =>
    refine ⟨⟨fun t hm => ?_, fun p hp => (by cases hp), fun t ht' _ => ?_, fun t m hm _ => ?_,
      List.nodup_nil, List.nodup_nil⟩, by simp⟩
    · simp [made_not_mem_teardown] at hm
      subst hm
      rw [loaderCalls_append, loaderCalls_teardown_of_ne (by simp [hb, hl'])]
      simp [loaderCall?, LoaderCall.kind]
    · -- the clone: initialised in vain, then disposed with the cache
      simp [clones_cons, clones_teardown, cloneMade?] at ht'
      subst ht'
      have hd := loaderCalls_teardown_of_eq (r := r) hb
      rw [hl'] at hd
      simp [disposals, hd, loaderCall?, LoaderCall.kind]
    · simp [opened_not_mem_teardown] at hm
      obtain ⟨rfl, rfl⟩ := hm
      simp [clears, storeCall?, storeCalls_teardown, StoreCall.isClear, ht]

end BuildRun

/-- What a request for a manager leaves behind, read off the log of its calls. A failed request
released everything it made or opened: nothing is held. A manager that was built holds its usable
caches, and each of its failed caches was disposed: the store opened under its name was cleared,
once. (A cache's store is cleared only when the cache is disposed.) -/
def Released {L E H S : Type} (log : List Sighting) :
    Except Failure (Manager (Tagged L) (Tagged E) H (Tagged S)) → Prop
  | .error _ => Ledger (L := L) (E := Tagged E) (H := H) (S := S) log []
  | .ok m => Ledger log m.caches ∧
      ∀ p ∈ m.failed, ∃ t, Sighting.opened t p.1 ∈ log ∧ Sighting.clears t log = 1

namespace Registry

variable {L E H S W : Type}

open Watched Sighting

theorem quiet_resolveHandler (r : Registry L E H S W) (s : Settings) :
    Quiet (r.watch.resolveHandler s) := by
  unfold resolveHandler
  split
  · exact quiet_pure _
  rename_i d _
  rw [show r.watch.handlers = r.handlers.map fun p => (p.1, p.2.watch) from rfl, lookup_map_snd]
  split
  · exact quiet_pure _
  rename_i f hf
  obtain ⟨f₀, -, rfl⟩ := Option.map_eq_some_iff.1 hf
  split
  · exact quiet_pure _
  · exact quiet_lift _

theorem sees_storeFor (r : Registry L E H S W) (s : Settings) :
    Sees (r.watch.storeFor s) fun n st seg k => st.tag = n ∧ seg = [.opened n s.name] ∧ k = 1 :=
  fun _ => ⟨_, 1, _, ⟨rfl, rfl, rfl⟩, rfl⟩

theorem runOn_run {α : Type} (c : Cache (Tagged L) (Tagged E) H (Tagged S))
    (op : CacheM (Tagged L) (Tagged E) H (Tagged S) (Watched W) α) (w : Watched W) :
    (Manager.runOn c op).run w = Cache.exec op c w :=
  rfl

/-- Disposing kept caches one after another releases each of them. -/
theorem sees_retire
    (f : String × Cache (Tagged L) (Tagged E) H (Tagged S) → StateM (Watched W) PUnit)
    (hf : ∀ p : String × Cache (Tagged L) (Tagged E) H (Tagged S), p.2.status.isOperable = true →
      (∀ b ∈ p.2.binding, b.state ≠ .disposed) →
      Sees (f p) fun _ _ seg k => (∃ r, seg = teardown p.2 r) ∧ k = 0) :
    ∀ held : List (String × Cache (Tagged L) (Tagged E) H (Tagged S)),
      (∀ p ∈ held, p.2.status.isOperable = true ∧ ∀ b ∈ p.2.binding, b.state ≠ .disposed) →
      Sees (held.forM f) fun _ _ seg k => k = 0 ∧
        ∀ log, Ledger log held → Ledger (L := L) (E := Tagged E) (H := H) (S := S) (log ++ seg) []
  | [], _ => (sees_pure _).mono fun _ _ _ _ ⟨_, hseg, hk⟩ =>
    ⟨hk, fun log h => by simpa [hseg] using h⟩
  | p :: rest, hp => by
    rw [List.forM_eq_forM, List.forM_cons]
    have hhead := hp p List.mem_cons_self
    refine (hf p hhead.1 hhead.2).bind fun _ _ seg k ⟨⟨r, hseg⟩, hk⟩ => ?_
    rw [← List.forM_eq_forM]
    refine (sees_retire f hf rest fun q hq => hp q (List.mem_cons_of_mem _ hq)).mono
      fun _ _ seg' k' ⟨hk', hrest⟩ _ => ⟨by omega, fun log h => ?_⟩
    rw [hseg, ← List.append_assoc]
    exact hrest _ h.retire

variable [Named L] [KeyedLoader L W] [Journal W]

/-- A new cache takes a clone of the template, tagged with the next fresh tag, or stays as it
was; the template is disposed either way. -/
theorem sees_attach (t : Tagged L) {c : Cache (Tagged L) (Tagged E) H (Tagged S)}
    (hs : c.status = .uninitialized) (hb : c.binding = none) :
    Sees (Manager.runOn (W := Watched W) c (Cache.attachDeclaredLoader t)) fun n p seg k =>
      (∃ e, p = (.error e, c) ∧
        seg = [.loader t.tag (.cloneFor c.name (.error e)), .loader t.tag .dispose] ∧ k = 0) ∨
      (∃ copy, p = (.ok (), { c with binding := some { loader := ⟨n, copy⟩ } }) ∧
        seg = [.loader t.tag (.cloneFor c.name (.ok n)), .loader t.tag .dispose] ∧ k = 1) := by
  intro w
  rw [runOn_run]
  rcases Cache.exec_attach_replacing t hs w with ⟨e, base, h⟩ | ⟨copy, base, h⟩
  · exact ⟨_, 0, base, .inl ⟨e, by rw [h], rfl, rfl⟩, by rw [h]⟩
  · -- a new cache has no loader to let go of
    rw [hb, Sighting.releasing_none] at h
    exact ⟨_, 1, base, .inr ⟨copy, by rw [h], rfl, rfl⟩, by rw [h]⟩

/-- Initialising a new cache without a loader calls nothing. -/
theorem sees_initialise_unbound {c : Cache (Tagged L) (Tagged E) H (Tagged S)}
    (hs : c.status = .uninitialized) (hb : c.binding = none) :
    Sees (Manager.runOn (W := Watched W) c Cache.initialise) fun _ p seg k =>
      p = (.ok (), { c with status := .alive }) ∧ seg = [] ∧ k = 0 := by
  intro w
  obtain ⟨base, h⟩ := Cache.exec_initialise_unbound hs hb w
  exact ⟨[], 0, base, ⟨by rw [runOn_run, h], rfl, rfl⟩, by rw [runOn_run, h]⟩

/-- Initialising a new cache calls its loader's `init` once. -/
theorem sees_initialise {c : Cache (Tagged L) (Tagged E) H (Tagged S)}
    (hs : c.status = .uninitialized) {b : Binding (Tagged L)} (hb : c.binding = some b)
    (hc : b.state = .constructed) :
    Sees (Manager.runOn (W := Watched W) c Cache.initialise) fun _ p seg k => k = 0 ∧
      ((∃ l', p = (.ok (), { c with status := .alive,
                                     binding := some { loader := { b.loader with val := l' },
                                                       state := .initialized } }) ∧
          seg = [.loader b.loader.tag (.init c.name (.ok ()))]) ∨
        (∃ e l', p = (.error e, { c with status := .alive,
                                         binding := some { loader := { b.loader with val := l' } } }) ∧
          seg = [.loader b.loader.tag (.init c.name (.error e))])) := by
  intro w
  rcases Cache.exec_initialise_watched hs hb hc w with ⟨l', base, h⟩ | ⟨e, l', base, h⟩
  · exact ⟨_, 0, base, ⟨rfl, .inl ⟨l', by rw [runOn_run, h], rfl⟩⟩, by rw [runOn_run, h]⟩
  · exact ⟨_, 0, base, ⟨rfl, .inr ⟨e, l', by rw [runOn_run, h], rfl⟩⟩, by rw [runOn_run, h]⟩

variable [Listener E W] [Handler H W] [Storage S W]

/-- Disposing an operable cache quietly shows its teardown and nothing else. -/
theorem sees_disposeQuietly (c : Cache (Tagged L) (Tagged E) H (Tagged S))
    (hc : c.status.isOperable = true) (hb : ∀ b ∈ c.binding, b.state ≠ .disposed) :
    Sees (Manager.disposeQuietly (W := Watched W) c) fun _ _ seg k =>
      (∃ r, seg = teardown c r) ∧ k = 0 := by
  intro w
  obtain ⟨v, r, base, h⟩ := Cache.exec_dispose_watched (W := W) hc hb w
  refine ⟨teardown c r, 0, base, ⟨⟨r, rfl⟩, rfl⟩, ?_⟩
  unfold Manager.disposeQuietly
  rw [run_bind_eq, runOn_run, h]
  rfl

/-- A cache given up on is disposed; its failure is the cache's alone. -/
theorem sees_give (c : Cache (Tagged L) (Tagged E) H (Tagged S)) (e : Failure)
    (hc : c.status.isOperable = true) (hb : ∀ b ∈ c.binding, b.state ≠ .disposed) :
    Sees (give (W := Watched W) c e) fun _ res seg k =>
      res = .ok (.error e) ∧ (∃ r, seg = teardown c r) ∧ k = 0 :=
  (sees_disposeQuietly c hc hb).discard.bind fun _ _ _ _ ⟨_, ⟨r, hseg⟩, hk⟩ =>
    (sees_pure _).mono fun _ _ _ _ ⟨hres, hseg', hk'⟩ _ =>
      ⟨hres, ⟨r, by simp [hseg, hseg']⟩, by simp [hk, hk']⟩

theorem sees_buildCache (r : Registry L E H S W) (manager : Option String) (name : String)
    (d : CacheDecl) :
    Sees (r.watch.buildCache manager name d) fun n res seg k => BuildRun name n res seg k := by
  unfold buildCache
  extract_lets s plan finish
  simp only [pure_bind]
  -- the last stage: a cache given up on is disposed, any other is initialised
  have hgive : ∀ e (c : Cache (Tagged L) (Tagged E) H (Tagged S)), c.status.isOperable = true →
      (∀ b ∈ c.binding, b.state ≠ .disposed) →
      Sees (finish (.error (e, c))) fun _ res seg k =>
        res = .ok (.error e) ∧ (∃ r, seg = teardown c r) ∧ k = 0 :=
    fun e c hc hb => sees_give c e hc hb
  have hplain : ∀ c : Cache (Tagged L) (Tagged E) H (Tagged S), c.status = .uninitialized →
      c.binding = none →
      Sees (finish (.ok c)) fun _ res seg k =>
        res = .ok (.ok { c with status := .alive }) ∧ seg = [] ∧ k = 0 := by
    intro c hs hb
    refine (sees_initialise_unbound hs hb).bind fun n p seg k ⟨hp, hseg, hk⟩ => ?_
    subst hp hseg hk
    exact (sees_pure _).mono fun _ _ _ _ ⟨h₁, h₂, h₃⟩ _ => ⟨h₁, by simp [h₂], by simp [h₃]⟩
  have hloaded : ∀ (c : Cache (Tagged L) (Tagged E) H (Tagged S)) (b : Binding (Tagged L)),
      c.status = .uninitialized → c.binding = some b → b.state = .constructed →
      Sees (finish (.ok c)) fun _ res seg k => k = 0 ∧
        ((∃ l' : L, res = .ok (.ok { c with status := .alive,
                                            binding := some { loader := { b.loader with val := l' },
                                                              state := .initialized } }) ∧
            seg = [.loader b.loader.tag (.init c.name (.ok ()))]) ∨
          (∃ (e : Failure) (l' : L) (r : Except Failure Unit), res = .ok (.error e) ∧
            seg = .loader b.loader.tag (.init c.name (.error e)) ::
              teardown { c with status := .alive,
                                binding := some { loader := { b.loader with val := l' } } } r)) := by
    intro c b hs hb hc
    refine (sees_initialise hs hb hc).bind fun n p seg k ⟨hk, hp⟩ => ?_
    subst hk
    rcases hp with ⟨l', rfl, rfl⟩ | ⟨e, l', rfl, rfl⟩
    · exact (sees_pure _).mono fun _ _ _ _ ⟨h₁, h₂, h₃⟩ _ =>
        ⟨by simp [h₃], .inl ⟨l', h₁, by simp [h₂]⟩⟩
    · exact (sees_give _ e rfl (by simp)).mono fun _ _ _ _ ⟨h₁, ⟨r, h₂⟩, h₃⟩ _ =>
        ⟨by simp [h₃], .inr ⟨e, l', r, h₁, by simp [h₂]⟩⟩
  refine (quiet_resolveHandler r s).then fun res => ?_
  rcases res with e | handler
  · exact (sees_pure _).mono fun n _ seg k ⟨h, hs, hk⟩ => by subst h hs hk; exact .sunk e
  dsimp only
  rcases hp : plan with e | _ | ⟨f, ld, props⟩
  · exact (sees_pure _).mono fun n _ seg k ⟨h, hs, hk⟩ => by subst h hs hk; exact .sunk e
  · dsimp only
    refine (sees_storeFor r s).bind fun n st seg k ⟨hst, hseg, hk⟩ => ?_
    subst hseg hk
    refine (quiet_logLine _ _ _).then fun _ => ?_
    exact (hplain _ rfl rfl).mono fun n' res seg' k' ⟨hres, hs', hk'⟩ _ => by
      subst hres hs' hk'
      exact .plain rfl rfl hst
  -- the factory the plan names is one of the registry's, watched
  obtain ⟨f₀, rfl⟩ : ∃ f₀ : LoaderFactory L W, f = f₀.watch := by
    simp only [plan] at hp
    split at hp
    · cases hp
    rw [show r.watch.loaders = r.loaders.map fun p => (p.1, p.2.watch) from rfl,
      lookup_map_snd] at hp
    split at hp
    · cases hp
    rename_i f' hf'
    obtain ⟨f₀, -, rfl⟩ := Option.map_eq_some_iff.1 hf'
    split at hp
    · cases hp
    cases hp
    exact ⟨f₀, rfl⟩
  dsimp only
  refine (sees_storeFor r s).bind fun n st seg k ⟨hst, hseg, hk⟩ => ?_
  subst hseg hk
  refine (quiet_logLine _ _ _).then fun _ => ?_
  -- built from properties or from the environment, the template is tagged when made
  split <;> refine (sees_make _).bind fun n' t seg' k' ht => ?_
  all_goals
    rcases ht with ⟨e, rfl, rfl, rfl⟩ | ⟨x, rfl, rfl, rfl⟩
    · exact (hgive e _ rfl (by simp)).mono fun n'' res seg'' k'' ⟨hres, ⟨r, hs''⟩, hk''⟩ _ _ => by
        subst hres hs'' hk''
        exact .unmade e rfl hst r
    · refine (sees_attach _ rfl rfl).bind fun n'' p seg'' k'' hp => ?_
      rcases hp with ⟨e, rfl, rfl, rfl⟩ | ⟨copy, rfl, rfl, rfl⟩
      · exact (hgive e _ rfl (by simp)).mono
          fun _ res seg₃ k₃ ⟨hres, ⟨r, hs₃⟩, hk₃⟩ _ hn'' hn' => by
          subst hres hs₃ hk₃ hn'
          exact .uncloned e rfl hst r
      · refine (hloaded _ _ rfl rfl rfl).mono fun _ res seg₃ k₃ ⟨hk₃, hres⟩ _ hn'' hn' => ?_
        subst hk₃ hn'' hn'
        rcases hres with ⟨l', rfl, rfl⟩ | ⟨e, l', r, rfl, rfl⟩
        · exact .loaded rfl rfl rfl rfl hst
        · exact .uninitialised e rfl rfl hst r

/-- Building the caches of a declaration list, after caches already kept (newest first) and
failed: whatever was logged before, if it owed what a build owes with those caches kept, the log
after owes what a request owes with what the build answers. -/
theorem sees_buildAll (r : Registry L E H S W) (manager : Option String) (label : String) :
    ∀ (ds : Declarations) (caches : List (String × Cache (Tagged L) (Tagged E) H (Tagged S)))
      (failed : List (String × Failure)),
      (∀ p ∈ caches, p.2.status = .alive ∧ ∀ b ∈ p.2.binding, b.state = .initialized) →
      Sees (r.watch.buildAll manager label ds caches failed) fun n res seg _ =>
        ∀ log, Ledger log caches → Below n log →
          (∀ p ∈ failed, ∃ t, Sighting.opened t p.1 ∈ log ∧ t ∉ storeTags caches) →
          Released (log ++ seg) res
  | [], caches, failed, _ => by
    rw [buildAll]
    refine (quiet_logLine _ _ _).then fun _ => (sees_pure _).mono fun _ _ _ _ h log hl _ hf => ?_
    obtain ⟨hres, hseg, _⟩ := h
    subst hres hseg
    -- the manager holds its caches in name order; a failed cache's store is held by none
    have hl' : Ledger log caches.reverse := hl.perm (List.reverse_perm _)
    refine ⟨by simpa using hl', fun p hp => ?_⟩
    obtain ⟨t, ht, hk⟩ := hf p (List.mem_reverse.1 hp)
    have hk' : t ∉ storeTags caches.reverse := by simpa [storeTags, List.map_reverse] using hk
    exact ⟨t, by simpa using ht, by simpa using hl'.cleared t p.1 ht hk'⟩
  | (name, d) :: rest, caches, failed, hlive => by
    rw [buildAll]
    refine (sees_buildCache r manager name d).bind fun n res seg k hrun => ?_
    obtain ⟨hfrom, hbelow⟩ := hrun.bounds
    rcases res with e | e | c
    · -- a problem that sinks the manager: every cache kept so far is disposed, in name order
      obtain ⟨rfl, rfl⟩ := hrun.eq_nil_of_sunk
      dsimp only
      refine (sees_retire _ (fun p hc hb => (sees_disposeQuietly p.2 hc hb).discard.mono
          fun _ _ _ _ h => h.elim fun _ h => h) caches.reverse fun p hp => ?_).bind
        fun _ _ seg' _ hret => (sees_pure _).mono fun _ _ _ _ h _ _ log hl _ _ => ?_
      · obtain ⟨hs, hb⟩ := hlive p (List.mem_reverse.1 hp)
        refine ⟨by simp [hs, Status.isOperable], fun b hb' => ?_⟩
        rw [hb b hb']
        simp
      · obtain ⟨hres, hseg, _⟩ := h
        subst hres hseg
        simpa [Released] using hret.2 log (hl.perm (List.reverse_perm _))
    · -- a cache that failed: it is disposed, and the build goes on
      obtain ⟨hls, hopened⟩ := hrun.ledger_failed
      dsimp only
      refine (quiet_logLine _ _ _).then fun _ =>
        (sees_buildAll r manager label rest caches ((name, e) :: failed) hlive).mono
          fun n' res' seg' _ h hn log hl hb hf => ?_
      have hl' : Ledger (log ++ seg) caches := by simpa using hl.append hb hls hfrom
      have hb' : Below n' (log ++ seg) := by
        rw [below_append]
        exact ⟨hb.mono (by omega), hn ▸ hbelow⟩
      have hf' : ∀ p ∈ (name, e) :: failed, ∃ t, Sighting.opened t p.1 ∈ log ++ seg ∧
          t ∉ storeTags caches := by
        intro p hp
        rcases List.mem_cons.1 hp with rfl | hp
        · refine ⟨n, List.mem_append_right _ hopened, fun hm => ?_⟩
          have := hl.storeTags_lt hb n hm
          omega
        · obtain ⟨t, ht, hk⟩ := hf p hp
          exact ⟨t, List.mem_append_left _ ht, hk⟩
      simpa [List.append_assoc] using h (log ++ seg) hl' hb' hf'
    · -- a usable cache: it is kept, and the build goes on
      have hlc := hrun.ledger_built
      have hu := hlc.usable (name, c) List.mem_cons_self
      dsimp only
      refine (sees_buildAll r manager label rest ((name, c) :: caches) failed ?_).mono
          fun n' res' seg' _ h hn log hl hb hf => ?_
      · intro p hp
        rcases List.mem_cons.1 hp with rfl | hp
        · exact ⟨hu.alive, fun b hb => (hu.ready b hb).1⟩
        · exact hlive p hp
      have hl' : Ledger (log ++ seg) ((name, c) :: caches) := hl.append hb hlc hfrom
      have hb' : Below n' (log ++ seg) := by
        rw [below_append]
        exact ⟨hb.mono (by omega), hn ▸ hbelow⟩
      have hf' : ∀ p ∈ failed, ∃ t, Sighting.opened t p.1 ∈ log ++ seg ∧
          t ∉ storeTags ((name, c) :: caches) := by
        intro p hp
        obtain ⟨t, ht, hk⟩ := hf p hp
        refine ⟨t, List.mem_append_left _ ht, fun hm => ?_⟩
        rcases List.mem_cons.1 hm with he | hm
        · -- the new cache's store is fresh, and the failed cache's is older
          have he : t = c.store.tag := he
          have h₁ : n ≤ c.store.tag := hu.le_store hfrom
          have h₂ : t < n := hb.lt_of_mem ht (by simp [tags])
          omega
        · exact hk hm
      simpa [List.append_assoc] using h (log ++ seg) hl' hb' hf'

/-- Building a manager over the watched world leaves a log of which `Released` holds. -/
theorem sees_build (r : Registry L E H S W) (name : Option String) :
    Sees (r.watch.build name) fun _ res seg _ => Released seg res := by
  unfold build
  refine (quiet_logLine _ _ _).then fun _ => (quiet_mergeSources _ _ _).then fun res => ?_
  rcases res with e | merged
  · exact (sees_pure _).mono fun _ _ _ _ ⟨hres, hseg, _⟩ => by subst hres hseg; exact Ledger.nil
  · refine (sees_buildAll r name _ merged [] [] (by simp)).mono fun _ res seg _ h => ?_
    simpa using h [] Ledger.nil (fun _ hs => by cases hs) (by simp)

/-- A request for a manager the registry does not hold leaves the world building it leaves. -/
theorem getManager_miss_world (r : Registry L E H S W) {n : Option String}
    (h : r.managers.lookup n = none) (w : W) :
    (((getManager n).run r).run w).2 = ((r.build n).run w).2 := by
  rw [getManager_miss r h]
  rcases (r.build n).run w with ⟨_ | m, w'⟩ <;> rfl

/-- The first request for a manager leaves every collaborator it made or opened accounted for,
whatever the factories and loaders do: each loader template a factory made received its clone
and its dispose and nothing else; each clone and each store is held by a usable cache of the
manager, alive, with its clone initialised and nothing more, or was disposed, resp. cleared,
exactly once; and each failed cache of the manager was disposed. When the request fails, nothing
is held and everything was released. -/
theorem getManager_releases (r : Registry L E H S W) (name : Option String) (w : Watched W) :
    ∃ log, (((getManager name).run r.watch).run w).2.seen = w.seen ++ log ∧
      Released log (((getManager name).run r.watch).run w).1.1 := by
  -- the watched registry has kept no manager, so the request builds one
  have hl : r.watch.managers.lookup name = none := rfl
  obtain ⟨seg, _, base, hres, hw⟩ := sees_build r name w
  refine ⟨seg, ?_, ?_⟩
  · rw [getManager_miss_world _ hl, hw]
    rfl
  · rw [getManager_miss_result _ hl]
    exact hres

end Registry

end NamedCaches
