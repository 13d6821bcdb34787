import NamedCaches.Registry
import NamedCaches.Proofs.Cache.Frame
set_option autoImplicit false
/-!
# Building a manager

A manager of a name is built from the base source's declarations, with those of the named
source registered under that name laid over them cache by cache. Loading a source does not
depend on the world, so the declarations are a function of the registry
(`Registry.declarationsFor`), and a cache's declaration there is the named source's laid over
the base's (`get?_mergeDeclarations`).

A built manager holds each declared cache once, in declaration order, as usable or failed
(`Built`), and a usable cache has the settings resolved from its declaration
(`build_built`). What an action on the world yields is stated for every world (`Ensures`).
-/

namespace NamedCaches

/-! ## Results in every world -/

/-- Whatever the world, the action's result satisfies `P`. -/
def Ensures {W α : Type} (x : StateM W α) (P : α → Prop) : Prop :=
  ∀ w, P (x.run w).1

section
variable {W α β : Type} {x : StateM W α} {P : α → Prop} {Q : β → Prop}

theorem ensures_pure {a : α} (h : P a) : Ensures (pure a : StateM W α) P :=
  fun _ => h

theorem ensures_any (x : StateM W α) : Ensures x fun _ => True :=
  fun _ => trivial

theorem Ensures.mono (hx : Ensures x P) {P' : α → Prop} (h : ∀ a, P a → P' a) : Ensures x P' :=
  fun w => h _ (hx w)

theorem Ensures.bind {f : α → StateM W β} (hx : Ensures x P) (hf : ∀ a, P a → Ensures (f a) Q) :
    Ensures (x >>= f) Q :=
  fun w => hf _ (hx w) _

end

/-! ## Field lists -/

namespace Json.Fields

variable {α : Type}

theorem get?_insert (c k : String) (v : α) :
    ∀ l : List (String × α), get? c (insert k v l) = if c = k then some v else get? c l
  | [] => rfl
  | (k', w) :: rest => by
    simp only [insert]
    by_cases hlt : k < k'
    · rw [if_pos hlt]
      rfl
    · rw [if_neg hlt]
      by_cases hk : k = k'
      · subst hk
        rw [if_pos rfl]
        by_cases hc : c = k
        · simp [get?, hc]
        · simp [get?, hc]
      · rw [if_neg hk]
        by_cases hc : c = k'
        · subst hc
          simp [get?, Ne.symm hk]
        · simp only [get?, hc, if_false]
          exact get?_insert c k v rest

theorem get?_eq_none_iff (c : String) :
    ∀ l : List (String × α), get? c l = none ↔ c ∉ l.map Prod.fst
  | [] => by simp [get?]
  | (k, w) :: rest => by
    by_cases hc : c = k
    · simp [get?, hc]
    · simp only [get?, hc, if_false, List.map_cons, List.mem_cons, false_or]
      exact get?_eq_none_iff c rest

/-- The value found for a key is an entry of the list. -/
theorem mem_of_get? {c : String} {v : α} : ∀ {l : List (String × α)}, get? c l = some v → (c, v) ∈ l
  | [], h => by cases h
  | (k, w) :: rest, h => by
    by_cases hc : c = k
    · subst hc
      simp only [get?, if_true, Option.some.injEq] at h
      subst h
      exact List.mem_cons_self
    · simp only [get?, hc, if_false] at h
      exact List.mem_cons_of_mem _ (mem_of_get? h)

end Json.Fields

open Json

/-! ## Declarations -/

/-- A declaration laid over what the base declares of the same cache, if anything. -/
def CacheDecl.over (d : CacheDecl) : Option CacheDecl → CacheDecl
  | some b => d.mergedOver b
  | none => d

/-- With each cache once in the named source, a cache's merged declaration is the named source's
laid over the base's, or the base's alone. -/
theorem get?_mergeDeclarations (c : String) :
    ∀ (named base : Declarations), (named.map Prod.fst).Nodup →
      Fields.get? c (mergeDeclarations base named) =
        match Fields.get? c named with
        | some d => some (d.over (Fields.get? c base))
        | none => Fields.get? c base
  | [], _, _ => rfl
  | (k, d) :: rest, base, hn => by
    have hk : k ∉ rest.map Prod.fst := (List.nodup_cons.1 hn).1
    have hstep : mergeDeclarations base ((k, d) :: rest) =
        mergeDeclarations (Fields.insert k (d.over (Fields.get? k base)) base) rest := by
      simp only [mergeDeclarations, List.foldl_cons]
      congr 1
      cases Fields.get? k base <;> rfl
    rw [hstep, get?_mergeDeclarations c rest _ (List.nodup_cons.1 hn).2, Fields.get?_insert]
    by_cases hc : c = k
    · subst hc
      rw [(Fields.get?_eq_none_iff c rest).2 hk]
      simp [Fields.get?]
    · simp [Fields.get?, hc]

/-! ## The declarations of a manager -/

namespace Registry

variable {L E H S W : Type}

/-- The named source a manager name selects: none for the default manager. -/
def namedSource (r : Registry L E H S W) (name : Option String) : Option Source :=
  name.bind fun n => r.named.lookup n

/-- The declarations the manager of a name is built from, or why they cannot be loaded. -/
def declarationsFor (r : Registry L E H S W) (name : Option String) : Except Failure Declarations :=
  match r.base.load r.files with
  | .error e => .error e
  | .ok b =>
    match r.namedSource name with
    | none => .ok b
    | some n => (n.load r.files).map (mergeDeclarations b)

theorem mergeSources_ensures [Journal W] (r : Registry L E H S W) (name : Option String) :
    Ensures (mergeSources (W := W) r.files r.base (r.namedSource name))
      (· = r.declarationsFor name) := by
  unfold mergeSources declarationsFor
  rcases r.base.load r.files with e | b
  · exact ensures_pure rfl
  rcases r.namedSource name with _ | n
  · exact ensures_pure rfl
  dsimp only
  rcases n.load r.files with e | o
  · exact ensures_pure rfl
  · exact (ensures_any _).bind fun _ _ => ensures_pure rfl

end Registry

/-! ## What a build leaves -/

/-- The caches a manager holds after a build from some declarations: each declared cache in
order, usable with the settings resolved from its declaration, or failed. -/
inductive Built {L E H S : Type} (manager : Option String) :
    Declarations → List (String × Cache L E H S) → List (String × Failure) → Prop
  | nil : Built manager [] [] []
  | usable {name : String} {d : CacheDecl} {c : Cache L E H S} {ds : Declarations}
      {us : List (String × Cache L E H S)} {fs : List (String × Failure)} :
      c.settings = Settings.resolve manager name d → Built manager ds us fs →
      Built manager ((name, d) :: ds) ((name, c) :: us) fs
  | failed {name : String} {d : CacheDecl} {f : Failure} {ds : Declarations}
      {us : List (String × Cache L E H S)} {fs : List (String × Failure)} :
      Built manager ds us fs → Built manager ((name, d) :: ds) us ((name, f) :: fs)

theorem ensures_runOn {L E H S W α : Type} {op : CacheM L E H S W α}
    (h : Cache.FixesSettings op) (c : Cache L E H S) :
    Ensures (Manager.runOn c op) fun p => p.2.settings = c.settings :=
  fun w => h c w

namespace Built

variable {L E H S : Type} {manager : Option String} {ds : Declarations}
  {us : List (String × Cache L E H S)} {fs : List (String × Failure)}

/-- A cache is neither usable nor failed exactly when it was not declared. -/
theorem get?_eq_none_iff (h : Built manager ds us fs) (c : String) :
    Fields.get? c us = none ∧ Fields.get? c fs = none ↔ Fields.get? c ds = none := by
  induction h with
  | nil => simp [Fields.get?]
  | @usable name d cache ds us fs _ _ ih =>
    by_cases hc : c = name
    · simp [Fields.get?, hc]
    · simpa [Fields.get?, hc] using ih
  | @failed name d f ds us fs _ ih =>
    by_cases hc : c = name
    · simp [Fields.get?, hc]
    · simpa [Fields.get?, hc] using ih

/-- A usable cache that did not also fail has the settings of its declaration. -/
theorem settings_of_get? (h : Built manager ds us fs) {c : String} (hf : Fields.get? c fs = none)
    {cache : Cache L E H S} (hc : Fields.get? c us = some cache) :
    ∃ d, Fields.get? c ds = some d ∧ cache.settings = Settings.resolve manager c d := by
  induction h with
  | nil => simp [Fields.get?] at hc
  | @usable name d cache' ds us fs hs _ ih =>
    by_cases hn : c = name
    · subst hn
      simp only [Fields.get?, if_true, Option.some.injEq] at hc
      subst hc
      exact ⟨d, by simp [Fields.get?], hs⟩
    · simp only [Fields.get?, hn, if_false] at hc ⊢
      exact ih hf hc
  | @failed name d f ds us fs _ ih =>
    have hn : c ≠ name := by
      intro hn
      simp [Fields.get?, hn] at hf
    simp only [Fields.get?, hn, if_false] at hf ⊢
    exact ih hf hc

/-- Only the names and settings of the usable caches matter. -/
theorem congr (h : Built manager ds us fs) {us' : List (String × Cache L E H S)}
    (h' : us'.map (fun p => (p.1, p.2.settings)) = us.map fun p => (p.1, p.2.settings)) :
    Built manager ds us' fs := by
  induction h generalizing us' with
  | nil =>
    rw [List.map_eq_nil_iff.1 h']
    exact .nil
  | @usable name d cache ds us fs hs _ ih =>
    cases us' with
    | nil => simp at h'
    | cons p rest =>
      obtain ⟨name', cache'⟩ := p
      simp only [List.map_cons, List.cons.injEq, Prod.mk.injEq] at h'
      obtain ⟨⟨rfl, hs'⟩, hrest⟩ := h'
      exact .usable (hs'.trans hs) (ih hrest)
  | @failed name d f ds us fs _ ih => exact .failed (ih h')

end Built

theorem Manager.getCache_run {L E H S W : Type} [Journal W] (m : Manager L E H S) (c : String)
    (w : W) :
    ((m.getCache c).run w).1 =
      match Fields.get? c m.failed with
      | some f => .error f
      | none => .ok (Fields.get? c m.caches) := by
  unfold Manager.getCache
  cases Fields.get? c m.failed with
  | some f => rfl
  | none =>
    cases Fields.get? c m.caches with
    | some cache => rfl
    | none => rfl

namespace Registry

variable {L E H S W : Type} [Named L] [KeyedLoader L W] [Listener E W] [Handler H W]
  [Storage S W] [Journal W]

/-- A cache given up on is disposed, and its failure is the cache's alone. -/
theorem give_ensures (c : Cache L E H S) (e : Failure) :
    Ensures (give (W := W) c e) (· = .ok (.error e)) :=
  (ensures_any _).bind fun _ _ => ensures_pure rfl

/-- A usable cache has the settings resolved from its declaration. -/
theorem buildCache_ensures (r : Registry L E H S W) (manager : Option String) (name : String)
    (d : CacheDecl) :
    Ensures (r.buildCache manager name d) fun res =>
      ∀ c, res = .ok (.ok c) → c.settings = Settings.resolve manager name d := by
  unfold buildCache
  extract_lets s plan finish
  -- the closing stage: a cache whose loader failed is given up, else it is initialised
  have hfinish : ∀ att : Except (Failure × Cache L E H S) (Cache L E H S),
      (∀ c, att = .ok c → c.settings = s) →
      Ensures (finish att) fun res => ∀ c, res = .ok (.ok c) → c.settings = s := by
    intro att hatt
    rcases att with ⟨e, c⟩ | c
    · exact (give_ensures c e).mono fun res h c' hc => by rw [h] at hc; cases hc
    · refine (ensures_runOn Cache.fixesSettings_initialise c).bind fun p hp => ?_
      rcases p with ⟨_ | _, c''⟩
      · exact (give_ensures c'' _).mono fun res h c' hc => by rw [h] at hc; cases hc
      · refine ensures_pure fun c' hc => ?_
        cases hc
        rw [hp, hatt c rfl]
  refine (ensures_any _).bind fun res _ => ?_
  rcases res with e | handler
  · exact ensures_pure (by simp)
  dsimp -zeta only
  rcases plan with e | plan
  · exact ensures_pure (by simp)
  refine (ensures_any _).bind fun store _ => (ensures_any _).bind fun _ _ => ?_
  rcases plan with _ | ⟨f, ld, props⟩
  · exact (ensures_pure fun c h => by cases h; rfl).bind hfinish
  dsimp -zeta only
  -- the loader stage: the template, once built, is attached to the new cache
  extract_lets attach
  have hattach : ∀ t : Except Failure L,
      Ensures (attach t) fun res => ∀ c, res = .ok (.ok c) → c.settings = s := by
    intro t
    rcases t with e | t
    · exact (ensures_pure fun c h => by cases h).bind hfinish
    · refine (ensures_runOn (Cache.fixesSettings_attachDeclaredLoader t) _).bind fun p hp => ?_
      rcases p with ⟨_ | _, c'⟩
      · exact (ensures_pure fun c h => by cases h).bind hfinish
      · exact (ensures_pure fun c h => by cases h; exact hp).bind hfinish
  split
  · exact (ensures_any _).bind fun t _ => hattach t
  · exact (ensures_any _).bind fun t _ => hattach t

/-- A build that succeeds holds every declared cache once, in order, usable or failed. -/
theorem buildAll_ensures (r : Registry L E H S W) (manager : Option String) (label : String) :
    ∀ (ds : Declarations) (caches : List (String × Cache L E H S)) (failed : List (String × Failure)),
      Ensures (r.buildAll manager label ds caches failed) fun res => ∀ m, res = .ok m →
        m.name = manager ∧ ∃ us fs, Built manager ds us fs ∧ m.caches = caches.reverse ++ us ∧
          m.failed = failed.reverse ++ fs
  | [], caches, failed => by
    rw [buildAll]
    refine (ensures_any _).bind fun _ _ => ensures_pure fun m hm => ?_
    cases hm
    exact ⟨rfl, [], [], .nil, by simp, by simp⟩
  | (name, d) :: rest, caches, failed => by
    rw [buildAll]
    refine (buildCache_ensures r manager name d).bind fun res hres => ?_
    rcases res with e | e | c
    · -- a problem that sinks the manager
      exact (ensures_any _).bind fun _ _ => ensures_pure fun m hm => by cases hm
    · -- a cache that could not be built
      refine (ensures_any _).bind fun _ _ =>
        (buildAll_ensures r manager label rest caches ((name, e) :: failed)).mono fun res h m hm => ?_
      obtain ⟨hn, us, fs, hb, hc, hf⟩ := h m hm
      exact ⟨hn, us, (name, e) :: fs, .failed hb, hc, by simp [hf]⟩
    · refine (buildAll_ensures r manager label rest ((name, c) :: caches) failed).mono
        fun res h m hm => ?_
      obtain ⟨hn, us, fs, hb, hc, hf⟩ := h m hm
      exact ⟨hn, (name, c) :: us, fs, .usable (hres c rfl) hb, by simp [hc], hf⟩

/-- A manager that is built holds each cache of its declarations, usable or failed. -/
theorem build_ensures (r : Registry L E H S W) (name : Option String) :
    Ensures (r.build name) fun res => ∀ m, res = .ok m →
      m.name = name ∧ ∃ ds, r.declarationsFor name = .ok ds ∧ Built name ds m.caches m.failed := by
  unfold build
  refine (ensures_any _).bind fun _ _ => (mergeSources_ensures r name).bind fun res hres => ?_
  rcases res with e | ds
  · exact ensures_pure fun m hm => by cases hm
  · refine (buildAll_ensures r name _ ds [] []).mono fun res h m hm => ?_
    obtain ⟨hn, us, fs, hb, hc, hf⟩ := h m hm
    exact ⟨hn, ds, hres.symm, by simpa [hc, hf] using hb⟩

/-- What building each declared cache ensures of it, given its name, holds of every usable cache
of a build. -/
theorem buildAll_usable (r : Registry L E H S W) (manager : Option String) (label : String)
    (Q : String → Cache L E H S → Prop) :
    ∀ (ds : Declarations),
      (∀ name d, (name, d) ∈ ds → Ensures (r.buildCache manager name d) fun res =>
        ∀ c, res = .ok (.ok c) → Q name c) →
      ∀ (caches : List (String × Cache L E H S)) (failed : List (String × Failure)),
        (∀ p ∈ caches, Q p.1 p.2) →
        Ensures (r.buildAll manager label ds caches failed) fun res =>
          ∀ m, res = .ok m → ∀ p ∈ m.caches, Q p.1 p.2
  | [], _, caches, failed, hc => by
    rw [buildAll]
    refine (ensures_any _).bind fun _ _ => ensures_pure fun m hm => ?_
    cases hm
    simpa using hc
  | (name, d) :: rest, hQ, caches, failed, hc => by
    rw [buildAll]
    have hrest : ∀ name d, (name, d) ∈ rest → Ensures (r.buildCache manager name d) fun res =>
        ∀ c, res = .ok (.ok c) → Q name c := fun n d h => hQ n d (List.mem_cons_of_mem _ h)
    refine (hQ name d List.mem_cons_self).bind fun res hres => ?_
    rcases res with e | e | c
    · -- a problem that sinks the manager
      exact (ensures_any _).bind fun _ _ => ensures_pure fun m hm => by cases hm
    · -- a cache that could not be built holds no place among the usable ones
      exact (ensures_any _).bind fun _ _ =>
        buildAll_usable r manager label Q rest hrest caches ((name, e) :: failed) hc
    · refine buildAll_usable r manager label Q rest hrest ((name, c) :: caches) failed ?_
      intro p hp
      rcases List.mem_cons.1 hp with rfl | hp
      · exact hres c rfl
      · exact hc p hp

/-- What building each declared cache of a manager ensures of it holds of every usable cache of
the manager. -/
theorem build_usable (r : Registry L E H S W) (name : Option String)
    (Q : String → Cache L E H S → Prop)
    (hQ : ∀ ds, r.declarationsFor name = .ok ds → ∀ c d, (c, d) ∈ ds →
      Ensures (r.buildCache name c d) fun res => ∀ cc, res = .ok (.ok cc) → Q c cc) :
    Ensures (r.build name) fun res => ∀ m, res = .ok m → ∀ p ∈ m.caches, Q p.1 p.2 := by
  unfold build
  refine (ensures_any _).bind fun _ _ => (mergeSources_ensures r name).bind fun res hres => ?_
  rcases res with e | ds
  · exact ensures_pure fun m hm => by cases hm
  · exact buildAll_usable r name _ Q ds (hQ ds hres.symm) [] [] (by simp)

end Registry

end NamedCaches
