import NamedCaches.Proofs.Registry.Calls
import NamedCaches.Session.Basic
set_option autoImplicit false
/-!
# How a cache's settings are layered

A cache of the manager of `n` is declared by the base source and, for a manager with a named
source, by that source too. Its settings are taken field by field: the named source's value if
it declares the field, else the base source's, else the default: an expiry of zero seconds
(never), flags off, 10000 entries. The loader and the handler are each taken whole from one
source (`Settings.layered`). Values are stored by value when both copy flags come out on,
whichever source set each.

On a reachable registry, once the manager of `n` can be had, a cache of it is absent exactly
when neither source declares it, and a cache that is there has the layered settings
(`getCache_layered`).
-/

namespace NamedCaches

open Json

/-- A field of a cache's declarations: the named source's if it declares it, else the base's. -/
def layer {α : Type} (field : CacheDecl → Option α) (named base : Option CacheDecl) : Option α :=
  (named.bind field).or (base.bind field)

/-- The settings of cache `name` of the manager `manager`, field by field from the named
source's declaration laid over the base source's, with the defaults beneath both. -/
def Settings.layered (manager : Option String) (name : String) (named base : Option CacheDecl) :
    Settings where
  name := name
  manager := manager
  accessed := (layer CacheDecl.accessed named base).getD ⟨.seconds, 0⟩
  modified := (layer CacheDecl.modified named base).getD ⟨.seconds, 0⟩
  copyOnRead := (layer CacheDecl.copyOnRead named base).getD false
  copyOnWrite := (layer CacheDecl.copyOnWrite named base).getD false
  overflowToDisk := (layer CacheDecl.overflowToDisk named base).getD false
  maxEntries := (layer CacheDecl.maxEntries named base).getD 10000
  loader := layer CacheDecl.loader named base
  handler := layer CacheDecl.handler named base

/-- A named declaration laid over the base's resolves to the layered settings. -/
theorem Settings.resolve_over (manager : Option String) (name : String) (d : CacheDecl)
    (b : Option CacheDecl) :
    Settings.resolve manager name (d.over b) = Settings.layered manager name (some d) b := by
  cases b with
  | some b => rfl
  | none => simp [Settings.resolve, Settings.layered, CacheDecl.over, layer, Expiry.eternal,
      defaultMaxEntries]

/-- A declaration of the base alone resolves to the layered settings. -/
theorem Settings.resolve_base (manager : Option String) (name : String) (b : CacheDecl) :
    Settings.resolve manager name b = Settings.layered manager name none (some b) := rfl

namespace Registry

variable {L E H S W : Type}

/-- What the base source declares of a cache, if the source loads. -/
def baseDecl (r : Registry L E H S W) (c : String) : Option CacheDecl :=
  match r.base.load r.files with
  | .ok b => Fields.get? c b
  | .error _ => none

/-- What the named source of a manager declares of a cache, if there is one and it loads. -/
def namedDecl (r : Registry L E H S W) (n : Option String) (c : String) : Option CacheDecl :=
  match r.namedSource n with
  | some s =>
    match s.load r.files with
    | .ok d => Fields.get? c d
    | .error _ => none
  | none => none

/-- The named source of a manager, if it has one, declares each cache at most once. -/
def NamedTable (r : Registry L E H S W) (n : Option String) : Prop :=
  ∀ s, r.namedSource n = some s → ∀ d, s.load r.files = .ok d → (d.map Prod.fst).Nodup

/-- A manager's merged declaration of a cache is the named source's laid over the base's, or the
base's alone. -/
theorem get?_declarationsFor (r : Registry L E H S W) {n : Option String} (hN : r.NamedTable n)
    {ds : Declarations} (h : r.declarationsFor n = .ok ds) (c : String) :
    Fields.get? c ds =
      match r.namedDecl n c with
      | some d => some (d.over (r.baseDecl c))
      | none => r.baseDecl c := by
  unfold declarationsFor at h
  unfold namedDecl baseDecl
  rcases hb : r.base.load r.files with e | b
  · rw [hb] at h
    cases h
  rw [hb] at h
  dsimp only at h ⊢
  rcases hs : r.namedSource n with _ | s
  · rw [hs] at h
    cases h
    rfl
  rw [hs] at h
  dsimp only at h ⊢
  rcases hd : s.load r.files with e | d
  · rw [hd] at h
    cases h
  rw [hd] at h
  cases h
  exact get?_mergeDeclarations c d b (hN s hs d hd)

variable [Named L] [KeyedLoader L W] [Listener E W] [Handler H W] [Storage S W] [Journal W]

/-- A request for a cache answers the manager request's failure, or the cache's failure, or the
cache if the manager holds one. -/
theorem getCache_run (r : Registry L E H S W) (n : Option String) (c : String) (w : W) :
    (((getCache n c).run r).run w).1.1 =
      match (((getManager n).run r).run w).1.1 with
      | .error e => .error e
      | .ok m =>
        match Fields.get? c m.failed with
        | some f => .error f
        | none => .ok (Fields.get? c m.caches) := by
  unfold getCache
  rw [run_getManager_bind]
  rcases ((getManager n).run r).run w with ⟨⟨e | m, r₁⟩, w₁⟩
  · rfl
  · exact Manager.getCache_run m c w₁

/-- On a reachable registry, whenever the manager of `n` can be had, a cache of it is absent
exactly when neither the base source nor the manager's named source declares it, and a cache
that is there has its settings layered field by field from the two declarations, and stores by
value exactly when both copy flags come out on. -/
theorem getCache_layered (r : Registry L E H S W) (hr : Reachable r) {n : Option String}
    (hN : r.NamedTable n) (c : String) (w : W)
    (hm : ∃ m, (((getManager n).run r).run w).1.1 = .ok m) :
    ((((getCache n c).run r).run w).1.1 = .ok none ↔
        r.baseDecl c = none ∧ r.namedDecl n c = none) ∧
      ∀ cache, (((getCache n c).run r).run w).1.1 = .ok (some cache) →
        cache.settings = Settings.layered n c (r.namedDecl n c) (r.baseDecl c) ∧
          cache.settings.storeByValue =
            ((layer CacheDecl.copyOnRead (r.namedDecl n c) (r.baseDecl c)).getD false &&
              (layer CacheDecl.copyOnWrite (r.namedDecl n c) (r.baseDecl c)).getD false) := by
  obtain ⟨m, hm⟩ := hm
  have hg := getManager_granted r n w
  rw [hm] at hg
  obtain ⟨-, ds, hds, hb⟩ := hg.built_of_ok (faithful_of_reachable hr)
  have hget := get?_declarationsFor r hN hds c
  rw [getCache_run, hm]
  dsimp only
  -- a cache is declared by a source exactly when the manager holds it, usable or failed
  have hdecl : Fields.get? c ds = none ↔ r.baseDecl c = none ∧ r.namedDecl n c = none := by
    rw [hget]
    cases r.namedDecl n c with
    | some d => simp
    | none => simp
  have hnone := hb.get?_eq_none_iff c
  constructor
  · rcases hf : Fields.get? c m.failed with _ | f
    · rw [Except.ok.injEq, ← hdecl, ← hnone]
      exact ⟨fun hc => ⟨hc, hf⟩, fun h => h.1⟩
    · constructor
      · intro h
        cases h
      · intro h
        rw [(hnone.2 (hdecl.2 h)).2] at hf
        cases hf
  · intro cache hcache
    rcases hf : Fields.get? c m.failed with _ | f
    · rw [hf, Except.ok.injEq] at hcache
      obtain ⟨d, hd, hs⟩ := hb.settings_of_get? hf hcache
      have hlayer : cache.settings = Settings.layered n c (r.namedDecl n c) (r.baseDecl c) := by
        rw [hs]
        rw [hget] at hd
        cases hn : r.namedDecl n c with
        | some dn =>
          rw [hn] at hd
          cases hd
          exact Settings.resolve_over n c dn _
        | none =>
          rw [hn] at hd
          dsimp only at hd
          rw [hd]
          exact Settings.resolve_base n c d
      exact ⟨hlayer, by rw [hlayer]; rfl⟩
    · rw [hf] at hcache
      cases hcache

end Registry

/-- A registry whose base source declares cache `c` copied on read, and whose source for the
manager `s` declares it copied on write, with room for five entries. -/
def layeredBench : BenchRegistry :=
  BenchRegistry.create
    { name := "base", origin := .declared (.ofList [("c", { copyOnRead := some true })]) }
    [("s", { name := "s",
             origin :=
               .declared (.ofList [("c", { copyOnWrite := some true, maxEntries := some 5 })]) })]
    default

theorem getCache_layered_bench :
    layeredBench.Reachable ∧ layeredBench.NamedTable (some "s") ∧
      (∃ m, (((Registry.getManager (some "s")).run layeredBench).run ({} : World)).1.1 = .ok m) ∧
      ((((Registry.getCache (some "s") "c").run layeredBench).run ({} : World)).1.1 = .ok none ↔
          layeredBench.baseDecl "c" = none ∧ layeredBench.namedDecl (some "s") "c" = none) ∧
      ∀ cache, (((Registry.getCache (some "s") "c").run layeredBench).run ({} : World)).1.1 =
          .ok (some cache) →
        cache.settings = Settings.layered (some "s") "c" (layeredBench.namedDecl (some "s") "c")
            (layeredBench.baseDecl "c") ∧
          cache.settings.storeByValue =
            ((layer CacheDecl.copyOnRead (layeredBench.namedDecl (some "s") "c")
                (layeredBench.baseDecl "c")).getD false &&
              (layer CacheDecl.copyOnWrite (layeredBench.namedDecl (some "s") "c")
                (layeredBench.baseDecl "c")).getD false) := by
  refine ⟨.fresh rfl, ?table, ⟨_, rfl⟩,
    Registry.getCache_layered layeredBench (.fresh rfl) ?table "c" {} ⟨_, rfl⟩⟩
  intro s hs d hd
  cases hs
  cases hd
  decide

/-- The copy flags come from different sources and the cache still stores by value. -/
example : ∃ cache, (((Registry.getCache (some "s") "c").run layeredBench).run ({} : World)).1.1 =
    .ok (some cache) ∧ cache.settings.storeByValue = true ∧ cache.settings.maxEntries = 5 :=
  ⟨_, rfl, rfl, rfl⟩

end NamedCaches
