import Mathlib.Data.String.Basic
import NamedCaches.Proofs.Registry.Calls
import NamedCaches.Proofs.Cache.Lifecycle
import NamedCaches.Session.Basic
import NamedCaches.Proofs.Json.Order
set_option autoImplicit false
/-!
# Which problems sink a manager

Building a manager merges its sources and then builds the declared caches in name order. A
source that does not load sinks the manager with its error, the base source's first. Otherwise
a cache's problem sinks the manager if it is one of these, checked in this order: its handler
names a handler factory that is not registered, its handler properties do not parse, the
handler factory refuses them, its loader names a loader factory that is not registered, its
loader properties do not parse (`Registry.fatalProblem`). The manager then fails with the first
such problem of the least cache that has one. Any other problem only makes its cache unusable:
its loader template cannot be built, the template cannot be cloned for the cache, or the clone's
`init` fails (`Registry.loaderFailure`). The usable caches and the failed ones then share out the
declared caches, each failed one with its problem, and the usable ones are alive
(`getManager_failures`).

Whether a factory or a loader refuses is asked in one world: the statements hold of factories
and loaders that answer by what they are given alone (`Registry.SteadyFactories`,
`SteadyLoaders`). The caches are in name order: every source loads them so
(`Source.load_sorted`), and laying one source over another keeps the order.
-/

namespace NamedCaches

open Json

/-! ## Key order -/

/-- Merging keeps the base's key order. -/
theorem mergeDeclarations_sorted (base : Declarations)
    (hb : (base.map Prod.fst).Pairwise (· < ·)) :
    ∀ named : Declarations, ((mergeDeclarations base named).map Prod.fst).Pairwise (· < ·) := by
  intro named
  induction named generalizing base with
  | nil => exact hb
  | cons p rest ih =>
    obtain ⟨k, d⟩ := p
    simp only [mergeDeclarations, List.foldl_cons]
    apply ih
    split <;> exact Fields.insert_sorted _ _ _ hb

namespace Registry

variable {L E H S W : Type}

/-- A manager's declarations are in name order. -/
theorem declarationsFor_sorted (r : Registry L E H S W) {n : Option String} {ds : Declarations}
    (h : r.declarationsFor n = .ok ds) :
    (ds.map Prod.fst).Pairwise (· < ·) := by
  unfold declarationsFor at h
  rcases hb : r.base.load r.files with e | b
  · rw [hb] at h
    cases h
  rw [hb] at h
  dsimp only at h
  rcases hs : r.namedSource n with _ | s
  · rw [hs] at h
    cases h
    exact Source.load_sorted hb
  rw [hs] at h
  dsimp only at h
  rcases hd : s.load r.files with e | d
  · rw [hd] at h
    cases h
  rw [hd] at h
  cases h
  exact mergeDeclarations_sorted b (Source.load_sorted hb) d

/-- A manager's declarations cannot be had when the base source does not load, or else when
its named source does not load. -/
theorem declarationsFor_eq_error (r : Registry L E H S W) (n : Option String) (e : Failure) :
    r.declarationsFor n = .error e ↔
      r.base.load r.files = .error e ∨
        ∃ b s, r.base.load r.files = .ok b ∧ r.namedSource n = some s ∧
          s.load r.files = .error e := by
  unfold declarationsFor
  rcases r.base.load r.files with e' | b
  · simp
  rcases r.namedSource n with _ | s
  · simp
  rcases hd : s.load r.files with e' | d <;> simp [hd, Except.map]

end Registry

/-! ## Problems of a declared cache -/

/-- An action whose result does not depend on the world it runs in. -/
def Steady {W α : Type} (x : StateM W α) : Prop :=
  ∀ w w', (x.run w).1 = (x.run w').1

theorem ensures_steady {W α : Type} {x : StateM W α} (h : Steady x) (w₀ : W) :
    Ensures x fun a => a = (x.run w₀).1 :=
  fun w => h w w₀

/-- Loaders whose clones and `init` answer by the loader and the cache's name alone. -/
def SteadyLoaders (L W : Type) [KeyedLoader L W] : Prop :=
  ∀ (l : L) (cache : String), Steady ((KeyedLoader.cloneFor (W := W) cache).run l) ∧
    Steady ((KeyedLoader.init (L := L) (W := W) cache).run l)

/-- The failure of a result, if it failed. -/
def failureOf {α : Type} : Except Failure α → Option Failure
  | .error e => some e
  | .ok _ => none

theorem failureOf_eq_some {α : Type} (res : Except Failure α) (e : Failure) :
    failureOf res = some e ↔ res = .error e := by
  cases res <;> simp [failureOf]

namespace Registry

variable {L E H S W : Type}

/-- The registry's factories answer by what they are given alone. -/
structure SteadyFactories (r : Registry L E H S W) : Prop where
  handlers : ∀ k f, r.handlers.lookup k = some f → ∀ props, Steady (f.create props)
  loaders : ∀ k f, r.loaders.lookup k = some f →
    (∀ env, Steady (f.create env)) ∧ ∀ cache props, Steady (f.createFor cache props)

/-- The first problem of a handler declaration that sinks its manager: its factory is not
registered, its properties do not parse, or the factory refuses them (asked in world `w`). -/
def handlerProblem (r : Registry L E H S W) (name : String) (hd : Option HandlerDecl) (w : W) :
    Option Failure :=
  match hd with
  | none => none
  | some hd =>
    match r.handlers.lookup hd.factory with
    | none => some (.unknownHandlerFactory name hd.factory)
    | some f =>
      match Properties.parse (hd.properties.getD "") hd.separator with
      | .error e => some e
      | .ok props => failureOf ((f.create props).run w).1

/-- The first problem of a loader declaration that sinks its manager: its factory is not
registered, or its properties do not parse. -/
def loaderProblem (r : Registry L E H S W) (name : String) (ld : Option LoaderDecl) :
    Option Failure :=
  match ld with
  | none => none
  | some ld =>
    match r.loaders.lookup ld.factory with
    | none => some (.unknownLoaderFactory name ld.factory)
    | some _ => failureOf (Properties.parse (ld.properties.getD "") ld.separator)

/-- The first problem of a declared cache that sinks its manager: its handler's, then its
loader's. -/
def fatalProblem (r : Registry L E H S W) (name : String) (d : CacheDecl) (w : W) :
    Option Failure :=
  (r.handlerProblem name d.handler w).or (r.loaderProblem name d.loader)

/-- The first problem that sinks a manager, cache by cache in the order they are built. -/
def firstFatal (r : Registry L E H S W) (w : W) : Declarations → Option Failure
  | [] => none
  | (name, d) :: ds => (r.fatalProblem name d w).or (r.firstFatal w ds)

/-- With the caches in name order, the first problem that sinks the manager is that of the
least cache with one. -/
theorem firstFatal_eq_some_iff (r : Registry L E H S W) (w : W) (e : Failure) :
    ∀ ds : Declarations, (ds.map Prod.fst).Pairwise (· < ·) →
      (r.firstFatal w ds = some e ↔
        ∃ c d, Fields.get? c ds = some d ∧ r.fatalProblem c d w = some e ∧
          ∀ c' d', Fields.get? c' ds = some d' → c' < c → r.fatalProblem c' d' w = none)
  | [], _ => by simp [firstFatal, Fields.get?]
  | (k, dk) :: rest, hs => by
    rw [List.map_cons, List.pairwise_cons] at hs
    obtain ⟨hk, hrest⟩ := hs
    have ih := firstFatal_eq_some_iff r w e rest hrest
    -- every cache after the first has a greater name
    have hafter : ∀ c d, Fields.get? c rest = some d → k < c := fun c d hc =>
      hk c ((Fields.get?_eq_none_iff c rest).not.1 (by simp [hc]) |> not_not.1)
    simp only [firstFatal]
    constructor
    · intro h
      rcases hfk : r.fatalProblem k dk w with _ | e'
      · rw [hfk, Option.none_or] at h
        obtain ⟨c, d, hc, hfc, hless⟩ := ih.1 h
        have hkc : c ≠ k := (ne_of_lt (hafter c d hc)).symm
        refine ⟨c, d, by simp [Fields.get?, hkc, hc], hfc, fun c' d' hc' hlt => ?_⟩
        by_cases hck : c' = k
        · subst hck
          simp only [Fields.get?, if_true, Option.some.injEq] at hc'
          rw [← hc']
          exact hfk
        · exact hless c' d' (by simpa [Fields.get?, hck] using hc') hlt
      · rw [hfk, Option.some_or] at h
        refine ⟨k, dk, by simp [Fields.get?], h ▸ hfk, fun c' d' hc' hlt => ?_⟩
        have hck : c' ≠ k := ne_of_lt hlt
        exact absurd (hafter c' d' (by simpa [Fields.get?, hck] using hc')) (not_lt.2 hlt.le)
    · rintro ⟨c, d, hc, hfc, hless⟩
      by_cases hck : c = k
      · subst hck
        simp only [Fields.get?, if_true, Option.some.injEq] at hc
        subst hc
        rw [hfc, Option.some_or]
      · have hcr : Fields.get? c rest = some d := by simpa [Fields.get?, hck] using hc
        have hfk : r.fatalProblem k dk w = none :=
          hless k dk (by simp [Fields.get?]) (hafter c d hcr)
        rw [hfk, Option.none_or]
        refine ih.2 ⟨c, d, hcr, hfc, fun c' d' hc' hlt => ?_⟩
        have hck' : c' ≠ k := (ne_of_lt (hafter c' d' hc')).symm
        exact hless c' d' (by simp [Fields.get?, hck', hc']) hlt

/-- A declared cache with a problem that sinks the manager leaves a first such problem. -/
theorem firstFatal_isSome (r : Registry L E H S W) (w : W) {c : String} {d : CacheDecl}
    (h : (r.fatalProblem c d w).isSome) :
    ∀ {ds : Declarations}, Fields.get? c ds = some d → (r.firstFatal w ds).isSome
  | [], hc => by cases hc
  | (k, dk) :: rest, hc => by
    simp only [firstFatal, Option.isSome_or, Bool.or_eq_true]
    by_cases hck : c = k
    · subst hck
      simp only [Fields.get?, if_true, Option.some.injEq] at hc
      subst hc
      exact .inl h
    · simp only [Fields.get?, hck, if_false] at hc
      exact .inr (firstFatal_isSome r w h hc)

/-- The handler stage fails exactly with the handler's problem. -/
theorem resolveHandler_failure (r : Registry L E H S W) (hF : r.SteadyFactories) (s : Settings)
    (w₀ : W) :
    Ensures (r.resolveHandler s) fun res =>
      failureOf res = r.handlerProblem s.name s.handler w₀ := by
  intro w
  unfold resolveHandler handlerProblem
  rcases s.handler with _ | hd
  · rfl
  dsimp only
  rcases hf : r.handlers.lookup hd.factory with _ | f
  · rfl
  dsimp only
  rcases Properties.parse (hd.properties.getD "") hd.separator with e | props
  · rfl
  exact congrArg failureOf (hF.handlers _ f hf props w w₀)

variable [KeyedLoader L W]

/-- What makes a cache with no fatal problem unusable: its loader template cannot be built (from
the properties when the declaration gives them, else from its environment), the template cannot
be cloned for the cache, or the clone's `init` fails; each asked in world `w`. -/
def loaderFailure (r : Registry L E H S W) (name : String) (ld : Option LoaderDecl) (w : W) :
    Option Failure :=
  match ld with
  | none => none
  | some ld =>
    match r.loaders.lookup ld.factory, Properties.parse (ld.properties.getD "") ld.separator with
    | some f, .ok props =>
      match ((if ld.properties.isSome then f.createFor name props else f.create ld.environment).run
          w).1 with
      | .error e => some e
      | .ok t =>
        match (((KeyedLoader.cloneFor name).run t).run w).1.1 with
        | .error e => some e
        | .ok copy => failureOf (((KeyedLoader.init name).run copy).run w).1.1
    | _, _ => none

/-- What building one cache may give: the problem that sinks its manager, the cache's own
failure when there is no such problem, or a usable cache, alive and with the settings of its
declaration. -/
def CacheBuilt (r : Registry L E H S W) (manager : Option String) (name : String) (d : CacheDecl)
    (w : W) : Except Failure (Except Failure (Cache L E H S)) → Prop
  | .error e => r.fatalProblem name d w = some e
  | .ok (.error e) => r.fatalProblem name d w = none ∧ r.loaderFailure name d.loader w = some e
  | .ok (.ok c) => r.fatalProblem name d w = none ∧ r.loaderFailure name d.loader w = none ∧
      c.settings = Settings.resolve manager name d ∧ c.status = .alive

/-- The caches a manager holds after a build that nothing sank: each declared cache in order,
usable and alive if its loader could be set up, failed with its loader's problem otherwise. -/
inductive Outcomes (r : Registry L E H S W) (manager : Option String) (w : W) :
    Declarations → List (String × Cache L E H S) → List (String × Failure) → Prop
  | nil : Outcomes r manager w [] [] []
  | usable {name : String} {d : CacheDecl} {c : Cache L E H S} {ds : Declarations}
      {us : List (String × Cache L E H S)} {fs : List (String × Failure)} :
      r.fatalProblem name d w = none → r.loaderFailure name d.loader w = none →
      c.settings = Settings.resolve manager name d → c.status = .alive →
      Outcomes r manager w ds us fs → Outcomes r manager w ((name, d) :: ds) ((name, c) :: us) fs
  | failed {name : String} {d : CacheDecl} {e : Failure} {ds : Declarations}
      {us : List (String × Cache L E H S)} {fs : List (String × Failure)} :
      r.fatalProblem name d w = none → r.loaderFailure name d.loader w = some e →
      Outcomes r manager w ds us fs → Outcomes r manager w ((name, d) :: ds) us ((name, e) :: fs)

namespace Outcomes

variable {r : Registry L E H S W} {manager : Option String} {w : W} {ds : Declarations}
  {us : List (String × Cache L E H S)} {fs : List (String × Failure)}

theorem built (h : Outcomes r manager w ds us fs) : Built manager ds us fs := by
  induction h with
  | nil => exact .nil
  | usable _ _ hs _ _ ih => exact .usable hs ih
  | failed _ _ _ ih => exact .failed ih

/-- Every usable cache is alive. -/
theorem alive (h : Outcomes r manager w ds us fs) : ∀ p ∈ us, p.2.status = .alive := by
  induction h with
  | nil => simp
  | usable _ _ _ halive _ ih =>
    intro p hp
    rcases List.mem_cons.1 hp with rfl | hp
    · exact halive
    · exact ih p hp
  | failed _ _ _ ih => exact ih

/-- Each declared cache is usable or failed. -/
theorem mem_keys (h : Outcomes r manager w ds us fs) (c : String) :
    c ∈ ds.map Prod.fst ↔ c ∈ us.map Prod.fst ∨ c ∈ fs.map Prod.fst := by
  induction h with
  | nil => simp
  | usable _ _ _ _ _ ih => simp only [List.map_cons, List.mem_cons, ih]; tauto
  | failed _ _ _ ih => simp only [List.map_cons, List.mem_cons, ih]; tauto

/-- With each cache declared once, none is both usable and failed. -/
theorem not_both (h : Outcomes r manager w ds us fs) (hnd : (ds.map Prod.fst).Nodup)
    (c : String) : ¬ (c ∈ us.map Prod.fst ∧ c ∈ fs.map Prod.fst) := by
  induction h with
  | nil => simp
  | @usable name _ _ ds _ _ _ _ _ _ hrest ih =>
    rw [List.map_cons, List.nodup_cons] at hnd
    rintro ⟨hu, hf⟩
    rcases List.mem_cons.1 hu with rfl | hu
    · exact hnd.1 ((hrest.mem_keys c).2 (.inr hf))
    · exact ih hnd.2 ⟨hu, hf⟩
  | @failed name _ _ ds _ _ _ _ hrest ih =>
    rw [List.map_cons, List.nodup_cons] at hnd
    rintro ⟨hu, hf⟩
    rcases List.mem_cons.1 hf with rfl | hf
    · exact hnd.1 ((hrest.mem_keys c).2 (.inl hu))
    · exact ih hnd.2 ⟨hu, hf⟩

/-- With each cache declared once, a declared cache's recorded failure is its loader's problem. -/
theorem get?_failed (h : Outcomes r manager w ds us fs) (hnd : (ds.map Prod.fst).Nodup)
    {c : String} {d : CacheDecl} (hc : Fields.get? c ds = some d) :
    Fields.get? c fs = r.loaderFailure c d.loader w := by
  induction h with
  | nil => simp [Fields.get?] at hc
  | @usable name d' _ ds _ fs _ hl _ _ hrest ih =>
    rw [List.map_cons, List.nodup_cons] at hnd
    by_cases hcn : c = name
    · subst hcn
      simp only [Fields.get?, if_true, Option.some.injEq] at hc
      subst hc
      rw [hl, (Fields.get?_eq_none_iff c fs).2]
      exact fun hf => hnd.1 ((hrest.mem_keys c).2 (.inr hf))
    · simp only [Fields.get?, hcn, if_false] at hc
      exact ih hnd.2 hc
  | @failed name d' e ds _ fs _ hl _ ih =>
    rw [List.map_cons, List.nodup_cons] at hnd
    by_cases hcn : c = name
    · subst hcn
      simp only [Fields.get?, if_true, Option.some.injEq] at hc ⊢
      subst hc
      exact hl.symm
    · simp only [Fields.get?, hcn, if_false] at hc ⊢
      exact ih hnd.2 hc

end Outcomes

/-! ## What a build does -/

variable [Named L] [Journal W]

/-- Attaching a declared loader to a new cache gives what the template's clone gives. -/
theorem runOn_attach_ensures (hK : SteadyLoaders L W) (t : L) {c : Cache L E H S}
    (name : String) (hn : c.name = name) (hs : c.status = .uninitialized) (hb : c.binding = none)
    (w₀ : W) :
    Ensures (Manager.runOn (W := W) c (Cache.attachDeclaredLoader t)) fun p =>
      match (((KeyedLoader.cloneFor (W := W) name).run t).run w₀).1.1 with
      | .error e => p = (.error e, c)
      | .ok copy => p = (.ok (), { c with binding := some { loader := copy } }) := by
  subst hn
  intro w
  have h := Cache.exec_attachDeclaredLoader (E := E) (H := H) (S := S) t hs hb w
  rw [(hK t c.name).1 w w₀] at h
  rcases hc : (((KeyedLoader.cloneFor (W := W) c.name).run t).run w₀).1.1 with e | copy
  · rw [hc] at h
    exact h
  · rw [hc] at h
    exact h

/-- Initialising a new cache whose loader, if it has one, is freshly bound leaves it alive with
its settings, and fails as that loader's `init` fails. -/
theorem runOn_initialise_ensures (hK : SteadyLoaders L W) {c : Cache L E H S}
    (hs : c.status = .uninitialized) {l : Option L}
    (hb : c.binding = l.map fun l => { loader := l })
    (w₀ : W) :
    Ensures (Manager.runOn (W := W) c Cache.initialise) fun p =>
      p.2.status = .alive ∧ p.2.settings = c.settings ∧
        failureOf p.1 =
          l.bind fun l => failureOf (((KeyedLoader.init (W := W) c.name).run l).run w₀).1.1 := by
  intro w
  obtain ⟨halive, hres⟩ := Cache.exec_initialise hs w
  refine ⟨halive, Cache.fixesSettings_initialise c w, ?_⟩
  show failureOf (Cache.exec Cache.initialise c w).1.1 = _
  rw [hres, hb]
  rcases l with _ | l
  · rfl
  · show failureOf (((Binding.init c.name).run { loader := l }).run w).1.1 =
      failureOf (((KeyedLoader.init c.name).run l).run w₀).1.1
    rw [Binding.init_run, (hK l c.name).2 w w₀]

variable [Listener E W] [Handler H W] [Storage S W]

/-- Building one cache gives what its problems say. -/
theorem buildCache_outcome (r : Registry L E H S W) (hF : r.SteadyFactories)
    (hK : SteadyLoaders L W) (manager : Option String) (name : String) (d : CacheDecl) (w₀ : W) :
    Ensures (r.buildCache manager name d) (r.CacheBuilt manager name d w₀) := by
  unfold buildCache
  extract_lets s plan finish
  -- the closing stage: a cache whose loader failed is given up, any other is initialised
  have hgive : ∀ (e : Failure) (c' : Cache L E H S), r.fatalProblem name d w₀ = none →
      r.loaderFailure name d.loader w₀ = some e →
      Ensures (finish (.error (e, c'))) (r.CacheBuilt manager name d w₀) :=
    fun e c' hfatal hfail => (give_ensures c' e).mono fun res h => by
      rw [h]
      exact ⟨hfatal, hfail⟩
  have hinit : ∀ c' : Cache L E H S, r.fatalProblem name d w₀ = none →
      c'.status = .uninitialized → c'.settings = s →
      ∀ l : Option L, c'.binding = l.map (fun l => { loader := l }) →
      r.loaderFailure name d.loader w₀ =
        l.bind (fun l => failureOf (((KeyedLoader.init (W := W) name).run l).run w₀).1.1) →
      Ensures (finish (.ok c')) (r.CacheBuilt manager name d w₀) := by
    intro c' hfatal hs hset l hb hl
    refine (runOn_initialise_ensures hK hs hb w₀).bind fun p hp => ?_
    obtain ⟨res, c''⟩ := p
    obtain ⟨halive, hset', hfail⟩ := hp
    have hname : c'.name = name := by rw [Cache.name, hset]; rfl
    rw [hname, ← hl] at hfail
    rw [hset] at hset'
    cases res with
    | ok u => exact ensures_pure ⟨hfatal, hfail.symm, hset', halive⟩
    | error e =>
      exact (give_ensures c'' e).mono fun res h => by rw [h]; exact ⟨hfatal, hfail.symm⟩
  clear_value finish
  -- the loader stage's plan fails exactly with the loader declaration's problem
  have hplan : failureOf plan = r.loaderProblem name d.loader := by
    simp only [plan, s, Settings.resolve, loaderProblem]
    rcases d.loader with _ | ld
    · rfl
    dsimp only
    rcases r.loaders.lookup ld.factory with _ | f
    · rfl
    dsimp only
    rcases Properties.parse (ld.properties.getD "") ld.separator with e | props <;> rfl
  refine (resolveHandler_failure r hF s w₀).bind fun res hres => ?_
  rcases res with e | handler
  · -- the handler's problem sinks the manager
    have he : r.handlerProblem name d.handler w₀ = some e := hres.symm
    refine ensures_pure ?_
    show (r.handlerProblem name d.handler w₀).or (r.loaderProblem name d.loader) = some e
    rw [he]
    rfl
  have hh : r.handlerProblem name d.handler w₀ = none := hres.symm
  dsimp -zeta only
  rcases hp : plan with e | p
  · -- the loader declaration's problem sinks the manager
    refine ensures_pure ?_
    show (r.handlerProblem name d.handler w₀).or (r.loaderProblem name d.loader) = some e
    rw [hh, Option.none_or, ← hplan, hp]
    rfl
  have hfatal : r.fatalProblem name d w₀ = none := by
    show (r.handlerProblem name d.handler w₀).or (r.loaderProblem name d.loader) = none
    rw [hh, Option.none_or, ← hplan, hp]
    rfl
  dsimp -zeta only
  refine (ensures_any _).bind fun store _ => (ensures_any _).bind fun _ _ => ?_
  rcases p with _ | ⟨f, ld, props⟩
  · -- no loader: the new cache is initialised as it is
    have hld : d.loader = none := by
      simp only [plan, s, Settings.resolve] at hp
      split at hp
      · assumption
      · split at hp
        · cases hp
        · split at hp <;> cases hp
    dsimp only
    rw [pure_bind]
    exact hinit _ hfatal rfl rfl none rfl (by rw [hld]; rfl)
  -- a loader: its template is built and cloned for the new cache
  have hdecl : d.loader = some ld ∧ r.loaders.lookup ld.factory = some f ∧
      Properties.parse (ld.properties.getD "") ld.separator = .ok props := by
    simp only [plan, s, Settings.resolve] at hp
    -- the plan names a factory only past the declaration's three checks
    split at hp
    · cases hp
    rename_i ld' hl
    split at hp
    · cases hp
    rename_i f' hf
    split at hp
    · cases hp
    rename_i props' hpr
    cases hp
    exact ⟨hl, hf, hpr⟩
  obtain ⟨hld, hf, hprops⟩ := hdecl
  dsimp -zeta only
  extract_lets attach
  have hattach : ∀ t : Except Failure L,
      t = ((if ld.properties.isSome then f.createFor name props else f.create ld.environment).run
        w₀).1 →
      Ensures (attach t) (r.CacheBuilt manager name d w₀) := by
    intro t ht
    rcases t with e | t
    · have hfail : r.loaderFailure name d.loader w₀ = some e := by
        rw [hld]
        simp only [loaderFailure, hf, hprops]
        rw [← ht]
      simp only [attach, pure_bind]
      exact hgive e _ hfatal hfail
    · -- the declaration's loader failure, once the template is known
      have hfail : r.loaderFailure name d.loader w₀ =
          match (((KeyedLoader.cloneFor (W := W) name).run t).run w₀).1.1 with
          | .error e => some e
          | .ok copy => failureOf (((KeyedLoader.init (W := W) name).run copy).run w₀).1.1 := by
        rw [hld]
        simp only [loaderFailure, hf, hprops]
        rw [← ht]
      refine (runOn_attach_ensures hK t name rfl rfl rfl w₀).bind fun q hq => ?_
      rcases hc : (((KeyedLoader.cloneFor (W := W) name).run t).run w₀).1.1 with e | copy
      · rw [hc] at hq hfail
        subst hq
        exact hgive e _ hfatal hfail
      · rw [hc] at hq hfail
        subst hq
        exact hinit _ hfatal rfl rfl (some copy) rfl hfail
  split
  · exact (ensures_steady ((hF.loaders _ f hf).2 name props) w₀).bind fun t ht =>
      hattach t (by rw [if_pos ‹_›]; exact ht)
  · exact (ensures_steady ((hF.loaders _ f hf).1 ld.environment) w₀).bind fun t ht =>
      hattach t (by rw [if_neg ‹_›]; exact ht)

/-- A build of the caches stops at the first cache with a problem that sinks the manager, and
otherwise holds each cache as its problems say. -/
theorem buildAll_outcome (r : Registry L E H S W) (hF : r.SteadyFactories)
    (hK : SteadyLoaders L W) (manager : Option String) (label : String) (w₀ : W) :
    ∀ (ds : Declarations) (caches : List (String × Cache L E H S))
      (failed : List (String × Failure)),
      Ensures (r.buildAll manager label ds caches failed) fun res =>
        failureOf res = r.firstFatal w₀ ds ∧
          ∀ m, res = .ok m → ∃ us fs, Outcomes r manager w₀ ds us fs ∧
            m.caches = caches.reverse ++ us ∧ m.failed = failed.reverse ++ fs
  | [], caches, failed => by
    rw [buildAll]
    refine (ensures_any _).bind fun _ _ => ensures_pure ⟨rfl, fun m hm => ?_⟩
    cases hm
    exact ⟨[], [], .nil, by simp, by simp⟩
  | (name, d) :: rest, caches, failed => by
    rw [buildAll]
    refine (buildCache_outcome r hF hK manager name d w₀).bind fun res hres => ?_
    rcases res with e | e | c
    · -- a problem that sinks the manager; the caches built so far are disposed
      refine (ensures_any _).bind fun _ _ => ensures_pure ⟨?_, fun m hm => by cases hm⟩
      show some e = (r.fatalProblem name d w₀).or (r.firstFatal w₀ rest)
      rw [show r.fatalProblem name d w₀ = some e from hres]
      rfl
    · -- a cache that could not be set up
      obtain ⟨hfatal, hfail⟩ := hres
      refine (ensures_any _).bind fun _ _ =>
        (buildAll_outcome r hF hK manager label w₀ rest caches ((name, e) :: failed)).mono
          fun res h => ⟨?_, fun m hm => ?_⟩
      · rw [h.1]
        show _ = (r.fatalProblem name d w₀).or _
        rw [hfatal, Option.none_or]
      · obtain ⟨us, fs, ho, hc, hf⟩ := h.2 m hm
        exact ⟨us, (name, e) :: fs, .failed hfatal hfail ho, hc, by simp [hf]⟩
    · obtain ⟨hfatal, hfail, hset, halive⟩ := hres
      refine (buildAll_outcome r hF hK manager label w₀ rest ((name, c) :: caches) failed).mono
        fun res h => ⟨?_, fun m hm => ?_⟩
      · rw [h.1]
        show _ = (r.fatalProblem name d w₀).or _
        rw [hfatal, Option.none_or]
      · obtain ⟨us, fs, ho, hc, hf⟩ := h.2 m hm
        exact ⟨(name, c) :: us, fs, .usable hfatal hfail hset halive ho, by simp [hc], hf⟩

/-- A build fails with its sources' error, or else with the first problem that sinks the
manager; a manager that is built holds each declared cache as its problems say. -/
theorem build_outcome (r : Registry L E H S W) (hF : r.SteadyFactories) (hK : SteadyLoaders L W)
    (n : Option String) (w₀ : W) :
    Ensures (r.build n) fun res =>
      failureOf res =
          (match r.declarationsFor n with
            | .error e => some e
            | .ok ds => r.firstFatal w₀ ds) ∧
        ∀ m, res = .ok m →
          ∃ ds, r.declarationsFor n = .ok ds ∧ Outcomes r n w₀ ds m.caches m.failed := by
  unfold build
  refine (ensures_any _).bind fun _ _ => (mergeSources_ensures r n).bind fun res hres => ?_
  rw [← hres]
  rcases res with e | ds
  · exact ensures_pure ⟨rfl, fun m hm => by cases hm⟩
  · refine (buildAll_outcome r hF hK n _ w₀ ds [] []).mono fun res h => ⟨h.1, fun m hm => ?_⟩
    obtain ⟨us, fs, ho, hc, hf⟩ := h.2 m hm
    exact ⟨ds, rfl, by simpa [hc, hf] using ho⟩

/-- A request for a manager the registry does not hold answers what building it answers. -/
theorem getManager_miss_result (r : Registry L E H S W) {n : Option String}
    (h : r.managers.lookup n = none) (w : W) :
    (((getManager n).run r).run w).1.1 = ((r.build n).run w).1 := by
  rw [getManager_miss r h]
  rcases (r.build n).run w with ⟨_ | m, w'⟩ <;> rfl

/-- A request for a manager the registry does not hold yet fails exactly when a source does not
load, the base source first, or when a declared cache has a problem that sinks the manager, and
then with the first problem of the least such cache. Otherwise the usable caches and the failed
ones share out the declared caches: a declared cache is failed, and asking the manager for it
answers its failure, exactly when its loader could not be set up; the usable caches are alive. -/
theorem getManager_failures (r : Registry L E H S W) (hF : r.SteadyFactories)
    (hK : SteadyLoaders L W) {n : Option String} (hl : r.managers.lookup n = none) (w : W) :
    (∀ e, (((getManager n).run r).run w).1.1 = .error e ↔
      r.base.load r.files = .error e ∨
        (∃ b s, r.base.load r.files = .ok b ∧ r.namedSource n = some s ∧
          s.load r.files = .error e) ∨
        ∃ ds, r.declarationsFor n = .ok ds ∧ ∃ c d, Fields.get? c ds = some d ∧
          r.fatalProblem c d w = some e ∧
          ∀ c' d', Fields.get? c' ds = some d' → c' < c → r.fatalProblem c' d' w = none) ∧
    ∀ m, (((getManager n).run r).run w).1.1 = .ok m →
      ∃ ds, r.declarationsFor n = .ok ds ∧
        (∀ c, c ∈ ds.map Prod.fst ↔ c ∈ m.cacheNames ∨ c ∈ m.failed.map Prod.fst) ∧
        (∀ c, ¬ (c ∈ m.cacheNames ∧ c ∈ m.failed.map Prod.fst)) ∧
        (∀ c d, Fields.get? c ds = some d →
          (c ∈ m.failed.map Prod.fst ↔ r.loaderFailure c d.loader w ≠ none) ∧
          ∀ w' : W, (∀ e, ((m.getCache c).run w').1 = .error e ↔
              r.loaderFailure c d.loader w = some e) ∧
            (r.loaderFailure c d.loader w = none →
              ((m.getCache c).run w').1 = .ok (Fields.get? c m.caches))) ∧
        ∀ p ∈ m.caches, p.2.status = .alive := by
  rw [getManager_miss_result r hl]
  obtain ⟨hfail, hok⟩ := build_outcome r hF hK n w w
  generalize ((r.build n).run w).1 = res at hfail hok ⊢
  constructor
  · intro e
    rw [← failureOf_eq_some, hfail, ← or_assoc, ← declarationsFor_eq_error]
    rcases hd : r.declarationsFor n with e' | ds
    · simp
    · rw [firstFatal_eq_some_iff r w e ds (declarationsFor_sorted r hd)]
      simp
  · intro m hm
    obtain ⟨ds, hds, ho⟩ := hok m hm
    -- the declarations are in name order, so each cache is declared once
    have hnd : (ds.map Prod.fst).Nodup := (declarationsFor_sorted r hds).imp ne_of_lt
    refine ⟨ds, hds, ho.mem_keys, ho.not_both hnd, fun c d hc => ⟨?_, fun w' => ?_⟩,
      ho.alive⟩
    · rw [← ho.get?_failed hnd hc, Ne, Fields.get?_eq_none_iff, not_not]
    · rw [Manager.getCache_run, ho.get?_failed hnd hc]
      cases r.loaderFailure c d.loader w with
      | none => exact ⟨fun e => by simp, fun _ => rfl⟩
      | some f => exact ⟨fun e => by simp, fun h => by cases h⟩

end Registry

/-! ## The bench -/

theorem mem_of_lookup_eq_some {α β : Type} [BEq α] [LawfulBEq α] {l : List (α × β)} {k : α}
    {b : β} (h : l.lookup k = some b) : (k, b) ∈ l := by
  obtain ⟨l₁, l₂, rfl, -⟩ := List.lookup_eq_some_iff.1 h
  simp

/-- The bench's loaders write to the world but never read it. -/
theorem BenchLoader.steady : SteadyLoaders BenchLoader World := by
  intro l cache
  refine ⟨fun w w' => ?_, fun _ _ => by cases l <;> rfl⟩
  show (((BenchLoader.cloneFor cache).run l).run w).1 =
    (((BenchLoader.cloneFor cache).run l).run w').1
  cases l with
  | scripted name values =>
    -- the clone's line goes to the world whether or not the clone fails
    rcases h : BenchLoader.scriptedFailure name "!clone" values with _ | f <;>
      simp [BenchLoader.cloneFor, h, BenchLoader.note, World.note] <;> rfl
  | _ => rfl

/-- The bench's factories answer by what they are given alone. -/
theorem BenchRegistry.steadyFactories (base : Source) (named : List (String × Source))
    (h : BenchHandler) : (BenchRegistry.create base named h).SteadyFactories where
  handlers k f hf props w w' := by
    have hmem := mem_of_lookup_eq_some hf
    simp only [BenchRegistry.create, BenchHandler.factories, List.mem_cons, Prod.mk.injEq,
      List.not_mem_nil, or_false] at hmem
    rcases hmem with ⟨-, rfl⟩ | ⟨-, rfl⟩ <;> rfl
  loaders k f hf := by
    have hmem := mem_of_lookup_eq_some hf
    simp only [BenchRegistry.create, BenchLoader.factories, List.mem_cons, Prod.mk.injEq,
      List.not_mem_nil, or_false] at hmem
    rcases hmem with ⟨-, rfl⟩ | ⟨-, rfl⟩ | ⟨-, rfl⟩ | ⟨-, rfl⟩ <;>
      exact ⟨fun _ _ _ => rfl, fun _ _ _ _ => rfl⟩

/-- A registry whose base source declares a cache `a` with a loader that cannot be cloned, and
a cache `b` without a loader. -/
def fragileBench : BenchRegistry :=
  BenchRegistry.create
    { name := "base",
      origin := .declared (.ofList
        [("a", { loader := some { factory := "stubborn" } }), ("b", {})]) }
    [] default

theorem getManager_failures_fragile :
    fragileBench.SteadyFactories ∧ SteadyLoaders BenchLoader World ∧
      fragileBench.managers.lookup none = none ∧
      (∀ e, (((Registry.getManager none).run fragileBench).run ({} : World)).1.1 = .error e ↔
        fragileBench.base.load fragileBench.files = .error e ∨
          (∃ b s, fragileBench.base.load fragileBench.files = .ok b ∧
            fragileBench.namedSource none = some s ∧ s.load fragileBench.files = .error e) ∨
          ∃ ds, fragileBench.declarationsFor none = .ok ds ∧
            ∃ c d, Fields.get? c ds = some d ∧
              fragileBench.fatalProblem c d ({} : World) = some e ∧
              ∀ c' d', Fields.get? c' ds = some d' → c' < c →
                fragileBench.fatalProblem c' d' ({} : World) = none) ∧
      ∀ m, (((Registry.getManager none).run fragileBench).run ({} : World)).1.1 = .ok m →
        ∃ ds, fragileBench.declarationsFor none = .ok ds ∧
          (∀ c, c ∈ ds.map Prod.fst ↔ c ∈ m.cacheNames ∨ c ∈ m.failed.map Prod.fst) ∧
          (∀ c, ¬ (c ∈ m.cacheNames ∧ c ∈ m.failed.map Prod.fst)) ∧
          (∀ c d, Fields.get? c ds = some d →
            (c ∈ m.failed.map Prod.fst ↔
              fragileBench.loaderFailure c d.loader ({} : World) ≠ none) ∧
            ∀ w' : World, (∀ e, ((m.getCache c).run w').1 = .error e ↔
                fragileBench.loaderFailure c d.loader ({} : World) = some e) ∧
              (fragileBench.loaderFailure c d.loader ({} : World) = none →
                ((m.getCache c).run w').1 = .ok (Fields.get? c m.caches))) ∧
          ∀ p ∈ m.caches, p.2.status = .alive :=
  ⟨BenchRegistry.steadyFactories _ _ _, BenchLoader.steady, rfl,
    Registry.getManager_failures fragileBench (BenchRegistry.steadyFactories _ _ _)
      BenchLoader.steady rfl {}⟩

/-- The cache whose loader cannot be cloned fails alone. -/
example : ∃ m, (((Registry.getManager none).run fragileBench).run ({} : World)).1.1 = .ok m ∧
    m.cacheNames = ["b"] ∧ m.failed.map Prod.fst = ["a"] := ⟨_, rfl, rfl, rfl⟩

end NamedCaches
