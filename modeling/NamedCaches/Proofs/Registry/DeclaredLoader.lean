import NamedCaches.Proofs.Registry.Failures
import NamedCaches.Proofs.Cache.Serving
import NamedCaches.Proofs.Properties.Writing
set_option autoImplicit false
/-!
# A declared properties loader serves its cache

A cache declared with the `properties` loader factory gets a properties loader of its own. Its
table is the declaration's properties, parsed with its separator, when the declaration gives
properties, and its environment otherwise, each value as its text (`LoaderDecl.table?`).

Properties that do not parse sink the manager: the request for it fails, with their error unless
an earlier problem sinks the manager first. Otherwise the loader causes no problem of its own,
and the manager, once built, holds the cache alive with an initialised loader named
`properties:CACHE` that has been asked for nothing yet. Every read of the new cache answers from
the table, after the argument's text when the argument is a text, and leaves the world as it was
(`getManager_serves_properties`). Each cache's loader is cloned for it alone, so no two caches
or managers share one.
-/

namespace NamedCaches

open Json

/-! ## The table of a declaration -/

namespace LoaderDecl

/-- The table a properties loader declared by `ld` serves, or why there is none: the parsed
properties when the declaration gives them, else the environment with each value as its text. -/
def table? (ld : LoaderDecl) : Except Failure (List (String × String)) :=
  match ld.properties with
  | some p => (Properties.parse p ld.separator).map Properties.entries
  | none => .ok (BenchLoader.environmentValues ld.environment)

example : ({ factory := "properties", properties := some "a=1;b=2" } : LoaderDecl).table? =
    .ok [("a", "1"), ("b", "2")] := by decide +kernel

/-- Only properties that are given can fail to parse. -/
theorem table?_eq_error {ld : LoaderDecl} {e : Failure} (h : ld.table? = .error e) :
    Properties.parse (ld.properties.getD "") ld.separator = .error e := by
  unfold table? at h
  rcases hp : ld.properties with _ | p
  · rw [hp] at h
    cases h
  · rw [hp] at h
    dsimp only at h ⊢
    rcases hparse : Properties.parse p ld.separator with e' | props <;> rw [hparse] at h <;>
      cases h
    exact hparse

/-- A table comes from the properties the registry parses, or from the environment when none are
given (they then parse as empty). -/
theorem table?_eq_ok {ld : LoaderDecl} {T : List (String × String)} (h : ld.table? = .ok T) :
    ∃ props, Properties.parse (ld.properties.getD "") ld.separator = .ok props ∧
      (if ld.properties.isSome then props.entries
       else BenchLoader.environmentValues ld.environment) = T := by
  unfold table? at h
  rcases hp : ld.properties with _ | p
  · rw [hp] at h
    cases h
    exact ⟨Properties.empty, Properties.parse_empty_text _, rfl⟩
  · rw [hp] at h
    dsimp only at h ⊢
    rcases hparse : Properties.parse p ld.separator with e | props <;> rw [hparse] at h <;>
      cases h
    exact ⟨props, hparse, rfl⟩

end LoaderDecl

/-! ## The bench's properties loaders -/

namespace BenchLoader

/-- The `properties` factory builds a table loader over the table it is given: from properties
for a cache when the declaration gives them, else from the environment. -/
theorem tableFactory_template (ld : LoaderDecl) (cache : String) (props : Properties) (w : World) :
    ((if ld.properties.isSome then tableFactory.createFor cache props
      else tableFactory.create ld.environment).run w) =
      (.ok (.table { name := if ld.properties.isSome then "properties:" ++ cache else "properties",
                     values := if ld.properties.isSome then props.entries
                               else environmentValues ld.environment }), w) := by
  split <;> rfl

/-- A table loader's clone for a cache serves the same table, is named for the cache and starts
counting from zero. -/
theorem cloneFor_table (l : PropertiesLoader) (target : String) (w : World) :
    ((KeyedLoader.cloneFor (W := World) target).run (BenchLoader.table l)).run w =
      ((.ok (.table { name := "properties:" ++ target, values := l.values }), .table l), w) := rfl

end BenchLoader

/-- A table loader's `init` succeeds and changes nothing but the binding's state. -/
theorem Binding.init_table (cache : String) (l : PropertiesLoader) (w : World) :
    ((Binding.init cache).run ({ loader := BenchLoader.table l } : Binding BenchLoader)).run w =
      ((.ok (), { loader := .table l, state := .initialized }), w) := rfl

/-! ## Registries that serve properties -/

namespace Registry

/-- What a registry of the test bench gives a cache declared with the `properties` loader factory:
the bench's properties factory under that name, factories that answer by what they are given, the
null sink as every new cache's listener, and a new engine as every new cache's store. -/
structure ServesProperties (r : BenchRegistry) : Prop where
  factory : r.loaders.lookup "properties" = some BenchLoader.tableFactory
  steady : r.SteadyFactories
  sink : r.sink = .sink
  store : r.storeFor = fun s => BenchStore.engine <$> Engine.create s

end Registry

/-- Every registry over the bench's factories serves properties. -/
theorem BenchRegistry.servesProperties (base : Source) (named : List (String × Source))
    (h : BenchHandler) : (BenchRegistry.create base named h).ServesProperties :=
  ⟨rfl, BenchRegistry.steadyFactories base named h, rfl, rfl⟩

namespace Registry

variable {r : BenchRegistry} (hr : r.ServesProperties) {c : String} {ld : LoaderDecl}
  (hf : ld.factory = "properties")
include hr hf

/-- A properties loader declaration sinks the manager exactly with its properties' parse error. -/
theorem loaderProblem_properties :
    r.loaderProblem c (some ld) =
      failureOf (Properties.parse (ld.properties.getD "") ld.separator) := by
  simp only [loaderProblem, hf, hr.factory]

/-- A properties loader whose properties parse never makes its cache unusable. -/
theorem loaderFailure_properties {props : Properties}
    (hp : Properties.parse (ld.properties.getD "") ld.separator = .ok props) (w : World) :
    r.loaderFailure c (some ld) w = none := by
  simp only [loaderFailure, hf, hr.factory, hp, BenchLoader.tableFactory_template]
  rfl

/-- Building a cache declared with a properties loader whose table is `T` gives, unless its
handler sinks the manager, a new cache serving `T`. -/
theorem buildCache_properties (manager : Option String) {d : CacheDecl} (hld : d.loader = some ld)
    {T : List (String × String)} (hT : ld.table? = .ok T) :
    Ensures (r.buildCache manager c d) fun res =>
      ∀ cc, res = .ok (.ok cc) → Cache.ServesTable c T cc := by
  obtain ⟨props, hp, hT⟩ := LoaderDecl.table?_eq_ok hT
  unfold buildCache
  extract_lets s plan finish
  have hplan : plan = .ok (some (BenchLoader.tableFactory, ld, props)) := by
    simp only [plan, s, Settings.resolve, hld, hf, hr.factory, hp]
  refine (ensures_any _).bind fun res _ => ?_
  rcases res with e | handler
  · exact ensures_pure fun cc h => by cases h
  dsimp -zeta only
  rw [hplan]
  dsimp -zeta only
  rw [hr.store]
  -- the new cache's store is a new engine, which holds nothing
  have hstore : Ensures (BenchStore.engine <$> Engine.create (W := World) s) fun st =>
      ∃ e : Engine, st = .engine e ∧ e.entries = [] := fun _ => ⟨_, rfl, rfl⟩
  refine hstore.bind fun store hst => (ensures_any _).bind fun _ _ => ?_
  extract_lets attach
  obtain ⟨e, rfl, hempty⟩ := hst
  -- a template over `T`, whatever its name, is cloned for the cache, which is then initialised
  have hattach : ∀ nm, Ensures (attach (.ok (.table { name := nm, values := T }))) fun res =>
      ∀ cc, res = .ok (.ok cc) → Cache.ServesTable c T cc := by
    intro nm
    let c₀ : BenchCache :=
      { settings := s, store := .engine e, listeners := [r.sink], handler := handler }
    let copy : Binding BenchLoader :=
      { loader := .table { name := "properties:" ++ c, values := T } }
    have hclone : Ensures
        (Manager.runOn c₀ (Cache.attachDeclaredLoader (.table { name := nm, values := T })))
        (· = (.ok (), { c₀ with binding := some copy })) :=
      fun w => by
        have h := Cache.exec_attachDeclaredLoader (W := World) (.table { name := nm, values := T })
          (c := c₀) rfl rfl w
        rw [BenchLoader.cloneFor_table] at h
        exact h
    have hinit : Ensures (Manager.runOn { c₀ with binding := some copy } Cache.initialise)
        (· = (.ok (), { c₀ with status := .alive,
                                binding := some { copy with state := .initialized } })) :=
      fun w => congrArg Prod.fst
        (Cache.exec_initialise_of_init_ok rfl rfl (Binding.init_table _ _ w))
    simp only [attach]
    refine hclone.bind fun p hp => ?_
    subst hp
    simp only [pure_bind, finish]
    refine hinit.bind fun p hp => ?_
    subst hp
    exact ensures_pure fun cc h => by
      cases h
      exact ⟨rfl, show [r.sink] = [.sink] by rw [hr.sink], ⟨e, rfl, hempty⟩, rfl⟩
  -- whichever template the factory builds, from the properties or from the environment, it
  -- serves `T`
  have htemplate : ∀ (x : StateM World (Except Failure BenchLoader)) (nm : String),
      (∀ w, (x.run w).1 = .ok (.table { name := nm, values := T })) →
      Ensures (x >>= attach) fun res => ∀ cc, res = .ok (.ok cc) → Cache.ServesTable c T cc :=
    fun x nm hx => (show Ensures x (· = .ok (.table { name := nm, values := T })) from hx).bind
      fun t ht => by
        subst ht
        exact hattach nm
  split
  · exact htemplate _ _ fun w => by rw [← hT, if_pos ‹_›]; rfl
  · exact htemplate _ _ fun w => by rw [← hT, if_neg ‹_›]; rfl

variable {n : Option String} {ds : Declarations} {d : CacheDecl}

/-- Properties that do not parse sink the build of the manager: it fails, and with their parse
error unless the cache's handler or a lesser cache has a problem that sinks it first. -/
theorem build_unparsed (hsorted : (ds.map Prod.fst).Pairwise (· < ·))
    (hds : r.declarationsFor n = .ok ds) (hc : Fields.get? c ds = some d)
    (hld : d.loader = some ld) {e : Failure} (he : ld.table? = .error e) (w : World) :
    (∃ e', ((r.build n).run w).1 = .error e') ∧
      (r.handlerProblem c d.handler w = none →
        (∀ c' d', Fields.get? c' ds = some d' → c' < c → r.fatalProblem c' d' w = none) →
        ((r.build n).run w).1 = .error e) := by
  have hfail := (build_outcome r hr.steady BenchLoader.steady n w w).1
  rw [hds] at hfail
  have hprob : r.loaderProblem c d.loader = some e := by
    rw [hld, loaderProblem_properties hr hf, LoaderDecl.table?_eq_error he]
    rfl
  refine ⟨?_, fun hh hless => ?_⟩
  · -- the cache's problem leaves a first problem that sinks the manager
    have hfatal : (r.fatalProblem c d w).isSome := by
      simp [fatalProblem, hprob]
    obtain ⟨e', he'⟩ := Option.isSome_iff_exists.1 (firstFatal_isSome r w hfatal hc)
    exact ⟨e', (failureOf_eq_some _ _).1 (hfail.trans he')⟩
  · have hfirst : r.firstFatal w ds = some e :=
      (firstFatal_eq_some_iff r w e ds hsorted).2
        ⟨c, d, hc, by rw [fatalProblem, hh, hprob]; rfl, hless⟩
    exact (failureOf_eq_some _ _).1 (hfail.trans hfirst)

/-- With each cache declared once, the usable cache a built manager holds under a name declared
with a properties loader over `T` serves `T`. -/
theorem build_serves_table (hnd : (ds.map Prod.fst).Nodup) (hds : r.declarationsFor n = .ok ds)
    (hc : Fields.get? c ds = some d) (hld : d.loader = some ld) {T : List (String × String)}
    (hT : ld.table? = .ok T) :
    Ensures (r.build n) fun res => ∀ m, res = .ok m →
      ∀ cc, Fields.get? c m.caches = some cc → Cache.ServesTable c T cc := by
  refine (build_usable r n (fun name cc => name = c → Cache.ServesTable c T cc) ?_).mono
    fun res h m hm cc hcc => h m hm (c, cc) (Fields.mem_of_get? hcc) rfl
  intro ds' hds' c' d' hmem
  rw [hds] at hds'
  cases hds'
  by_cases hc' : c' = c
  · -- the cache has one declaration, `d`
    subst hc'
    have hd : d' = d :=
      Option.some.inj (((Properties.get?_eq_some_iff_mem hnd).2 hmem).symm.trans hc)
    subst hd
    exact (buildCache_properties hr hf n hld hT).mono fun res h cc hres _ => h cc hres
  · exact (ensures_any _).mono fun res _ cc _ h => absurd h hc'

/-- A properties loader whose table is `T` causes no problem of its own: with each cache declared
once, a built manager holds the cache, and it serves `T`. -/
theorem build_properties_usable (hnd : (ds.map Prod.fst).Nodup)
    (hds : r.declarationsFor n = .ok ds) (hc : Fields.get? c ds = some d)
    (hld : d.loader = some ld) {T : List (String × String)} (hT : ld.table? = .ok T) (w : World) :
    r.loaderProblem c d.loader = none ∧ r.loaderFailure c d.loader w = none ∧
      ∀ m, ((r.build n).run w).1 = .ok m →
        ∃ cc, Fields.get? c m.caches = some cc ∧ Cache.ServesTable c T cc := by
  obtain ⟨props, hp, -⟩ := LoaderDecl.table?_eq_ok hT
  have hnone : r.loaderFailure c d.loader w = none := by
    rw [hld]
    exact loaderFailure_properties hr hf hp w
  refine ⟨by rw [hld, loaderProblem_properties hr hf, hp]; rfl, hnone, fun m hm => ?_⟩
  obtain ⟨ds', hds', ho⟩ := (build_outcome r hr.steady BenchLoader.steady n w w).2 m hm
  rw [hds] at hds'
  cases hds'
  -- the cache did not fail, so it is among the usable ones
  have hused : c ∈ m.caches.map Prod.fst := by
    rcases (ho.mem_keys c).1 (List.mem_map.2 ⟨(c, d), Fields.mem_of_get? hc, rfl⟩) with h | h
    · exact h
    · exact absurd h
        ((Fields.get?_eq_none_iff c m.failed).1 ((ho.get?_failed hnd hc).trans hnone))
  obtain ⟨cc, hcc⟩ := Option.ne_none_iff_exists'.1
    fun h => (Fields.get?_eq_none_iff c m.caches).1 h hused
  exact ⟨cc, hcc, build_serves_table hr hf hnd hds hc hld hT w m hm cc hcc⟩

end Registry

namespace Registry

/-- A cache declared with the `properties` loader factory, on the first request for its manager.
Properties that do not parse sink the manager: the request fails, and with their parse error
unless the cache's handler or a lesser cache has a problem that sinks the manager first.
Otherwise the loader is no problem of the manager's or the cache's: the manager, once built,
holds the cache alive with an initialised loader of its own over the declaration's table, named
for the cache and asked for nothing yet, and every read of the cache answers from that table,
after the argument's text when the argument is a text, leaving the world as it was. -/
theorem getManager_serves_properties (r : BenchRegistry) (hr : r.ServesProperties)
    {n : Option String} (hl : r.managers.lookup n = none) (w : World)
    {ds : Declarations} (hds : r.declarationsFor n = .ok ds)
    {c : String} {d : CacheDecl} (hc : Fields.get? c ds = some d)
    {ld : LoaderDecl} (hld : d.loader = some ld) (hf : ld.factory = "properties") :
    (∀ e, ld.table? = .error e →
      (∃ e', (((getManager n).run r).run w).1.1 = .error e') ∧
      (r.handlerProblem c d.handler w = none →
        (∀ c' d', Fields.get? c' ds = some d' → c' < c → r.fatalProblem c' d' w = none) →
        (((getManager n).run r).run w).1.1 = .error e)) ∧
    (∀ T, ld.table? = .ok T →
      r.loaderProblem c d.loader = none ∧ r.loaderFailure c d.loader w = none ∧
      ∀ m, (((getManager n).run r).run w).1.1 = .ok m →
        ∃ cc, Fields.get? c m.caches = some cc ∧ cc.status = .alive ∧
        cc.binding =
          some { loader := .table { name := "properties:" ++ c, values := T, loads := 0 },
                 state := .initialized } ∧
        ∀ (k : String) (a : Option Argument) (w' : World),
          (Cache.exec (Cache.get k a) cc w').1.1 = .ok (PropertiesLoader.answer T k a) ∧
          (Cache.exec (Cache.get k a) cc w').2 = w') := by
  rw [getManager_miss_result r hl]
  have hsorted := declarationsFor_sorted r hds
  refine ⟨fun e he => build_unparsed hr hf hsorted hds hc hld he w, fun T hT => ?_⟩
  obtain ⟨hproblem, hfailure, husable⟩ :=
    build_properties_usable hr hf (hsorted.imp ne_of_lt) hds hc hld hT w
  refine ⟨hproblem, hfailure, fun m hm => ?_⟩
  obtain ⟨cc, hcc, hserve⟩ := husable m hm
  exact ⟨cc, hcc, hserve.alive, hserve.bound, hserve.get⟩

end Registry

/-- A properties loader declaration with two properties. -/
def twoProperties : LoaderDecl := { factory := "properties", properties := some "a=1;b=2" }

/-- A registry whose base source declares one cache, `p`, with that loader. -/
def propertiesBench : BenchRegistry :=
  BenchRegistry.create
    { name := "base", origin := .declared (.ofList [("p", { loader := some twoProperties })]) }
    [] default

theorem getManager_serves_properties_bench :
    propertiesBench.ServesProperties ∧ propertiesBench.managers.lookup none = none ∧
      propertiesBench.declarationsFor none = .ok [("p", { loader := some twoProperties })] ∧
      Fields.get? "p" [("p", { loader := some twoProperties })] =
        some ({ loader := some twoProperties } : CacheDecl) ∧
      ({ loader := some twoProperties } : CacheDecl).loader = some twoProperties ∧
      twoProperties.factory = "properties" ∧
      (∀ e, twoProperties.table? = .error e →
        (∃ e', (((Registry.getManager none).run propertiesBench).run ({} : World)).1.1 =
          .error e') ∧
        (propertiesBench.handlerProblem "p" none {} = none →
          (∀ c' d', Fields.get? c' [("p", ({ loader := some twoProperties } : CacheDecl))] =
              some d' → c' < "p" → propertiesBench.fatalProblem c' d' {} = none) →
          (((Registry.getManager none).run propertiesBench).run ({} : World)).1.1 = .error e)) ∧
      (∀ T, twoProperties.table? = .ok T →
        propertiesBench.loaderProblem "p" (some twoProperties) = none ∧
        propertiesBench.loaderFailure "p" (some twoProperties) {} = none ∧
        ∀ m, (((Registry.getManager none).run propertiesBench).run ({} : World)).1.1 = .ok m →
          ∃ cc, Fields.get? "p" m.caches = some cc ∧ cc.status = .alive ∧
            cc.binding = some { loader := .table { name := "properties:" ++ "p", values := T,
                                                   loads := 0 },
                                state := .initialized } ∧
            ∀ (k : String) (a : Option Argument) (w' : World),
              (Cache.exec (Cache.get k a) cc w').1.1 = .ok (PropertiesLoader.answer T k a) ∧
              (Cache.exec (Cache.get k a) cc w').2 = w') :=
  ⟨BenchRegistry.servesProperties _ _ _, rfl, rfl, rfl, rfl, rfl,
    @Registry.getManager_serves_properties propertiesBench (BenchRegistry.servesProperties _ _ _)
      none rfl {} [("p", { loader := some twoProperties })] rfl "p"
      { loader := some twoProperties } rfl twoProperties rfl rfl⟩

end NamedCaches
