import NamedCaches.Proofs.Registry.Build
set_option autoImplicit false
/-!
# Calls on a registry

A program holds a registry and calls it (`Call`): it asks for the manager of a name, for a cache
of a manager, for the names of the managers built so far, or shuts a manager down. These calls
are the only way a registry changes, so the registries a program can hold are those some
sequence of calls leads to from a new one (`Reachable`).

A request for a manager answers a kept manager as it is, without reading a source
(`getManager_memo`); otherwise it builds one from the sources and keeps it only if the build
succeeds (`getManager_miss`). `Granted` says what a request may leave and `Effect` what a whole
call may do: a shutdown also replaces the kept manager by a later state of the same manager
(`Manager.Same`) whose caches are all disposed. A call's `Response` records the request it made,
and `Response.left?` the manager the call leaves kept under that name. Every manager a reachable
registry keeps carries its name and was built from the registry's sources
(`faithful_of_reachable`).
-/

namespace NamedCaches

open Json

/-! ## States of one manager -/

namespace Manager

variable {L E H S : Type}

/-- Two states of one manager: the same name and failed caches, and usable caches of the same
names and settings. Only what the caches hold and where they are in their lifecycle differ. -/
def Same (m m' : Manager L E H S) : Prop :=
  m'.name = m.name ∧ m'.failed = m.failed ∧
    m'.caches.map (fun p => (p.1, p.2.settings)) = m.caches.map fun p => (p.1, p.2.settings)

theorem Same.refl (m : Manager L E H S) : m.Same m := ⟨rfl, rfl, rfl⟩

theorem Same.symm {m m' : Manager L E H S} (h : m.Same m') : m'.Same m :=
  ⟨h.1.symm, h.2.1.symm, h.2.2.symm⟩

theorem Same.trans {m m' m'' : Manager L E H S} (h : m.Same m') (h' : m'.Same m'') :
    m.Same m'' :=
  ⟨h'.1.trans h.1, h'.2.1.trans h.2.1, h'.2.2.trans h.2.2⟩

/-- A later state of a manager holds the caches of the same declarations. -/
theorem Same.built {m m' : Manager L E H S} (h : m.Same m') {n : Option String}
    {ds : Declarations} (hb : Built n ds m.caches m.failed) : Built n ds m'.caches m'.failed := by
  rw [h.2.1]
  exact hb.congr h.2.2

end Manager

/-! ## Shutting a manager down -/

/-- A step that keeps a view of each member of a list and gives a result with `P` keeps the
view of the whole list and gives only results with `P`. -/
theorem ensures_mapM_of_mem {W γ δ β : Type} {f : γ → StateM W δ} {g : δ → β}
    {k : γ → β} {P : δ → Prop} :
    ∀ l : List γ, (∀ a ∈ l, Ensures (f a) fun b => g b = k a ∧ P b) →
      Ensures (l.mapM f) fun l' => l'.map g = l.map k ∧ ∀ b ∈ l', P b
  | [], _ => ensures_pure ⟨rfl, by simp⟩
  | a :: l, hf => by
    rw [List.mapM_cons]
    refine (hf a List.mem_cons_self).bind fun b hb =>
      (ensures_mapM_of_mem l fun a' ha' => hf a' (List.mem_cons_of_mem _ ha')).bind
        fun bs hbs => ensures_pure ?_
    refine ⟨by simp [hb.1, hbs.1], fun b' hb' => ?_⟩
    rcases List.mem_cons.1 hb' with rfl | hb'
    · exact hb.2
    · exact hbs.2 b' hb'

theorem ensures_mapM {W γ δ β : Type} {f : γ → StateM W δ} {g : δ → β} {k : γ → β}
    {P : δ → Prop} (hf : ∀ a, Ensures (f a) fun b => g b = k a ∧ P b) (l : List γ) :
    Ensures (l.mapM f) fun l' => l'.map g = l.map k ∧ ∀ b ∈ l', P b :=
  ensures_mapM_of_mem l fun a _ => hf a

namespace Manager

variable {L E H S W : Type} [Named L] [KeyedLoader L W] [Listener E W] [Handler H W]
  [Storage S W] [Journal W]

/-- Disposing a cache succeeds, keeps its settings and leaves it inoperable. -/
theorem runOn_dispose_ensures (c : Cache L E H S) :
    Ensures (runOn (W := W) c Cache.dispose) fun q =>
      q.1 = .ok () ∧ q.2.settings = c.settings ∧ q.2.status.isOperable = false := by
  intro w
  obtain ⟨hok, hstatus⟩ := Cache.dispose_status c w
  refine ⟨hok, Cache.fixesSettings_dispose c w, ?_⟩
  show (Cache.exec Cache.dispose c w).1.2.status.isOperable = false
  rw [hstatus]
  split
  · rfl
  · simpa using ‹¬c.status.isOperable = true›

/-- Shutting a manager down leaves a later state of the same manager whose caches are all
inoperable. -/
theorem shutdown_ensures (m : Manager L E H S) :
    Ensures (m.shutdown (W := W)) fun m' =>
      m.Same m' ∧ ∀ p ∈ m'.caches, p.2.status.isOperable = false := by
  unfold shutdown
  refine (ensures_mapM (g := fun q => (q.1, q.2.settings)) (k := fun p => (p.1, p.2.settings))
    (P := fun q => q.2.status.isOperable = false) (fun p => ?_) m.caches).bind
      fun caches hc => ?_
  · obtain ⟨name, c⟩ := p
    refine (runOn_dispose_ensures c).bind fun q hq => ?_
    obtain ⟨r, c'⟩ := q
    dsimp -zeta only
    -- a failed disposal would only be logged before the cache is kept
    extract_lets keep
    have hkeep : ∀ u, Ensures (keep u) fun b =>
        (b.1, b.2.settings) = (name, c.settings) ∧ b.2.status.isOperable = false :=
      fun _ => ensures_pure ⟨by rw [← hq.2.1], hq.2.2⟩
    cases r with
    | error e => exact (ensures_any _).bind fun u _ => hkeep u
    | ok u => exact hkeep ()
  · exact (ensures_any _).bind fun _ _ => ensures_pure ⟨⟨rfl, rfl, hc.1⟩, hc.2⟩

end Manager

/-! ## Requests for a manager -/

namespace Registry

variable {L E H S W : Type}

theorem mem_managerNames_iff (r : Registry L E H S W) (n : Option String) :
    n ∈ r.managerNames ↔ (r.managers.lookup n).isSome := by
  unfold managerNames
  rw [List.lookup_isSome_iff]
  simp only [List.mem_map, beq_iff_eq]
  constructor
  · rintro ⟨p, hp, rfl⟩
    exact ⟨p, hp, rfl⟩
  · rintro ⟨p, hp, rfl⟩
    exact ⟨p, hp, rfl⟩

theorem lookup_setManager (r : Registry L E H S W) (m : Manager L E H S) (k : Option String) :
    (r.setManager m).managers.lookup k =
      if k = m.name then (r.managers.lookup k).map fun _ => m else r.managers.lookup k := by
  dsimp only [setManager]
  induction r.managers with
  | nil => simp
  | cons p rest ih =>
    obtain ⟨k', old⟩ := p
    have hhead : (if k' == m.name then (k', m) else (k', old)) =
        (k', if k' == m.name then m else old) := by split <;> rfl
    rw [List.map_cons]
    dsimp only
    rw [hhead, List.lookup_cons, List.lookup_cons]
    by_cases hk : k = k'
    · subst hk
      by_cases hm : k = m.name <;> simp [hm]
    · rw [beq_false_of_ne hk]
      exact ih

/-- Every manager the registry keeps carries its name and holds the caches of the declarations
the registry's sources give for that name. -/
def Faithful (r : Registry L E H S W) : Prop :=
  ∀ n m, r.managers.lookup n = some m →
    m.name = n ∧ ∃ ds, r.declarationsFor n = .ok ds ∧ Built n ds m.caches m.failed

/-- What a request for the manager of `n` may leave: a kept manager, with the registry as it
was; a failed build, with the registry as it was; or a manager built from the sources and kept. -/
inductive Granted (r : Registry L E H S W) (n : Option String) :
    Except Failure (Manager L E H S) → Registry L E H S W → Prop
  | memo {m : Manager L E H S} : r.managers.lookup n = some m → Granted r n (.ok m) r
  | failed {e : Failure} : r.managers.lookup n = none → Granted r n (.error e) r
  | built {m : Manager L E H S} {ds : Declarations} : r.managers.lookup n = none → m.name = n →
      r.declarationsFor n = .ok ds → Built n ds m.caches m.failed →
      Granted r n (.ok m) { r with managers := r.managers ++ [(n, m)] }

namespace Granted

variable {r r' : Registry L E H S W} {n : Option String} {res : Except Failure (Manager L E H S)}

/-- A request reads the sources and changes none. -/
theorem declarationsFor_eq (h : Granted r n res r') (k : Option String) :
    r'.declarationsFor k = r.declarationsFor k := by
  cases h <;> rfl

/-- A request leaves the managers of other names as they were. -/
theorem lookup_ne (h : Granted r n res r') {k : Option String} (hk : k ≠ n) :
    r'.managers.lookup k = r.managers.lookup k := by
  cases h with
  | memo _ | failed _ => rfl
  | built _ _ _ _ => simp [List.lookup_append, List.lookup_cons, beq_false_of_ne hk]

/-- A request leaves a kept manager kept. -/
theorem lookup_of_some (h : Granted r n res r') {k : Option String} {m : Manager L E H S}
    (hk : r.managers.lookup k = some m) : r'.managers.lookup k = some m := by
  cases h with
  | memo _ | failed _ => exact hk
  | built _ _ _ _ => simp [List.lookup_append, hk]

/-- The manager a request answers is kept after it. -/
theorem lookup_ok {m : Manager L E H S} (h : Granted r n (.ok m) r') :
    r'.managers.lookup n = some m := by
  cases h with
  | memo hl => exact hl
  | built hl _ _ _ => simp [List.lookup_append, hl]

/-- A request keeps the managers faithful to the sources. -/
theorem faithful (h : Granted r n res r') (hr : Faithful r) : Faithful r' := by
  cases h with
  | memo _ | failed _ => exact hr
  | @built m ds hl hname hds hb =>
    intro k m' hk
    rw [List.lookup_append] at hk
    rcases hkr : r.managers.lookup k with _ | m''
    · -- only the new manager is kept under a name that had none
      rw [hkr, Option.none_or] at hk
      by_cases hkn : k = n
      · subst hkn
        rw [List.lookup_cons_self, Option.some.injEq] at hk
        subst hk
        exact ⟨hname, ds, hds, hb⟩
      · simp [List.lookup_cons, beq_false_of_ne hkn] at hk
    · rw [hkr, Option.some_or, Option.some.injEq] at hk
      subst hk
      exact hr k _ hkr

/-- A manager a request answers carries its name and was built from the sources. -/
theorem built_of_ok {m : Manager L E H S} (h : Granted r n (.ok m) r') (hr : Faithful r) :
    m.name = n ∧ ∃ ds, r.declarationsFor n = .ok ds ∧ Built n ds m.caches m.failed := by
  cases h with
  | memo hl => exact hr n m hl
  | built _ hname hds hb => exact ⟨hname, _, hds, hb⟩

end Granted

variable [Named L] [KeyedLoader L W] [Listener E W] [Handler H W] [Storage S W] [Journal W]

/-- A kept manager is answered as it is: no source is read and the world is left alone. -/
theorem getManager_memo (r : Registry L E H S W) {n : Option String} {m : Manager L E H S}
    (h : r.managers.lookup n = some m) (w : W) :
    ((getManager n).run r).run w = ((.ok m, r), w) := by
  simp only [getManager, StateT.run_bind, StateT.run_get, pure_bind, h]
  rfl

omit [Named L] [KeyedLoader L W] [Listener E W] [Handler H W] [Storage S W] [Journal W] in
/-- What a request for a name with no kept manager leaves, from what building the manager gave:
the failure and the registry as it was, or the manager, kept under the name. -/
def keepBuilt (r : Registry L E H S W) (n : Option String) :
    Except Failure (Manager L E H S) × W →
      (Except Failure (Manager L E H S) × Registry L E H S W) × W
  | (.error e, w) => ((.error e, r), w)
  | (.ok m, w) => ((.ok m, { r with managers := r.managers ++ [(n, m)] }), w)

/-- The first request for a name builds its manager, and keeps it only if the build succeeds. -/
theorem getManager_miss (r : Registry L E H S W) {n : Option String}
    (h : r.managers.lookup n = none) (w : W) :
    ((getManager n).run r).run w = r.keepBuilt n ((r.build n).run w) := by
  simp only [getManager, StateT.run_bind, StateT.run_get, pure_bind, h]
  have hlift : StateT.run ((monadLift (r.build n) : StateT _ (StateM W) _).run r) w =
      ((((r.build n).run w).1, r), ((r.build n).run w).2) := rfl
  rw [hlift]
  rcases (r.build n).run w with ⟨_ | m, w'⟩ <;> rfl

/-- Every request for a manager does what `Granted` allows. -/
theorem getManager_granted (r : Registry L E H S W) (n : Option String) (w : W) :
    Granted r n (((getManager n).run r).run w).1.1 (((getManager n).run r).run w).1.2 := by
  rcases hl : r.managers.lookup n with _ | m
  · rw [getManager_miss r hl w]
    have hb := build_ensures r n w
    rcases h : (r.build n).run w with ⟨_ | m, w'⟩
    · exact .failed hl
    · rw [h] at hb
      obtain ⟨hname, ds, hds, hbuilt⟩ := hb m rfl
      exact .built hl hname hds hbuilt
  · rw [getManager_memo r hl w]
    exact .memo hl

end Registry

/-! ## Calls -/

/-- A call a program makes on a registry. -/
inductive Call where
  /-- The manager of a name. -/
  | getManager (name : Option String)
  /-- A cache of the manager of a name. -/
  | getCache (manager : Option String) (name : String)
  /-- The names of the managers built so far. -/
  | managerNames
  /-- Shuts the manager of a name down. -/
  | shutdown (name : Option String)

/-- What a call answers. -/
inductive Answer (L E H S : Type) where
  | manager (r : Except Failure (Manager L E H S))
  | cache (r : Except Failure (Option (Cache L E H S)))
  | names (ns : List (Option String))
  /-- The manager as its shutdown left it. -/
  | shutDown (r : Except Failure (Manager L E H S))

/-- A call's answer, with the manager request it made on the way, if any: the name asked for
and what the request gave. -/
structure Response (L E H S : Type) where
  request : Option (Option String × Except Failure (Manager L E H S))
  answer : Answer L E H S

namespace Response

variable {L E H S : Type}

/-- The manager request, if the call made one and it was answered. -/
def granted? (p : Response L E H S) : Option (Option String × Manager L E H S) :=
  match p.request with
  | some (n, .ok m) => some (n, m)
  | _ => none

/-- The manager the call leaves kept under the name it asked for, if it was granted one: that
manager, or for a shutdown the manager as the shutdown left it. -/
def left? (p : Response L E H S) : Option (Option String × Manager L E H S) :=
  match p.request, p.answer with
  | some (n, .ok _), .shutDown (.ok m') => some (n, m')
  | some (n, .ok m), _ => some (n, m)
  | _, _ => none

end Response

namespace Call

variable {L E H S W : Type} [Named L] [KeyedLoader L W] [Listener E W] [Handler H W]
  [Storage S W] [Journal W]

/-- Makes a call. A call on a manager asks for the manager first; a shutdown then keeps the
manager as the shutdown leaves it. -/
def run : Call → StateT (Registry L E H S W) (StateM W) (Response L E H S)
  | .getManager n => do
    let m ← Registry.getManager n
    pure ⟨some (n, m), .manager m⟩
  | .getCache n c => do
    let m ← Registry.getManager n
    match m with
    | .error e => pure ⟨some (n, m), .cache (.error e)⟩
    | .ok mgr => pure ⟨some (n, m), .cache (← monadLift (mgr.getCache (W := W) c))⟩
  | .managerNames => do
    pure ⟨none, .names (← get).managerNames⟩
  | .shutdown n => do
    let m ← Registry.getManager n
    match m with
    | .error e => pure ⟨some (n, m), .shutDown (.error e)⟩
    | .ok mgr =>
      let mgr' ← monadLift (mgr.shutdown (W := W))
      modify (·.setManager mgr')
      pure ⟨some (n, m), .shutDown (.ok mgr')⟩

/-- Makes calls in order. -/
def runAll (calls : List Call) : StateT (Registry L E H S W) (StateM W) (List (Response L E H S)) :=
  calls.mapM run

end Call

namespace Registry

variable {L E H S W : Type}

/-- What a call may do to a registry: answer the names of the kept managers, if it asks for no
manager; what its request for a manager does, answering neither names nor a shut-down manager;
and for a shutdown, then keep a later state of the manager, the one it answers, whose caches are
all inoperable. -/
inductive Effect (r : Registry L E H S W) : Response L E H S → Registry L E H S W → Prop
  | names {p : Response L E H S} : p.request = none → p.answer = .names r.managerNames →
      Effect r p r
  | request {p : Response L E H S} {n : Option String} {res : Except Failure (Manager L E H S)}
      {r' : Registry L E H S W} : p.request = some (n, res) → (∀ ns, p.answer ≠ .names ns) →
      (∀ m', p.answer ≠ .shutDown (.ok m')) → Granted r n res r' → Effect r p r'
  | shutdown {p : Response L E H S} {n : Option String} {m m' : Manager L E H S}
      {r' : Registry L E H S W} : p.request = some (n, .ok m) → p.answer = .shutDown (.ok m') →
      Granted r n (.ok m) r' → m.Same m' →
      (∀ q ∈ m'.caches, q.2.status.isOperable = false) → Effect r p (r'.setManager m')

theorem Effect.declarationsFor_eq {r r' : Registry L E H S W} {p : Response L E H S}
    (h : Effect r p r') (k : Option String) : r'.declarationsFor k = r.declarationsFor k := by
  cases h with
  | names _ _ => rfl
  | request _ _ _ hg => exact hg.declarationsFor_eq k
  | shutdown _ _ hg _ _ => exact hg.declarationsFor_eq k

/-- A call keeps the managers faithful to the sources: a shutdown keeps a later state of a
faithful manager under its own name. -/
theorem Faithful.effect {r r' : Registry L E H S W} {p : Response L E H S} (hr : Faithful r)
    (h : Effect r p r') : Faithful r' := by
  cases h with
  | names _ _ => exact hr
  | request _ _ _ hg => exact hg.faithful hr
  | @shutdown n m m' r₁ _ _ hg hsame _ =>
    have hr₁ := hg.faithful hr
    obtain ⟨hname, ds, hds, hb⟩ := hr₁ n m hg.lookup_ok
    intro k m₀ hk
    rw [lookup_setManager] at hk
    split at hk
    · -- the name of the shut-down manager is `n`, and it is kept there in its new state
      have hkn : k = n := by rw [‹k = m'.name›, hsame.1, hname]
      subst hkn
      rw [hg.lookup_ok, Option.map_some, Option.some.injEq] at hk
      subst hk
      exact ⟨hsame.1.trans hname, ds, hds, hsame.built hb⟩
    · exact hr₁ k m₀ hk

variable [Named L] [KeyedLoader L W] [Listener E W] [Handler H W] [Storage S W] [Journal W]

theorem run_getManager_bind {β : Type} (n : Option String)
    (f : Except Failure (Manager L E H S) → StateT (Registry L E H S W) (StateM W) β)
    (r : Registry L E H S W) (w : W) :
    ((getManager n >>= f).run r).run w =
      ((f (((getManager n).run r).run w).1.1).run (((getManager n).run r).run w).1.2).run
        (((getManager n).run r).run w).2 := rfl

/-- Every call does what `Effect` allows. -/
theorem run_effect (c : Call) (r : Registry L E H S W) (w : W) :
    Effect r (((c.run).run r).run w).1.1 (((c.run).run r).run w).1.2 := by
  cases c with
  | getManager n =>
    simp only [Call.run]
    rw [run_getManager_bind]
    exact .request rfl (fun _ h => by cases h) (fun _ h => by cases h)
      (getManager_granted r n w)
  | getCache n c =>
    simp only [Call.run]
    rw [run_getManager_bind]
    have hg := getManager_granted r n w
    rcases h : ((getManager n).run r).run w with ⟨⟨_ | mgr, r₁⟩, w₁⟩ <;> rw [h] at hg
    · exact .request rfl (fun _ h => by cases h) (fun _ h => by cases h) hg
    · exact .request rfl (fun _ h => by cases h) (fun _ h => by cases h) hg
  | managerNames => exact .names rfl rfl
  | shutdown n =>
    simp only [Call.run]
    rw [run_getManager_bind]
    have hg := getManager_granted r n w
    rcases h : ((getManager n).run r).run w with ⟨⟨_ | mgr, r₁⟩, w₁⟩ <;> rw [h] at hg
    · exact .request rfl (fun _ h => by cases h) (fun _ h => by cases h) hg
    · obtain ⟨hsame, hoff⟩ := Manager.shutdown_ensures mgr w₁
      exact .shutdown rfl rfl hg hsame hoff

/-- The registries a program can hold: a new one, and whatever a call leaves. -/
inductive Reachable : Registry L E H S W → Prop
  | fresh {r : Registry L E H S W} : r.managers = [] → Reachable r
  | call {r : Registry L E H S W} (c : Call) (w : W) :
      Reachable r → Reachable (((c.run).run r).run w).1.2

/-- Every manager a reachable registry keeps carries its name and was built from the sources. -/
theorem faithful_of_reachable {r : Registry L E H S W} (h : Reachable r) : Faithful r := by
  induction h with
  | fresh hr =>
    intro n m hm
    simp [hr] at hm
  | call c w _ ih => exact ih.effect (run_effect c _ w)

end Registry

end NamedCaches
