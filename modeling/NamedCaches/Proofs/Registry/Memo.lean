import Mathlib.Data.List.Induction
import NamedCaches.Proofs.Registry.Calls
import NamedCaches.Session.Basic
set_option autoImplicit false
/-!
# A registry builds each manager once

A registry keeps the managers it builds, one per name, and answers a kept manager again without
reading a source or asking a factory (`getManager_memo`). After any sequence of calls on a new
registry, the manager kept under a name is what the last call granted a manager of that name left
(`keptAfter`): the manager it was answered, or for a shutdown the manager as the shutdown left it,
still registered and with every cache inoperable. A failed request leaves nothing, so the names a
registry reports are at every point those of the successful requests so far, and the next request
for any other name builds from the sources again. The managers answered for one name are states
of one manager (`Manager.Same`), and those of different names differ and share no cache
(`runAll_memo`).

The invariant `Registry.Memo` ties the registry to the calls made on it; one lemma per kind of
effect (`Effect`) carries it over a call, and `Memo.runAll` over a whole run.
-/

namespace NamedCaches

open Json

/-! ## What calls leave kept -/

namespace Response

variable {L E H S : Type} {p : Response L E H S}

theorem left?_eq_none (h : p.request = none) : p.left? = none := by
  rcases p with ⟨req, a⟩
  dsimp only at h
  subst h
  rfl

theorem granted?_eq_none (h : p.request = none) : p.granted? = none := by
  rcases p with ⟨req, a⟩
  dsimp only at h
  subst h
  rfl

theorem granted?_of_request {n : Option String} {res : Except Failure (Manager L E H S)}
    (h : p.request = some (n, res)) :
    p.granted? = match res with
      | .ok m => some (n, m)
      | .error _ => none := by
  rcases p with ⟨req, a⟩
  dsimp only at h
  subst h
  cases res <;> rfl

theorem eq_of_granted? {n n' : Option String} {res : Except Failure (Manager L E H S)}
    {m : Manager L E H S} (h : p.request = some (n, res)) (hg : p.granted? = some (n', m)) :
    n' = n ∧ res = .ok m := by
  rw [granted?_of_request h] at hg
  cases res with
  | error e => cases hg
  | ok m' =>
    cases hg
    exact ⟨rfl, rfl⟩

/-- A call that is not a shutdown leaves what it was granted. -/
theorem left?_of_request {n : Option String} {res : Except Failure (Manager L E H S)}
    (h : p.request = some (n, res)) (ha : ∀ m', p.answer ≠ .shutDown (.ok m')) :
    p.left? = p.granted? := by
  rcases p with ⟨req, a⟩
  dsimp only at h ha
  subst h
  rcases res with e | m
  · rfl
  · rcases a with _ | _ | _ | (_ | m')
    · rfl
    · rfl
    · rfl
    · rfl
    · exact absurd rfl (ha m')

theorem left?_of_shutdown {n : Option String} {m m' : Manager L E H S}
    (h : p.request = some (n, .ok m)) (ha : p.answer = .shutDown (.ok m')) :
    p.left? = some (n, m') := by
  rcases p with ⟨req, a⟩
  dsimp only at h ha
  subst h ha
  rfl

/-- A call leaves a manager under a name exactly when it was granted one of that name. -/
theorem exists_left?_iff (p : Response L E H S) (n : Option String) :
    (∃ m, p.left? = some (n, m)) ↔ ∃ m, p.granted? = some (n, m) := by
  rcases p with ⟨_ | ⟨k, _ | m⟩, _ | _ | _ | (_ | m')⟩ <;> simp [left?, granted?]

end Response

/-- The manager the calls `ps` leave kept under `n`: what the last call granted a manager of that
name left. -/
def keptAfter {L E H S : Type} (ps : List (Response L E H S)) (n : Option String) :
    Option (Manager L E H S) :=
  ps.foldl (fun kept p =>
    match p.left? with
    | some (k, m) => if k = n then some m else kept
    | none => kept) none

section keptAfter

variable {L E H S : Type}

theorem keptAfter_append (ps : List (Response L E H S)) (p : Response L E H S) (n : Option String) :
    keptAfter (ps ++ [p]) n =
      match p.left? with
      | some (k, m) => if k = n then some m else keptAfter ps n
      | none => keptAfter ps n := by
  rw [keptAfter, List.foldl_append]
  rfl

/-- Some manager is kept under a name exactly when some call was granted one of that name. -/
theorem isSome_keptAfter (ps : List (Response L E H S)) (n : Option String) :
    (keptAfter ps n).isSome ↔ ∃ p ∈ ps, ∃ m, p.granted? = some (n, m) := by
  induction ps using List.reverseRecOn with
  | nil => simp [keptAfter]
  | append_singleton ps p ih =>
    have hp := p.exists_left?_iff n
    simp only [List.mem_append, List.mem_singleton, or_and_right, exists_or, exists_eq_left]
    rw [keptAfter_append, ← ih, ← hp]
    rcases hl : p.left? with _ | ⟨k, m⟩
    · simp
    · by_cases hk : k = n
      · subst hk
        simp
      · simp [hk]

end keptAfter

/-! ## The invariant -/

/-- Every usable cache of a built manager belongs to it. -/
theorem Built.manager_eq {L E H S : Type} {n : Option String} {ds : Declarations}
    {us : List (String × Cache L E H S)} {fs : List (String × Failure)} (h : Built n ds us fs) :
    ∀ a ∈ us, a.2.settings.manager = n := by
  induction h with
  | nil => simp
  | usable hs _ ih =>
    intro a ha
    rcases List.mem_cons.1 ha with rfl | ha
    · rw [hs]
      rfl
    · exact ih a ha
  | failed _ ih => exact ih

namespace Registry

variable {L E H S W : Type}

theorem Granted.eq_of_error {r r' : Registry L E H S W} {n : Option String} {e : Failure}
    (h : Granted r n (.error e) r') : r' = r := by
  cases h
  rfl

/-- A manager a request is granted for a name that has one kept is the kept one. -/
theorem Granted.eq_of_lookup {r r' : Registry L E H S W} {n : Option String}
    {m k : Manager L E H S} (h : Granted r n (.ok m) r') (hk : r.managers.lookup n = some k) :
    m = k := by
  cases h with
  | memo hl =>
    rw [hl, Option.some.injEq] at hk
    exact hk
  | built hl _ _ _ =>
    rw [hl] at hk
    cases hk

/-- A manager kept under a name that is the shut-down manager's is replaced by it. -/
theorem lookup_setManager_of_some (r : Registry L E H S W) {m m' : Manager L E H S}
    (h : r.managers.lookup m'.name = some m) (k : Option String) :
    (r.setManager m').managers.lookup k =
      if k = m'.name then some m' else r.managers.lookup k := by
  rw [lookup_setManager]
  by_cases hk : k = m'.name
  · rw [if_pos hk, if_pos hk, hk, h]
    rfl
  · rw [if_neg hk, if_neg hk]

variable [Named L] [KeyedLoader L W] [Listener E W] [Handler H W] [Storage S W] [Journal W]

/-! Building reads the sources and the factories, never the kept managers. -/

theorem buildCache_managers (r : Registry L E H S W) (ms : List (Option String × Manager L E H S))
    (manager : Option String) (name : String) (d : CacheDecl) :
    ({ r with managers := ms }).buildCache manager name d = r.buildCache manager name d := rfl

theorem buildAll_managers (r : Registry L E H S W) (ms : List (Option String × Manager L E H S))
    (manager : Option String) (label : String) :
    ∀ (ds : Declarations) (caches : List (String × Cache L E H S))
      (failed : List (String × Failure)),
      ({ r with managers := ms }).buildAll manager label ds caches failed =
        r.buildAll manager label ds caches failed
  | [], _, _ => rfl
  | (name, d) :: rest, caches, failed => by
    simp only [buildAll, buildCache_managers, buildAll_managers r ms manager label rest]

theorem build_managers (r : Registry L E H S W) (ms : List (Option String × Manager L E H S))
    (n : Option String) : ({ r with managers := ms }).build n = r.build n := by
  simp only [build, buildAll_managers]

theorem Granted.build_eq {r r' : Registry L E H S W} {n : Option String}
    {res : Except Failure (Manager L E H S)} (h : Granted r n res r') (k : Option String) :
    r'.build k = r.build k := by
  cases h with
  | memo _ | failed _ => rfl
  | built _ _ _ _ => exact build_managers r _ k

theorem build_setManager (r : Registry L E H S W) (m : Manager L E H S) (k : Option String) :
    (r.setManager m).build k = r.build k :=
  build_managers r _ k

/-- What a registry holds after the calls `ps` on the new registry `r₀`: it builds as `r₀` does,
its managers are faithful to the sources, under each name it keeps what `keptAfter` says, and
every manager a call was granted is an earlier state of the one kept under its name. -/
structure Memo (r₀ : Registry L E H S W) (ps : List (Response L E H S)) (r : Registry L E H S W) :
    Prop where
  builds : ∀ n, r.build n = r₀.build n
  faithful : r.Faithful
  kept : ∀ n, r.managers.lookup n = keptAfter ps n
  same : ∀ p ∈ ps, ∀ n m, p.granted? = some (n, m) →
    ∃ k, r.managers.lookup n = some k ∧ m.Same k

namespace Memo

variable {r₀ r r' : Registry L E H S W} {ps : List (Response L E H S)} {p : Response L E H S}

theorem fresh (h₀ : r₀.managers = []) : Memo r₀ [] r₀ where
  builds _ := rfl
  faithful n m hm := by simp [h₀] at hm
  kept n := by simp [h₀, keptAfter]
  same _ hp := by cases hp

/-- A call that asks for no manager keeps what was kept. -/
theorem names (h : Memo r₀ ps r) (hreq : p.request = none) : Memo r₀ (ps ++ [p]) r where
  builds := h.builds
  faithful := h.faithful
  kept n := by
    rw [keptAfter_append, Response.left?_eq_none hreq]
    exact h.kept n
  same q hq n m hg := by
    rcases List.mem_append.1 hq with hq | hq
    · exact h.same q hq n m hg
    · rw [List.mem_singleton.1 hq, Response.granted?_eq_none hreq] at hg
      cases hg

/-- A request keeps what it was granted, and a failed one keeps nothing new. -/
theorem request (h : Memo r₀ ps r) {n : Option String} {res : Except Failure (Manager L E H S)}
    (hreq : p.request = some (n, res)) (hans : ∀ m', p.answer ≠ .shutDown (.ok m'))
    (hg : Granted r n res r') : Memo r₀ (ps ++ [p]) r' where
  builds k := (hg.build_eq k).trans (h.builds k)
  faithful := hg.faithful h.faithful
  kept k := by
    rw [keptAfter_append, Response.left?_of_request hreq hans, Response.granted?_of_request hreq]
    rcases res with e | m
    · rw [hg.eq_of_error]
      exact h.kept k
    · dsimp only
      by_cases hk : n = k
      · subst hk
        rw [if_pos rfl]
        exact hg.lookup_ok
      · rw [if_neg hk, hg.lookup_ne (Ne.symm hk)]
        exact h.kept k
  same q hq k m hgq := by
    rcases List.mem_append.1 hq with hq | hq
    · obtain ⟨m', hk, hsame⟩ := h.same q hq k m hgq
      exact ⟨m', hg.lookup_of_some hk, hsame⟩
    · rw [List.mem_singleton.1 hq] at hgq
      obtain ⟨rfl, rfl⟩ := Response.eq_of_granted? hreq hgq
      exact ⟨m, hg.lookup_ok, .refl m⟩

/-- A shutdown keeps the manager it shut down in place of the one it was granted. -/
theorem shutdown (h : Memo r₀ ps r) {n : Option String} {m m' : Manager L E H S}
    {r₁ : Registry L E H S W} (hreq : p.request = some (n, .ok m))
    (hans : p.answer = .shutDown (.ok m')) (hg : Granted r n (.ok m) r₁) (hsame : m.Same m')
    (hoff : ∀ q ∈ m'.caches, q.2.status.isOperable = false) :
    Memo r₀ (ps ++ [p]) (r₁.setManager m') := by
  -- the shut-down manager keeps the name it was asked for, where the granted one is kept
  have hname : m'.name = n := hsame.1.trans (hg.built_of_ok h.faithful).1
  have hlook : ∀ k, (r₁.setManager m').managers.lookup k =
      if k = n then some m' else r₁.managers.lookup k := by
    rw [← hname]
    exact lookup_setManager_of_some r₁ (hname ▸ hg.lookup_ok)
  refine ⟨fun k => ((build_setManager r₁ m' k).trans (hg.build_eq k)).trans (h.builds k),
    h.faithful.effect (.shutdown hreq hans hg hsame hoff), fun k => ?_, fun q hq k mq hgq => ?_⟩
  · rw [hlook, keptAfter_append, Response.left?_of_shutdown hreq hans]
    dsimp only
    by_cases hk : k = n
    · subst hk
      rw [if_pos rfl, if_pos rfl]
    · rw [if_neg hk, if_neg (Ne.symm hk), hg.lookup_ne hk]
      exact h.kept k
  · rcases List.mem_append.1 hq with hq | hq
    · obtain ⟨mk, hk, hs⟩ := h.same q hq k mq hgq
      by_cases hkn : k = n
      · -- the manager kept there was the one the shutdown was granted
        subst hkn
        obtain rfl := hg.eq_of_lookup hk
        exact ⟨m', by rw [hlook, if_pos rfl], hs.trans hsame⟩
      · exact ⟨mk, by rw [hlook, if_neg hkn, hg.lookup_of_some hk], hs⟩
    · rw [List.mem_singleton.1 hq] at hgq
      obtain ⟨rfl, hm⟩ := Response.eq_of_granted? hreq hgq
      cases hm
      exact ⟨m', by rw [hlook, if_pos rfl], hsame⟩

/-- Every call keeps the invariant. -/
theorem effect (h : Memo r₀ ps r) (he : Effect r p r') : Memo r₀ (ps ++ [p]) r' := by
  cases he with
  | names hreq _ => exact Memo.names h hreq
  | request hreq _ hans hg => exact Memo.request h hreq hans hg
  | shutdown hreq hans hg hsame hoff => exact Memo.shutdown h hreq hans hg hsame hoff

/-- A manager a call was granted carries its name, and so do its caches. -/
theorem owned (h : Memo r₀ ps r) {p : Response L E H S} (hp : p ∈ ps) {n : Option String}
    {m : Manager L E H S} (hg : p.granted? = some (n, m)) :
    m.name = n ∧ ∀ a ∈ m.caches, a.2.settings.manager = n := by
  obtain ⟨k, hk, hsame⟩ := h.same p hp n m hg
  obtain ⟨hname, ds, -, hb⟩ := h.faithful n k hk
  refine ⟨hsame.1.symm.trans hname, fun a ha => ?_⟩
  -- the caches of `m` are those of `k`, with the same settings
  have hmem : (a.1, a.2.settings) ∈ k.caches.map fun q => (q.1, q.2.settings) := by
    rw [hsame.2.2]
    exact List.mem_map_of_mem ha
  obtain ⟨b, hb', hab⟩ := List.mem_map.1 hmem
  rw [← (Prod.mk.inj hab).2]
  exact hb.manager_eq b hb'

end Memo

/-- What a call answers after the calls `ps`: a manager it is granted is the one kept under its
name, if one is; the names it reports are those of the managers granted so far; and a shutdown
answers a manager whose caches are all inoperable. -/
structure Answered (ps : List (Response L E H S)) (p : Response L E H S) : Prop where
  memo : ∀ n m k, p.granted? = some (n, m) → keptAfter ps n = some k → m = k
  names : ∀ ns, p.answer = .names ns →
    ∀ n, n ∈ ns ↔ ∃ q ∈ ps, ∃ m, q.granted? = some (n, m)
  shutDown : ∀ m, p.answer = .shutDown (.ok m) →
    ∀ q ∈ m.caches, q.2.status.isOperable = false

theorem Memo.answered {r₀ r r' : Registry L E H S W} {ps : List (Response L E H S)}
    {p : Response L E H S} (h : Memo r₀ ps r) (he : Effect r p r') : Answered ps p := by
  cases he with
  | names hreq hans =>
    refine ⟨fun n m k hg => ?_, fun ns hns n => ?_, fun m hm => ?_⟩
    · rw [Response.granted?_eq_none hreq] at hg
      cases hg
    · rw [hans, Answer.names.injEq] at hns
      rw [← hns, mem_managerNames_iff, h.kept n, isSome_keptAfter]
    · rw [hans] at hm
      cases hm
  | request hreq hnames hans hg =>
    refine ⟨fun n m k hgp hk => ?_, fun ns hns => absurd hns (hnames ns),
      fun m hm => absurd hm (hans m)⟩
    obtain ⟨rfl, rfl⟩ := Response.eq_of_granted? hreq hgp
    exact hg.eq_of_lookup ((h.kept n).trans hk)
  | shutdown hreq hans hg _ hoff =>
    refine ⟨fun n m k hgp hk => ?_, fun ns hns => ?_, fun m hm => ?_⟩
    · obtain ⟨rfl, hm⟩ := Response.eq_of_granted? hreq hgp
      cases hm
      exact hg.eq_of_lookup ((h.kept n).trans hk)
    · rw [hans] at hns
      cases hns
    · rw [hans, Answer.shutDown.injEq, Except.ok.injEq] at hm
      subst hm
      exact hoff

end Registry

/-! ## Runs of calls -/

namespace Call

variable {L E H S W : Type} [Named L] [KeyedLoader L W] [Listener E W] [Handler H W]
  [Storage S W] [Journal W]

theorem runAll_nil (r : Registry L E H S W) (w : W) :
    ((runAll ([] : List Call)).run r).run w = (([], r), w) := rfl

theorem runAll_cons {c : Call} {cs : List Call} {r r₁ r₂ : Registry L E H S W} {w w₁ w₂ : W}
    {p : Response L E H S} {ps : List (Response L E H S)}
    (h₁ : ((c.run).run r).run w = ((p, r₁), w₁))
    (h₂ : ((runAll cs).run r₁).run w₁ = ((ps, r₂), w₂)) :
    ((runAll (c :: cs)).run r).run w = ((p :: ps, r₂), w₂) := by
  rw [runAll, List.mapM_cons, ← runAll]
  simp only [StateT.run_bind, StateT.run_pure, h₁]
  simp only [bind]
  rw [h₂]
  rfl

end Call

namespace Registry

variable {L E H S W : Type} [Named L] [KeyedLoader L W] [Listener E W] [Handler H W]
  [Storage S W] [Journal W]

/-- A run of calls keeps the invariant, and each call answers as `Answered` says. -/
theorem Memo.runAll {r₀ : Registry L E H S W} :
    ∀ (cs : List Call) (ps : List (Response L E H S)) (r : Registry L E H S W) (w : W)
      (ps' : List (Response L E H S)) (r' : Registry L E H S W) (w' : W),
      Memo r₀ ps r → ((Call.runAll cs).run r).run w = ((ps', r'), w') →
        Memo r₀ (ps ++ ps') r' ∧
          ∀ ps₁ p ps₂, ps' = ps₁ ++ p :: ps₂ → Answered (ps ++ ps₁) p
  | [], ps, r, w, ps', r', w', h, hrun => by
    rw [Call.runAll_nil] at hrun
    cases hrun
    refine ⟨by simpa using h, fun ps₁ p ps₂ hs => ?_⟩
    simp at hs
  | c :: cs, ps, r, w, ps', r', w', h, hrun => by
    -- the first call, then the rest from where it left the registry
    rcases h₁ : ((c.run).run r).run w with ⟨⟨p, r₁⟩, w₁⟩
    rcases h₂ : ((Call.runAll cs).run r₁).run w₁ with ⟨⟨ps'', r₂⟩, w₂⟩
    rw [Call.runAll_cons h₁ h₂] at hrun
    cases hrun
    have he := run_effect c r w
    rw [h₁] at he
    obtain ⟨hmemo, hans⟩ := Memo.runAll cs (ps ++ [p]) r₁ w₁ ps'' r' w' (h.effect he) h₂
    refine ⟨by simpa using hmemo, fun ps₁ q ps₂ hs => ?_⟩
    rcases ps₁ with _ | ⟨q', ps₁⟩
    · rw [List.nil_append, List.cons.injEq] at hs
      obtain ⟨rfl, -⟩ := hs
      simpa using h.answered he
    · rw [List.cons_append, List.cons.injEq] at hs
      obtain ⟨rfl, hs⟩ := hs
      simpa using hans ps₁ q ps₂ hs

/-- What a registry left as `r` by the calls `ps` on the new registry `r₀` remembers of them. -/
structure Remembers (r₀ : Registry L E H S W) (ps : List (Response L E H S))
    (r : Registry L E H S W) : Prop where
  /-- Under each name it keeps what the last call granted a manager of that name left. -/
  kept : ∀ n, r.managers.lookup n = keptAfter ps n
  /-- A kept manager is answered again without reading a source or touching the world. -/
  memo : ∀ n m, keptAfter ps n = some m → ∀ w : W,
    ((getManager n).run r).run w = ((.ok m, r), w)
  /-- Any other name is built from the sources again, and kept only if the build succeeds. -/
  rebuild : ∀ n, keptAfter ps n = none → ∀ w : W,
    ((getManager n).run r).run w = r.keepBuilt n ((r₀.build n).run w)
  /-- Every call answered as `Answered` says, after the calls before it. -/
  answered : ∀ ps₁ p ps₂, ps = ps₁ ++ p :: ps₂ → Answered ps₁ p
  /-- The managers granted for one name are states of one manager. -/
  same : ∀ p ∈ ps, ∀ q ∈ ps, ∀ n m m', p.granted? = some (n, m) →
    q.granted? = some (n, m') → m.Same m'
  /-- The managers granted for different names differ and share no cache. -/
  apart : ∀ p ∈ ps, ∀ q ∈ ps, ∀ n n' m m', p.granted? = some (n, m) →
    q.granted? = some (n', m') → n ≠ n' →
      m ≠ m' ∧ ∀ a ∈ m.caches, ∀ b ∈ m'.caches, a.2 ≠ b.2

/-- After any run of calls on a new registry, the registry remembers the calls as `Remembers`
says: each name keeps what the last call granted a manager of that name left, a kept manager is
answered without reading a source, any other name is built again, the names reported are at
every point those granted so far, a shutdown leaves its manager registered with every cache
inoperable, and the managers of one name are states of one manager while those of different
names share nothing. -/
theorem runAll_memo (r₀ : Registry L E H S W) (h₀ : r₀.managers = []) (cs : List Call) (w : W)
    (ps : List (Response L E H S)) (r : Registry L E H S W) (w' : W)
    (hrun : ((Call.runAll cs).run r₀).run w = ((ps, r), w')) : r₀.Remembers ps r := by
  obtain ⟨h, hans⟩ := Memo.runAll cs [] r₀ w ps r w' (Memo.fresh h₀) hrun
  rw [List.nil_append] at h
  refine ⟨h.kept, fun n m hk w₁ => ?_, fun n hk w₁ => ?_, fun ps₁ p ps₂ hs => ?_,
    fun p hp q hq n m m' hgp hgq => ?_, fun p hp q hq n n' m m' hgp hgq hn => ?_⟩
  · exact getManager_memo r ((h.kept n).trans hk) w₁
  · rw [getManager_miss r ((h.kept n).trans hk) w₁, h.builds n]
  · simpa using hans ps₁ p ps₂ hs
  · -- both are earlier states of the manager kept under the name
    obtain ⟨k, hk, hs⟩ := h.same p hp n m hgp
    obtain ⟨k', hk', hs'⟩ := h.same q hq n m' hgq
    rw [hk, Option.some.injEq] at hk'
    subst hk'
    exact hs.trans hs'.symm
  · -- each carries its own name, and so does each of its caches
    obtain ⟨hname, hcaches⟩ := h.owned hp hgp
    obtain ⟨hname', hcaches'⟩ := h.owned hq hgq
    refine ⟨fun hmm => hn (hname.symm.trans (hmm ▸ hname')), fun a ha b hb hab => hn ?_⟩
    rw [← hcaches a ha, ← hcaches' b hb, hab]

end Registry

/-- A registry whose base source declares a cache `c`, and whose source for the manager `bad`
declares a cache with a loader factory that is not registered. -/
def memoBench : BenchRegistry :=
  BenchRegistry.create { name := "base", origin := .declared (.ofList [("c", {})]) }
    [("bad", { name := "bad",
               origin := .declared (.ofList [("x", { loader := some { factory := "nope" } })]) })]
    default

/-- The default manager twice, a failed manager, a shutdown, the names, and a manager named
`default`. -/
def memoCalls : List Call :=
  [.getManager none, .getManager (some "bad"), .getManager none, .shutdown none,
    .getCache none "c", .managerNames, .getManager (some "default")]

theorem runAll_memo_bench :
    memoBench.managers = [] ∧
      ∃ (ps : List (Response BenchLoader BenchListener BenchHandler BenchStore))
        (r : BenchRegistry) (w' : World),
        ((Call.runAll memoCalls).run memoBench).run ({} : World) = ((ps, r), w') ∧
          memoBench.Remembers ps r := by
  rcases hrun : ((Call.runAll memoCalls).run memoBench).run ({} : World) with ⟨⟨ps, r⟩, w'⟩
  exact ⟨rfl, ps, r, w', rfl, Registry.runAll_memo memoBench rfl memoCalls {} ps r w' hrun⟩

/-- The failed manager is not kept, and `none` and `default` are different names. -/
example : (((Call.runAll memoCalls).run memoBench).run ({} : World)).1.2.managerNames =
    [none, some "default"] := rfl

end NamedCaches
