import Mathlib.Control.Monad.Basic
import NamedCaches.Bench.Handler
import NamedCaches.Bench.Listener
import NamedCaches.Bench.Loader
import NamedCaches.Proofs.Registry.Failures
set_option autoImplicit false
/-!
# Batch reads

A batch read (`Cache.getAll`) looks every key up in the store, once per occurrence and in order
(`Cache.lookups`). The values found are the hits, a later lookup of a key winning
(`Cache.hitsOf`); the keys missed form one set, each once (`Cache.missedOf`). With nothing
missed, or no loader ready, the read answers the hits. Otherwise the loader is asked once for
the whole set, by `loadAll`, or by `loadAllWith` when an argument is given. A failure of the
whole batch ends the read when it is not recoverable; a recoverable one goes to the handler with
no key, and the read answers the hits. The batch's per-key failures go to the handler in order,
with their keys, up to the first that is not recoverable, which ends the read before anything is
stored; otherwise every value of the batch is `put`, in order, and the read answers the hits
overwritten by the batch's values.

The read is given here phase by phase (`Cache.readInBatch`, equal to `getAll`), with one exec
lemma per phase, and `Cache.BatchRead` states the whole run. The batch's values are taken as
they come: the read stores and answers whatever the batch holds, also for a key that an earlier
lookup found, when the store dropped it before a later lookup of the same read
(`Cache.getAll_answers_hits_then_batch`, `Cache.getAll_overwrites_found_value`).
-/

namespace NamedCaches

/-! ## Field lists built in order -/

namespace Json.Fields

variable {α : Type}

/-- Building from entries and then from more is inserting the more into what the first built. -/
theorem ofList_append (es more : List (String × α)) :
    ofList (es ++ more) = more.foldl (fun acc p => insert p.1 p.2 acc) (ofList es) := by
  rw [ofList, List.foldl_append]
  rfl

theorem get?_foldl_insert_of_not_mem {k : String} :
    ∀ (more acc : List (String × α)), k ∉ more.map Prod.fst →
      get? k (more.foldl (fun a p => insert p.1 p.2 a) acc) = get? k acc
  | [], _, _ => rfl
  | p :: more, acc, hk => by
    rw [List.map_cons, List.mem_cons, not_or] at hk
    rw [List.foldl_cons, get?_foldl_insert_of_not_mem more _ hk.2, get?_insert, if_neg hk.1]

theorem mem_keys_foldl_insert {k : String} :
    ∀ (more acc : List (String × α)), k ∈ (more.foldl (fun a p => insert p.1 p.2 a) acc).map Prod.fst →
      k ∈ acc.map Prod.fst ∨ k ∈ more.map Prod.fst
  | [], _, hk => .inl hk
  | p :: more, acc, hk => by
    rw [List.foldl_cons] at hk
    rcases mem_keys_foldl_insert more _ hk with hk | hk
    · rcases mem_keys_insert p.1 k p.2 acc hk with rfl | hk
      · exact .inr (List.mem_cons_self ..)
      · exact .inl hk
    · exact .inr (List.mem_cons_of_mem _ hk)

/-- A key that no later entry sets keeps what the earlier entries give it. -/
theorem get?_ofList_append_of_not_mem {k : String} (es : List (String × α))
    {more : List (String × α)} (hk : k ∉ more.map Prod.fst) :
    get? k (ofList (es ++ more)) = get? k (ofList es) := by
  rw [ofList_append, get?_foldl_insert_of_not_mem more _ hk]

/-- A built list has only keys of its entries. -/
theorem mem_keys_ofList {k : String} (es : List (String × α))
    (hk : k ∈ (ofList es).map Prod.fst) : k ∈ es.map Prod.fst := by
  rw [show ofList es = ofList ([] ++ es) from rfl, ofList_append] at hk
  rcases mem_keys_foldl_insert es _ hk with hk | hk
  · simp [ofList] at hk
  · exact hk

end Json.Fields

namespace Cache

variable {L E H S W : Type}

/-! ## Missed keys as a set -/

theorem mem_addKey {ks : List String} {k x : String} : x ∈ addKey ks k ↔ x = k ∨ x ∈ ks := by
  unfold addKey
  split
  · rename_i hk
    rw [List.contains_iff_mem] at hk
    constructor
    · exact .inr
    · rintro (rfl | hx)
      · exact hk
      · exact hx
  · rw [(List.mergeSort_perm _ _).mem_iff, List.mem_cons]

theorem nodup_addKey {ks : List String} (h : ks.Nodup) (k : String) : (addKey ks k).Nodup := by
  unfold addKey
  split
  · exact h
  · rename_i hk
    rw [List.contains_iff_mem] at hk
    exact (List.mergeSort_perm _ _).nodup_iff.2 (List.nodup_cons.2 ⟨hk, h⟩)

theorem foldl_addKey (ms : List String) :
    ∀ ks : List String, ms.Nodup →
      (ks.foldl addKey ms).Nodup ∧ ∀ x, x ∈ ks.foldl addKey ms ↔ x ∈ ms ∨ x ∈ ks
  | [], h => ⟨h, fun x => by simp⟩
  | k :: ks, h => by
    obtain ⟨hnd, hmem⟩ := foldl_addKey (addKey ms k) ks (nodup_addKey h k)
    refine ⟨hnd, fun x => ?_⟩
    rw [List.foldl_cons, hmem, mem_addKey, List.mem_cons]
    tauto

/-! ## Reporting a batch's failures -/

section
variable [Handler H W]

/-- The handler told of failures in order, each with its key. -/
def reportEach (c : Cache L E H S) (fs : List (String × Failure)) : StateM W Unit :=
  fs.forM fun p => Handler.onFailure c.handler c.settings (some p.1) p.2

theorem reportEach_congr {c c' : Cache L E H S} (hh : c'.handler = c.handler)
    (hs : c'.settings = c.settings) (fs : List (String × Failure)) :
    (reportEach c' fs : StateM W Unit) = reportEach c fs := by
  rw [reportEach, reportEach, hh, hs]

/-- Reports a batch's failures in order, each with its key, up to the first that is not
recoverable: that one ends the read. -/
def reportFailures (fs : List (String × Failure)) : CacheM L E H S W Unit :=
  fs.forM fun p => if p.2.isRecoverable then report (some p.1) p.2 else throw p.2

/-- Failures that are all recoverable all go to the handler, in order. -/
theorem exec_reportFailures_recovered :
    ∀ {fs : List (String × Failure)} {c : Cache L E H S} {w : W},
      (∀ p ∈ fs, p.2.isRecoverable = true) →
        exec (reportFailures fs) c w = ((.ok (), c), ((reportEach c fs).run w).2)
  | [], _, _, _ => rfl
  | p :: fs, c, w, h => by
    rw [reportFailures, List.forM_eq_forM, List.forM_cons, ← List.forM_eq_forM, ← reportFailures,
      exec_bind, if_pos (h p List.mem_cons_self), exec_report]
    dsimp only
    rw [exec_reportFailures_recovered fun q hq => h q (List.mem_cons_of_mem _ hq)]
    rfl

/-- The failures before the first that is not recoverable go to the handler, in order; that one
is thrown, and the failures after it are not looked at. -/
theorem exec_reportFailures_fails {k : String} {f : Failure} {post : List (String × Failure)}
    (hf : f.isRecoverable = false) :
    ∀ {pre : List (String × Failure)} {c : Cache L E H S} {w : W},
      (∀ p ∈ pre, p.2.isRecoverable = true) →
        exec (reportFailures (pre ++ (k, f) :: post)) c w =
          ((.error f, c), ((reportEach c pre).run w).2)
  | [], c, w, _ => by
    rw [List.nil_append, reportFailures, List.forM_eq_forM, List.forM_cons, exec_bind,
      if_neg (by simp [hf]), exec_throw]
    rfl
  | p :: pre, c, w, h => by
    rw [List.cons_append, reportFailures, List.forM_eq_forM, List.forM_cons, ← List.forM_eq_forM,
      ← reportFailures, exec_bind, if_pos (h p List.mem_cons_self), exec_report]
    dsimp only
    rw [exec_reportFailures_fails hf fun q hq => h q (List.mem_cons_of_mem _ hq)]
    rfl

end

/-- Failures that are not all recoverable have a first one that is not. -/
theorem exists_first_fatal :
    ∀ {fs : List (String × Failure)}, ¬ (∀ p ∈ fs, p.2.isRecoverable = true) →
      ∃ pre k f post, fs = pre ++ (k, f) :: post ∧ (∀ p ∈ pre, p.2.isRecoverable = true) ∧
        f.isRecoverable = false
  | [], h => absurd (fun _ hp => absurd hp List.not_mem_nil) h
  | ⟨k, f⟩ :: fs, h => by
    cases hf : f.isRecoverable
    · exact ⟨[], k, f, fs, rfl, fun _ hp => absurd hp List.not_mem_nil, hf⟩
    · have hfs : ¬ ∀ p ∈ fs, p.2.isRecoverable = true := fun hall =>
        h fun p hp => (List.mem_cons.1 hp).elim (fun hp => hp ▸ hf) (hall p)
      obtain ⟨pre, k', f', post, rfl, hpre, hf'⟩ := exists_first_fatal hfs
      refine ⟨(k, f) :: pre, k', f', post, rfl, fun p hp => ?_, hf'⟩
      exact (List.mem_cons.1 hp).elim (fun hp => hp ▸ hf) (hpre p)

/-- The batch load, with or without the argument. -/
theorem dispatchAll_eq_elim [KeyedLoader L W] (ms : List String) (arg : Option Argument) :
    (dispatchAll ms arg : LoaderM L W _) =
      arg.elim (KeyedLoader.loadAll ms) (KeyedLoader.loadAllWith ms) := by
  cases arg <;> rfl

/-! ## A batch read, phase by phase -/

section
variable [Listener E W] [Handler H W] [Storage S W] [Journal W]

/-- One lookup of a batch read: the stored value, or nothing when the store holds none or its
read failed recoverably (the failure then goes to the handler, with the key). -/
def lookup (k : String) : CacheM L E H S W (Option String) :=
  Option.join <$> (onStore (Storage.get (W := W) k) >>= isolate (some k))

/-- The lookups of a batch read: every key in turn, once per occurrence, with what it found. -/
def lookups (ks : List String) : CacheM L E H S W (List (String × Option String)) :=
  ks.mapM fun k => (k, ·) <$> lookup k

/-- The values the lookups found, in lookup order. -/
def hitsOf (found : List (String × Option String)) : List (String × String) :=
  found.filterMap fun p => p.2.map (p.1, ·)

/-- The keys the lookups missed, each once, as a batch read asks the loader for them. -/
def missedOf (found : List (String × Option String)) : List String :=
  ((found.filter fun p => p.2.isNone).map Prod.fst).foldl addKey []

/-- Takes a loaded batch: reports its failures, then stores its values, answering the hits
overwritten by them. -/
def storeBatch (hits : List (String × String)) (batch : Batch) :
    CacheM L E H S W (List (String × String)) := do
  reportFailures batch.failures
  putAll batch.values
  pure (batch.values.foldl (fun acc p => Json.Fields.insert p.1 p.2 acc) hits)

/-- Takes the loader's answer: a failure of the whole batch that is recoverable goes to the
handler, with no key, and the read answers the hits; a loaded batch is taken by `storeBatch`. -/
def takeBatch (hits : List (String × String)) (r : Except Failure Batch) :
    CacheM L E H S W (List (String × String)) := do
  let batch? ← isolate none r
  batch?.elim (pure hits) (storeBatch hits)

/-- The bookkeeping of a batch read after one lookup: a value found joins the hits, a missed key
the set of keys to load. -/
def tally (acc : List (String × String) × List String) (p : String × Option String) :
    List (String × String) × List String :=
  (p.2.elim acc.1 fun v => Json.Fields.insert p.1 v acc.1,
    if p.2.isSome then acc.2 else addKey acc.2 p.1)

theorem foldl_tally :
    ∀ (found : List (String × Option String)) (hs : List (String × String)) (ms : List String),
      found.foldl tally (hs, ms) =
        ((hitsOf found).foldl (fun acc p => Json.Fields.insert p.1 p.2 acc) hs,
          ((found.filter fun p => p.2.isNone).map Prod.fst).foldl addKey ms)
  | [], _, _ => rfl
  | ⟨k, none⟩ :: found, hs, ms => by
    simp only [List.foldl_cons, tally, Option.elim_none, Option.isSome_none,
      if_neg Bool.false_ne_true]
    rw [foldl_tally found]
    simp [hitsOf]
  | ⟨k, some v⟩ :: found, hs, ms => by
    simp only [List.foldl_cons, tally, Option.elim_some, Option.isSome_some, if_true]
    rw [foldl_tally found]
    simp [hitsOf]

/-- A fold whose step looks a key up and tallies what it found is the lookups, tallied. -/
theorem foldlM_tally {g : List (String × String) × List String → String →
      CacheM L E H S W (List (String × String) × List String)}
    (hg : ∀ acc k, g acc k = (fun o => tally acc (k, o)) <$> lookup k) :
    ∀ (ks : List String) (acc : List (String × String) × List String),
      ks.foldlM g acc = (fun found => found.foldl tally acc) <$> lookups ks
  | [], acc => by simp [lookups]
  | k :: ks, acc => by
    rw [List.foldlM_cons, hg, lookups, List.mapM_cons, ← lookups]
    simp only [map_bind, bind_map_left, bind_pure_comp, Functor.map_map, List.foldl_cons,
      foldlM_tally hg ks]

/-- A fold whose step puts an entry and inserts it is the puts, then the inserts. -/
theorem foldlM_put {g : List (String × String) → String × String →
      CacheM L E H S W (List (String × String))}
    (hg : ∀ acc p, g acc p = put p.1 p.2 >>= fun _ => pure (Json.Fields.insert p.1 p.2 acc)) :
    ∀ (vs acc : List (String × String)),
      vs.foldlM g acc =
        putAll vs >>= fun _ => pure (vs.foldl (fun a p => Json.Fields.insert p.1 p.2 a) acc)
  | [], acc => by simp [putAll]
  | p :: vs, acc => by
    rw [List.foldlM_cons, hg, putAll, List.forM_eq_forM, List.forM_cons, ← List.forM_eq_forM,
      ← putAll]
    simp only [bind_assoc, pure_bind, foldlM_put hg vs, List.foldl_cons]

/-! ## Running the lookups and the batch -/

variable {c : Cache L E H S} {w : W}

/-- Every occurrence of a key is looked up, in order. -/
theorem keys_of_exec_lookups :
    ∀ {ks : List String} {c : Cache L E H S} {w : W} {found : List (String × Option String)}
      {c₁ : Cache L E H S} {w₁ : W},
      exec (lookups ks) c w = ((.ok found, c₁), w₁) → found.map Prod.fst = ks
  | [], _, _, _, _, _, h => by
    rw [lookups, List.mapM_nil, exec_pure] at h
    cases h
    rfl
  | k :: ks, _, _, _, _, _, h => by
    rw [lookups, List.mapM_cons, ← lookups] at h
    obtain ⟨p, c', w', hp, h⟩ := exec_bind_eq_ok h
    obtain ⟨ps, c'', w'', hps, h⟩ := exec_bind_eq_ok h
    obtain ⟨o, -, rfl⟩ := exec_map_eq_ok hp
    rw [exec_pure] at h
    cases h
    rw [List.map_cons, keys_of_exec_lookups hps]

/-- Looking up changes the cache's store only. -/
theorem fixes_lookups {γ : Type} {f : Cache L E H S → γ}
    (hs : ∀ c s, f { c with store := s } = f c) (ks : List String) :
    Fixes f (lookups ks : CacheM L E H S W _) :=
  fixes_mapM _ (fun _ => (((fixes_onStore hs _).bind fun r => fixes_isolate _ r).map _).map _) ks

theorem exec_lookups_keeps {ks : List String} {r : Except Failure (List (String × Option String))}
    {c₁ : Cache L E H S} {w₁ : W} (h : exec (lookups ks) c w = ((r, c₁), w₁)) :
    c₁.binding = c.binding ∧ c₁.handler = c.handler ∧ c₁.settings = c.settings := by
  have hf := fixes_lookups (f := fun c : Cache L E H S => (c.binding, c.handler, c.settings))
    (fun _ _ => rfl) ks c w
  rw [h, Prod.mk.injEq, Prod.mk.injEq] at hf
  exact hf

theorem mem_missedOf {found : List (String × Option String)} {k : String} :
    k ∈ missedOf found ↔ (k, none) ∈ found := by
  rw [missedOf, ((foldl_addKey [] _ List.nodup_nil).2 k)]
  simp only [List.not_mem_nil, false_or, List.mem_map, List.mem_filter]
  constructor
  · rintro ⟨⟨k', _ | v⟩, ⟨hp, ho⟩, rfl⟩
    · exact hp
    · cases ho
  · intro hk
    exact ⟨(k, none), ⟨hk, rfl⟩, rfl⟩

theorem nodup_missedOf (found : List (String × Option String)) : (missedOf found).Nodup :=
  (foldl_addKey [] _ List.nodup_nil).1

theorem mem_keys_hitsOf {found : List (String × Option String)} {k : String}
    (hk : k ∈ (hitsOf found).map Prod.fst) : k ∈ found.map Prod.fst := by
  simp only [hitsOf, List.mem_map, List.mem_filterMap, Option.map_eq_some_iff] at hk ⊢
  obtain ⟨_, ⟨p, hp, v, -, rfl⟩, rfl⟩ := hk
  exact ⟨p, hp, rfl⟩

theorem exec_storeBatch_fails (hits : List (String × String)) {batch : Batch}
    {pre : List (String × Failure)} {k : String} {f : Failure} {post : List (String × Failure)}
    (hfs : batch.failures = pre ++ (k, f) :: post) (hpre : ∀ p ∈ pre, p.2.isRecoverable = true)
    (hf : f.isRecoverable = false) :
    exec (storeBatch hits batch) c w = ((.error f, c), ((reportEach c pre).run w).2) := by
  rw [storeBatch, hfs, exec_bind_error (exec_reportFailures_fails hf hpre)]

theorem exec_storeBatch (hits : List (String × String)) {batch : Batch}
    (h : ∀ p ∈ batch.failures, p.2.isRecoverable = true) :
    exec (storeBatch hits batch) c w =
      exec ((fun _ => batch.values.foldl (fun acc p => Json.Fields.insert p.1 p.2 acc) hits) <$>
        putAll batch.values) c ((reportEach c batch.failures).run w).2 := by
  rw [storeBatch, exec_bind_ok (exec_reportFailures_recovered h), map_eq_bind_pure_comp]
  rfl

theorem exec_takeBatch_fatal (hits : List (String × String)) {f : Failure}
    (hf : f.isRecoverable = false) :
    exec (takeBatch hits (.error f)) c w = ((.error f, c), w) := by
  rw [takeBatch, exec_bind_error (exec_isolate_fatal _ _ hf)]

theorem exec_takeBatch_recovered (hits : List (String × String)) {f : Failure}
    (hf : f.isRecoverable = true) :
    exec (takeBatch hits (.error f)) c w =
      ((.ok hits, c), ((Handler.onFailure c.handler c.settings none f).run w).2) := by
  rw [takeBatch, exec_bind_ok (exec_isolate_recoverable _ _ hf)]
  rfl

theorem exec_takeBatch_ok (hits : List (String × String)) (batch : Batch) :
    exec (takeBatch hits (.ok batch)) c w = exec (storeBatch hits batch) c w := by
  rw [takeBatch, exec_bind_ok (exec_isolate_ok _ _)]
  rfl

/-! ## After the loader answers -/

/-- What a batch read gives, `out` (its result, cache and world), once the loader has answered
`r` and left the cache `c₂` and the world `w₂`; `c` is the cache the read started from and
`found` what its lookups found. -/
structure AfterLoad (c : Cache L E H S) (found : List (String × Option String))
    (r : Except Failure Batch) (c₂ : Cache L E H S) (w₂ : W)
    (out : (Except Failure (List (String × String)) × Cache L E H S) × W) : Prop where
  /-- A failure of the whole batch that is not recoverable ends the read. -/
  batch_fails : ∀ {f : Failure}, r = .error f → f.isRecoverable = false →
    out = ((.error f, c₂), w₂)
  /-- A recoverable one goes to the handler, with no key, and the read answers the hits. -/
  batch_reported : ∀ {f : Failure}, r = .error f → f.isRecoverable = true →
    out = ((.ok (Json.Fields.ofList (hitsOf found)), c₂),
      ((Handler.onFailure c.handler c.settings none f).run w₂).2)
  /-- The batch's failures go to the handler in order, with their keys, up to the first that is
  not recoverable, which ends the read: nothing is stored and no listener is told. -/
  key_fails : ∀ {batch : Batch} {pre : List (String × Failure)} {k : String} {f : Failure}
      {post : List (String × Failure)}, r = .ok batch → batch.failures = pre ++ (k, f) :: post →
    (∀ p ∈ pre, p.2.isRecoverable = true) → f.isRecoverable = false →
    out = ((.error f, c₂), ((reportEach c pre).run w₂).2)
  /-- Otherwise, once they are reported, every value of the batch is put, in order, and the read
  answers the hits overwritten by the batch's values. -/
  stores : ∀ {batch : Batch}, r = .ok batch → (∀ p ∈ batch.failures, p.2.isRecoverable = true) →
    out = exec ((fun _ => Json.Fields.ofList (hitsOf found ++ batch.values)) <$>
      putAll batch.values) c₂ ((reportEach c batch.failures).run w₂).2

/-- The loader's answer taken from the cache `c₂` that the call left, which has the handler and
settings of the cache the read started from. -/
theorem afterLoad_takeBatch {found : List (String × Option String)} {r : Except Failure Batch}
    {c₂ : Cache L E H S} {w₂ : W} (hh : c₂.handler = c.handler) (hs : c₂.settings = c.settings) :
    AfterLoad c found r c₂ w₂ (exec (takeBatch (Json.Fields.ofList (hitsOf found)) r) c₂ w₂) where
  batch_fails hr hf := by
    subst hr
    exact exec_takeBatch_fatal _ hf
  batch_reported hr hf := by
    subst hr
    rw [exec_takeBatch_recovered _ hf, hh, hs]
  key_fails hr hfs hpre hf := by
    subst hr
    rw [exec_takeBatch_ok, exec_storeBatch_fails _ hfs hpre hf, reportEach_congr hh hs]
  stores hr hall := by
    subst hr
    rw [exec_takeBatch_ok, exec_storeBatch _ hall, reportEach_congr hh hs,
      Json.Fields.ofList_append]

/-! ## Loading the missed keys -/

variable [Named L] [KeyedLoader L W]

/-- What a batch read does once it has looked its keys up: it answers the hits, unless keys were
missed and a loader is ready; then it loads the missed keys as one batch and takes the answer. -/
def loadMissed (hits : List (String × String)) (missed : List String) (arg : Option Argument) :
    CacheM L E H S W (List (String × String)) := do
  let c ← current
  if missed.isEmpty || (readyBinding c).isNone then pure hits
  else
    let r? ← onBinding (Binding.onLoader (dispatchAll missed arg))
    r?.elim (pure hits) (takeBatch hits)

/-- A batch read, phase by phase. -/
def readInBatch (ks : List String) (arg : Option Argument) :
    CacheM L E H S W (List (String × String)) := do
  checkOperable "get_all"
  let found ← lookups ks
  loadMissed (Json.Fields.ofList (hitsOf found)) (missedOf found) arg

theorem getAll_eq_readInBatch (ks : List String) (arg : Option Argument) :
    (getAll ks arg : CacheM L E H S W _) = readInBatch ks arg := by
  -- the code's fold over the keys is the lookups, tallied; the rest agrees branch by branch
  rw [getAll, readInBatch, foldlM_tally ?step ks ([], [])]
  case step =>
    intro acc k
    simp only [lookup, map_bind, Functor.map_map]
    congr 1
    funext r
    congr 1
    funext o
    rcases o with _ | _ | v <;> rfl
  simp only [bind_map_left]
  refine bind_congr fun _ => bind_congr fun found => ?_
  rw [foldl_tally]
  dsimp only
  rw [show (hitsOf found).foldl (fun acc p => Json.Fields.insert p.1 p.2 acc) [] =
      Json.Fields.ofList (hitsOf found) from rfl,
    show ((found.filter fun p => p.2.isNone).map Prod.fst).foldl addKey [] = missedOf found from rfl,
    loadMissed]
  refine bind_congr fun c => ?_
  by_cases hc : (missedOf found).isEmpty || (readyBinding c).isNone
  · rw [if_pos hc, if_pos hc]
  rw [if_neg hc, if_neg hc]
  refine bind_congr fun r? => ?_
  rcases r? with _ | r
  · rfl
  -- the code's own continuation, on the loader's answer, is `takeBatch` written out
  rw [Option.elim_some, takeBatch]
  refine bind_congr fun batch? => ?_
  rcases batch? with _ | batch
  · rfl
  dsimp only [Option.elim_some]
  rw [foldlM_put (fun _ _ => rfl), storeBatch]
  rfl

theorem exec_loadMissed_hits (hits : List (String × String)) {missed : List String}
    (arg : Option Argument) (h : missed = [] ∨ readyBinding c = none) :
    exec (loadMissed hits missed arg) c w = ((.ok hits, c), w) := by
  have hc : (missed.isEmpty || (readyBinding c).isNone) = true := by
    rcases h with rfl | h
    · rfl
    · simp [h]
  rw [loadMissed, exec_bind_ok exec_current, if_pos hc, exec_pure]

/-- With keys missed and a loader ready, the loader is called once, on the missed keys, and the
read goes on with its answer, from the cache that keeps the loader the call left. -/
theorem exec_loadMissed_loads (hits : List (String × String)) {missed : List String}
    {arg : Option Argument} {b : Binding L} {r : Except Failure Batch} {l : L} {w₂ : W}
    (hne : missed ≠ []) (hb : readyBinding c = some b)
    (hrun : ((dispatchAll missed arg).run b.loader).run w = ((r, l), w₂)) :
    exec (loadMissed hits missed arg) c w =
      exec (takeBatch hits r) { c with binding := some { b with loader := l } } w₂ := by
  have hbind : c.binding = some b := (Option.filter_eq_some_iff.1 hb).1
  have hc : ¬ (missed.isEmpty || (readyBinding c).isNone) = true := by
    simp [hb, List.isEmpty_iff, hne]
  rw [loadMissed, exec_bind_ok exec_current, if_neg hc,
    exec_bind_ok (exec_onBinding_loader _ hbind), hrun]
  rfl

/-- A successful read after the lookups: the only entries it stores are the values of the
loader's batch, put in order, and it answers the hits overwritten by them. -/
theorem exec_loadMissed_eq_ok {hits : List (String × String)} {missed : List String}
    {arg : Option Argument} {m : List (String × String)} {c' : Cache L E H S} {w' : W}
    (h : exec (loadMissed hits missed arg) c w = ((.ok m, c'), w')) :
    ∃ vals c₂ w₂, c₂.store = c.store ∧ exec (putAll vals) c₂ w₂ = ((.ok (), c'), w') ∧
      m = vals.foldl (fun acc p => Json.Fields.insert p.1 p.2 acc) hits ∧
      (vals = [] ∨ ∃ b l batch w₃, readyBinding c = some b ∧
        ((dispatchAll missed arg).run b.loader).run w = ((.ok batch, l), w₃) ∧
        vals = batch.values) := by
  by_cases hno : missed = [] ∨ readyBinding c = none
  · rw [exec_loadMissed_hits _ _ hno] at h
    cases h
    exact ⟨[], c, w, rfl, rfl, rfl, .inl rfl⟩
  obtain ⟨hne, hb⟩ := not_or.1 hno
  obtain ⟨b, hb⟩ := Option.ne_none_iff_exists'.1 hb
  rcases hrun : ((dispatchAll missed arg).run b.loader).run w with ⟨⟨r, l⟩, w₃⟩
  rw [exec_loadMissed_loads _ hne hb hrun] at h
  rcases r with f | batch
  · -- the whole batch failed: only a recoverable failure lets the read succeed, with the hits
    cases hf : f.isRecoverable
    · rw [exec_takeBatch_fatal _ hf] at h
      cases h
    · rw [exec_takeBatch_recovered _ hf] at h
      cases h
      exact ⟨[], { c with binding := some { b with loader := l } }, _, rfl, rfl, rfl, .inl rfl⟩
  · rw [exec_takeBatch_ok] at h
    by_cases hall : ∀ p ∈ batch.failures, p.2.isRecoverable = true
    · rw [exec_storeBatch _ hall] at h
      obtain ⟨⟨⟩, hput, rfl⟩ := exec_map_eq_ok h
      exact ⟨batch.values, { c with binding := some { b with loader := l } }, _, rfl, hput, rfl,
        .inr ⟨b, l, batch, w₃, hb, hrun, rfl⟩⟩
    · obtain ⟨pre, k, f, post, hfs, hpre, hf⟩ := exists_first_fatal hall
      rw [exec_storeBatch_fails _ hfs hpre hf] at h
      cases h

theorem exec_getAll_of_lookups_error (hc : c.status.isOperable = true) {ks : List String}
    {arg : Option Argument} {e : Failure} {c₁ : Cache L E H S} {w₁ : W}
    (h : exec (lookups ks) c w = ((.error e, c₁), w₁)) :
    exec (getAll ks arg) c w = ((.error e, c₁), w₁) := by
  rw [getAll_eq_readInBatch, readInBatch, exec_bind_ok (exec_checkOperable _ hc),
    exec_bind_error h]

/-- After its lookups, a batch read goes on from their cache and world with the hits and the
missed keys. -/
theorem exec_getAll_of_lookups (hc : c.status.isOperable = true) {ks : List String}
    {arg : Option Argument} {found : List (String × Option String)} {c₁ : Cache L E H S} {w₁ : W}
    (h : exec (lookups ks) c w = ((.ok found, c₁), w₁)) :
    exec (getAll ks arg) c w =
      exec (loadMissed (Json.Fields.ofList (hitsOf found)) (missedOf found) arg) c₁ w₁ := by
  rw [getAll_eq_readInBatch, readInBatch, exec_bind_ok (exec_checkOperable _ hc), exec_bind_ok h]

/-! ## The batch read as a whole -/

/-- How a batch read of `ks` with argument `arg` runs from the cache `c` and the world `w`. -/
structure BatchRead (c : Cache L E H S) (w : W) (ks : List String) (arg : Option Argument) :
    Prop where
  /-- A lookup's failure that is not recoverable ends the read. -/
  lookup_fails : ∀ {e : Failure} {c₁ : Cache L E H S} {w₁ : W},
    exec (lookups ks) c w = ((.error e, c₁), w₁) → exec (getAll ks arg) c w = ((.error e, c₁), w₁)
  /-- Every occurrence of a key is looked up, in order, and the missed keys form a set. -/
  looks_up : ∀ {found : List (String × Option String)} {c₁ : Cache L E H S} {w₁ : W},
    exec (lookups ks) c w = ((.ok found, c₁), w₁) →
    found.map Prod.fst = ks ∧ (missedOf found).Nodup ∧ ∀ k, k ∈ missedOf found ↔ (k, none) ∈ found
  /-- With no key missed, or no loader ready, the loader is not called: the read answers the
  hits. -/
  answers_hits : ∀ {found : List (String × Option String)} {c₁ : Cache L E H S} {w₁ : W},
    exec (lookups ks) c w = ((.ok found, c₁), w₁) → missedOf found = [] ∨ readyBinding c = none →
    exec (getAll ks arg) c w = ((.ok (Json.Fields.ofList (hitsOf found)), c₁), w₁)
  /-- Otherwise the loader is called once, on the missed keys: by `loadAll`, or by `loadAllWith`
  when an argument is given; the read goes on from its answer. -/
  loads : ∀ {found : List (String × Option String)} {c₁ : Cache L E H S} {w₁ : W} {b : Binding L}
      {r : Except Failure Batch} {l : L} {w₂ : W},
    exec (lookups ks) c w = ((.ok found, c₁), w₁) → missedOf found ≠ [] →
    readyBinding c = some b →
    ((arg.elim (KeyedLoader.loadAll (missedOf found)) (KeyedLoader.loadAllWith (missedOf found))).run
      b.loader).run w₁ = ((r, l), w₂) →
    AfterLoad c found r { c₁ with binding := some { b with loader := l } } w₂
      (exec (getAll ks arg) c w)

theorem getAll_batchRead (hc : c.status.isOperable = true) (ks : List String)
    (arg : Option Argument) : BatchRead c w ks arg where
  lookup_fails h := exec_getAll_of_lookups_error hc h
  looks_up h := ⟨keys_of_exec_lookups h, nodup_missedOf _, fun _ => mem_missedOf⟩
  answers_hits h hno := by
    have hready : readyBinding _ = readyBinding c :=
      congrArg (Option.filter Binding.isReady) (exec_lookups_keeps h).1
    rw [exec_getAll_of_lookups hc h, exec_loadMissed_hits _ _ (hready ▸ hno)]
  loads h hne hb hrun := by
    obtain ⟨hbind, hh, hs⟩ := exec_lookups_keeps h
    have hready : readyBinding _ = readyBinding c := congrArg (Option.filter Binding.isReady) hbind
    rw [exec_getAll_of_lookups hc h,
      exec_loadMissed_loads _ hne (hready.trans hb) (by rwa [dispatchAll_eq_elim])]
    exact afterLoad_takeBatch hh hs

/-- A successful batch read answers the hits overwritten by the values of the loader's batch on
the missed keys (none when it did not load), and the only entries it stores are those values,
put in order. So it answers only keys of `ks` and keys the batch holds, and a key the batch does
not hold keeps what its last lookup found. -/
theorem getAll_answers_hits_then_batch (hc : c.status.isOperable = true) {ks : List String}
    {arg : Option Argument} {m : List (String × String)} {c' : Cache L E H S} {w' : W}
    (h : exec (getAll ks arg) c w = ((.ok m, c'), w')) :
    ∃ found c₁ w₁, exec (lookups ks) c w = ((.ok found, c₁), w₁) ∧
      ∃ vals c₂ w₂, c₂.store = c₁.store ∧ exec (putAll vals) c₂ w₂ = ((.ok (), c'), w') ∧
        m = Json.Fields.ofList (hitsOf found ++ vals) ∧
        (vals = [] ∨ ∃ b l batch w₃, readyBinding c = some b ∧
          ((arg.elim (KeyedLoader.loadAll (missedOf found))
            (KeyedLoader.loadAllWith (missedOf found))).run b.loader).run w₁ =
            ((.ok batch, l), w₃) ∧ vals = batch.values) ∧
        (∀ k ∈ m.map Prod.fst, k ∈ ks ∨ k ∈ vals.map Prod.fst) ∧
        ∀ k, k ∉ vals.map Prod.fst →
          Json.Fields.get? k m = Json.Fields.get? k (Json.Fields.ofList (hitsOf found)) := by
  rcases hl : exec (lookups ks) c w with ⟨⟨e | found, c₁⟩, w₁⟩
  · rw [exec_getAll_of_lookups_error hc hl] at h
    cases h
  rw [exec_getAll_of_lookups hc hl] at h
  obtain ⟨vals, c₂, w₂, hstore, hput, hm, hvals⟩ := exec_loadMissed_eq_ok h
  rw [← Json.Fields.ofList_append] at hm
  subst hm
  have hready : readyBinding c₁ = readyBinding c :=
    congrArg (Option.filter Binding.isReady) (exec_lookups_keeps hl).1
  refine ⟨found, c₁, w₁, rfl, vals, c₂, w₂, hstore, hput, rfl, ?_, fun k hk => ?_, fun k hk => ?_⟩
  · rcases hvals with hvals | ⟨b, l, batch, w₃, hb, hrun, hvals⟩
    · exact .inl hvals
    · exact .inr ⟨b, l, batch, w₃, hready ▸ hb, by rwa [← dispatchAll_eq_elim], hvals⟩
  · -- a key of the answer is a key of the hits, so of `ks`, or a key the batch holds
    have hk := Json.Fields.mem_keys_ofList _ hk
    rw [List.map_append, List.mem_append] at hk
    rcases hk with hk | hk
    · exact .inl (keys_of_exec_lookups hl ▸ mem_keys_hitsOf hk)
    · exact .inr hk
  · rw [Json.Fields.get?_ofList_append_of_not_mem _ hk]

end

/-! ## A read that overwrites what it found -/

/-- A bench cache of capacity one that holds `b` and then `a`, with 64 reads waiting in its
engine: its next read has the engine do its pending work, which evicts `a`. Its loader is ready
and loads `a` as `loaded`. -/
def evictingBench : Cache BenchLoader BenchListener BenchHandler Engine where
  settings := Settings.named "c"
  status := .alive
  store :=
    { name := "c", capacity := 1, idle := none, live := none,
      entries := [⟨"b", "vb", 0⟩, ⟨"a", "va", 1⟩], nextSerial := 2,
      reads := List.replicate 64 "b", writes := [.upsert "b" 0, .upsert "a" 1] }
  binding := some { loader := .stubborn "s" [("a", "loaded")], state := .initialized }
  listeners := []
  handler := .recording

theorem getAll_batchRead_evicting :
    evictingBench.status.isOperable = true ∧ BatchRead evictingBench ({} : World) ["a", "a"] none :=
  ⟨rfl, getAll_batchRead rfl ["a", "a"] none⟩

/-- Reading `a` twice: the first lookup finds `va`, then the engine's pending work evicts `a`, so
the second lookup misses; the loader loads `a`, and the read stores and answers `loaded` for a
key it found. -/
theorem getAll_overwrites_found_value :
    (exec (lookups ["a", "a"]) evictingBench ({} : World)).1.1 =
        .ok [("a", some "va"), ("a", none)] ∧
      (exec (getAll ["a", "a"] none) evictingBench ({} : World)).1.1 = .ok [("a", "loaded")] ∧
      (exec (getAll ["a", "a"] none) evictingBench ({} : World)).1.2.store.lookup "a" =
        some "loaded" :=
  ⟨by decide +kernel, by decide +kernel, by decide +kernel⟩

theorem getAll_answers_hits_then_batch_evicting :
    evictingBench.status.isOperable = true ∧
      (exec (getAll ["a", "a"] none) evictingBench ({} : World)).1.1 = .ok [("a", "loaded")] ∧
      ∃ found c₁ w₁, exec (lookups ["a", "a"]) evictingBench ({} : World) = ((.ok found, c₁), w₁) ∧
        ∃ vals c₂ w₂, c₂.store = c₁.store ∧
          exec (putAll vals) c₂ w₂ =
            ((.ok (), (exec (getAll ["a", "a"] none) evictingBench ({} : World)).1.2),
              (exec (getAll ["a", "a"] none) evictingBench ({} : World)).2) ∧
          [("a", "loaded")] = Json.Fields.ofList (hitsOf found ++ vals) ∧
          (vals = [] ∨ ∃ b l batch w₃, readyBinding evictingBench = some b ∧
            ((KeyedLoader.loadAll (missedOf found)).run b.loader).run w₁ = ((.ok batch, l), w₃) ∧
            vals = batch.values) ∧
          (∀ k ∈ [("a", "loaded")].map Prod.fst, k ∈ ["a", "a"] ∨ k ∈ vals.map Prod.fst) ∧
          ∀ k, k ∉ vals.map Prod.fst →
            Json.Fields.get? k [("a", "loaded")] =
              Json.Fields.get? k (Json.Fields.ofList (hitsOf found)) := by
  have hread : (exec (getAll ["a", "a"] none) evictingBench ({} : World)).1.1 =
      .ok [("a", "loaded")] := by
    decide +kernel
  exact ⟨rfl, hread, getAll_answers_hits_then_batch rfl (exec_eq_of_result hread)⟩

end Cache

end NamedCaches
