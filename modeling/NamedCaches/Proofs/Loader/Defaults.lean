import Mathlib.Control.Monad.Basic
import NamedCaches.Loader.Basic
import NamedCaches.Proofs.Registry.Failures
set_option autoImplicit false
/-!
# Default batch loads

A loader that does not define its own batch loads gets them by default: `loadAll` loads the keys
one by one with `load` (`Batch.collect`), and `loadAllWith` does the same with `loadWith` and
the caller's argument; a loader that does not define `loadWith` loads as `load` does.

The loop is given here in any lawful monad. Where each key's load answers a fixed result,
whatever else it does, the batch is `Batch.ofResults`: the keys with a value, each with it, and
the keys whose load failed, each with its failure, in the order of the keys; its effects are those
of loading each key once, in order (`Batch.collect_of_answers`). Every key lands in exactly one
place: among the values, among the failures, or in neither when its load found nothing
(`Batch.landing_ofResults_perm`). Main statement: `default_batches_sort_each_key`.
-/

namespace NamedCaches

/-- `x` answers `r` in every state it runs in, whatever else it does. -/
def Answers {m : Type → Type} [Functor m] {α : Type} (x : m α) (r : α) : Prop :=
  (fun _ => r) <$> x = x

namespace Batch

/-- The batch the per-key results `result` make of `keys`: the keys whose load found a value,
with it, and the keys whose load failed, with the failure, both in the order of `keys`. -/
def ofResults (result : String → Except Failure (Option String)) (keys : List String) : Batch where
  values := keys.filterMap fun k => (result k).toOption.join.map (k, ·)
  failures := keys.filterMap fun k => (failureOf (result k)).map (k, ·)

section
variable {result : String → Except Failure (Option String)} {k : String} (rest : List String)

theorem ofResults_cons_found {v : String} (h : result k = .ok (some v)) :
    ofResults result (k :: rest) =
      { ofResults result rest with values := (k, v) :: (ofResults result rest).values } := by
  simp [ofResults, h, failureOf, Except.toOption]

theorem ofResults_cons_missing (h : result k = .ok none) :
    ofResults result (k :: rest) = ofResults result rest := by
  simp [ofResults, h, failureOf, Except.toOption]

theorem ofResults_cons_failed {e : Failure} (h : result k = .error e) :
    ofResults result (k :: rest) =
      { ofResults result rest with failures := (k, e) :: (ofResults result rest).failures } := by
  simp [ofResults, h, failureOf, Except.toOption]

end

/-- Where loading `keys` one by one puts each key: the keys of the values, then those of the
failures, then the keys whose load found nothing. -/
def landing (b : Batch) (result : String → Except Failure (Option String)) (keys : List String) :
    List String :=
  b.values.map Prod.fst ++ b.failures.map Prod.fst ++ keys.filter (result · = .ok none)

/-- Each key lands in exactly one of the three places, once for each time it is loaded. -/
theorem landing_ofResults_perm (result : String → Except Failure (Option String)) :
    ∀ keys, ((ofResults result keys).landing result keys).Perm keys
  | [] => by simp [landing, ofResults]
  | k :: rest => by
    have ih := landing_ofResults_perm result rest
    simp only [landing] at ih ⊢
    -- the key goes in front of the part its result picks; the other two parts are those of `rest`
    rcases hk : result k with e | _ | v
    · rw [ofResults_cons_failed rest hk, List.filter_cons_of_neg (by simp [hk])]
      exact (List.perm_middle.append_right _).trans (ih.cons k)
    · rw [ofResults_cons_missing rest hk, List.filter_cons_of_pos (by simp [hk])]
      exact List.perm_middle.trans (ih.cons k)
    · rw [ofResults_cons_found rest hk, List.filter_cons_of_neg (by simp [hk])]
      exact ih.cons k

variable {m : Type → Type} [Monad m] [LawfulMonad m]

/-- Loading key by key has the effects of loading each key once, in order, and gives the batch of
the keys' results. -/
theorem collect_of_answers {load : String → m (Except Failure (Option String))}
    {found : String → Except Failure (Option String)} (hload : ∀ k, Answers (load k) (found k)) :
    ∀ keys, collect load keys = (fun _ => ofResults found keys) <$> keys.mapM load
  | [] => by simp [collect, ofResults]
  | k :: rest => by
    -- after the first load the result is known to be `found k`, so the match can be taken apart
    rw [collect, List.mapM_cons, collect_of_answers hload rest, ← hload k]
    simp only [bind_map_left, map_bind, map_pure]
    rcases hk : found k with e | _ | v
    · rw [ofResults_cons_failed rest hk]
    · rw [ofResults_cons_missing rest hk]
    · rw [ofResults_cons_found rest hk]

end Batch

section
variable {L W : Type} (load : String → LoaderM L W (Except Failure (Option String)))
  (loadWith : String → Argument → LoaderM L W (Except Failure (Option String)))
  (cloneFor : String → LoaderM L W (Except Failure L))

/-- The loader with the given loads and clones that keeps the default batch loads (and the
default `init` and `dispose`, which no load uses). -/
@[reducible] def KeyedLoader.keepingBatches : KeyedLoader L W where
  load := load
  loadWith := loadWith
  cloneFor := cloneFor

/-- The loader that defines only `load` and its clones and keeps every other default. -/
@[reducible] def KeyedLoader.ofLoad : KeyedLoader L W where
  load := load
  cloneFor := cloneFor

/-- The default batch loads never fail: where each key's load (with the argument, for
`loadAllWith`) answers a fixed result, they load each key once, in order, and answer the batch
of those results, in which every key lands among the values, among the failures, or in neither
when its load found nothing. A loader that keeps the default `loadWith` loads as `load` does. -/
theorem default_batches_sort_each_key (a : Argument)
    (found foundWith : String → Except Failure (Option String))
    (hload : ∀ k, Answers (load k) (found k)) (hwith : ∀ k, Answers (loadWith k a) (foundWith k))
    (keys : List String) :
    (KeyedLoader.keepingBatches load loadWith cloneFor).loadAll keys =
        (fun _ => .ok (Batch.ofResults found keys)) <$> keys.mapM load ∧
      (KeyedLoader.keepingBatches load loadWith cloneFor).loadAllWith keys a =
        (fun _ => .ok (Batch.ofResults foundWith keys)) <$> keys.mapM (loadWith · a) ∧
      ((Batch.ofResults found keys).landing found keys).Perm keys ∧
      ((Batch.ofResults foundWith keys).landing foundWith keys).Perm keys ∧
      ∀ k, (KeyedLoader.ofLoad load cloneFor).loadWith k a = load k := by
  refine ⟨?_, ?_, Batch.landing_ofResults_perm found keys,
    Batch.landing_ofResults_perm foundWith keys, fun _ => rfl⟩
  · show Except.ok <$> Batch.collect load keys = _
    rw [Batch.collect_of_answers hload, Functor.map_map]
  · show Except.ok <$> Batch.collect (loadWith · a) keys = _
    rw [Batch.collect_of_answers hwith, Functor.map_map]

end

/-- The answers of a loader over numbered keys: `0` fails, `2` finds `20`, and every other key
finds nothing. -/
def flakyResult (k : String) : Except Failure (Option String) :=
  if k = "0" then .error (.loader "flaky" "zero") else if k = "2" then .ok (some "20") else .ok none

/-- A loader that notes each key it is asked for in its own data and answers `flakyResult`. -/
def flakyLoad (k : String) : LoaderM (List String) Unit (Except Failure (Option String)) := do
  modify (· ++ [k])
  pure (flakyResult k)

/-- The flaky loader's clones: it cannot be cloned. -/
def flakyClone (_ : String) : LoaderM (List String) Unit (Except Failure (List String)) :=
  pure (.error (.notCloneableLoader "flaky"))

theorem flakyLoad_answers (k : String) : Answers (flakyLoad k) (flakyResult k) := by
  simp [Answers, flakyLoad]

/-- The flaky loader with every batch default, ignoring arguments and refusing clones. -/
theorem default_batches_flaky :
    (∀ k, Answers (flakyLoad k) (flakyResult k)) ∧
      ((KeyedLoader.keepingBatches flakyLoad (fun k _ => flakyLoad k) flakyClone).loadAll
          ["0", "1", "2"] =
        (fun _ => .ok (Batch.ofResults flakyResult ["0", "1", "2"])) <$>
          ["0", "1", "2"].mapM flakyLoad ∧
      (KeyedLoader.keepingBatches flakyLoad (fun k _ => flakyLoad k) flakyClone).loadAllWith
          ["0", "1", "2"] .other =
        (fun _ => .ok (Batch.ofResults flakyResult ["0", "1", "2"])) <$>
          ["0", "1", "2"].mapM (fun k => flakyLoad k) ∧
      ((Batch.ofResults flakyResult ["0", "1", "2"]).landing flakyResult ["0", "1", "2"]).Perm
        ["0", "1", "2"] ∧
      ((Batch.ofResults flakyResult ["0", "1", "2"]).landing flakyResult ["0", "1", "2"]).Perm
        ["0", "1", "2"] ∧
      ∀ k, (KeyedLoader.ofLoad flakyLoad flakyClone).loadWith k .other = flakyLoad k) :=
  ⟨flakyLoad_answers, default_batches_sort_each_key flakyLoad (fun k _ => flakyLoad k) flakyClone
    .other flakyResult flakyResult flakyLoad_answers flakyLoad_answers ["0", "1", "2"]⟩

/-- Of `0`, `1` and `2`, `2` lands among the values, `0` among the failures and `1` in neither,
and the loader is asked for each once. -/
example : ((KeyedLoader.keepingBatches flakyLoad (fun k _ => flakyLoad k) flakyClone).loadAll
      ["0", "1", "2"]).run [] () =
    ((.ok ⟨[("2", "20")], [("0", .loader "flaky" "zero")]⟩, ["0", "1", "2"]), ()) := by
  rfl

end NamedCaches
