import NamedCaches.Proofs.Watch.World
set_option autoImplicit false
/-!
# Runs over a watched world

A run of an action over a watched world adds sightings to the log and takes fresh tags; that is
all it can do to the watched part. `Quiet x` says that `x` adds nothing and takes nothing, only
the world being watched changes (logging, a handler factory, merging sources). `Sees x P` says
that every run of `x`, from any world, adds some sightings `seg` and takes `k` fresh tags with
`P n a seg k` of its answer `a`, where `n` was the next fresh tag: it speaks of what a run adds,
never of the world it started from, so a composite action is described from its parts with
`Sees.bind` and `Quiet.then` without naming the worlds between them.
-/

namespace NamedCaches

theorem run_bind_eq {σ α β : Type} (x : StateM σ α) (f : α → StateM σ β) (w : σ) :
    (x >>= f).run w = (f (x.run w).1).run (x.run w).2 :=
  rfl

namespace Watched
variable {W α β : Type}

theorem lift_run (act : StateM W α) (w : Watched W) :
    (lift act).run w = ((act.run w.base).1, { w with base := (act.run w.base).2 }) :=
  rfl

/-- The action sees nothing and takes no tag; only the world being watched changes. -/
def Quiet (x : StateM (Watched W) α) : Prop := ∀ w, ∃ b, (x.run w).2 = w.after b 0 []

theorem after_self (w : Watched W) : w.after w.base 0 [] = w := by
  simp [after]

theorem quiet_pure (a : α) : Quiet (pure a : StateM (Watched W) α) :=
  fun w => ⟨w.base, (after_self w).symm⟩

theorem quiet_lift (act : StateM W α) : Quiet (lift act) :=
  fun w => ⟨(act.run w.base).2, by simp [after]; rfl⟩

theorem quiet_logLine [Journal W] (level : Level) (target message : String) :
    Quiet (logLine (W := Watched W) level target message) :=
  fun w => ⟨Journal.write ⟨level, target, message⟩ w.base, by simp [after]; rfl⟩

theorem Quiet.bind {x : StateM (Watched W) α} {f : α → StateM (Watched W) β} (hx : Quiet x)
    (hf : ∀ a, Quiet (f a)) : Quiet (x >>= f) := by
  intro w
  obtain ⟨b, hb⟩ := hx w
  obtain ⟨b', hb'⟩ := hf (x.run w).1 (x.run w).2
  refine ⟨b', ?_⟩
  show ((f (x.run w).1).run (x.run w).2).2 = _
  rw [hb', hb, after_after]
  simp

theorem quiet_forM {γ : Type} (f : γ → StateM (Watched W) PUnit) (hf : ∀ a, Quiet (f a)) :
    ∀ l : List γ, Quiet (l.forM f)
  | [] => quiet_pure _
  | a :: l => by
    rw [List.forM_eq_forM, List.forM_cons]
    exact (hf a).bind fun _ => quiet_forM f hf l

/-- Whatever the world, a run of the action adds some sightings `seg` and takes `k` fresh tags,
with `P n a seg k` of its result `a`, where `n` was the next fresh tag. -/
def Sees (x : StateM (Watched W) α) (P : Nat → α → List Sighting → Nat → Prop) : Prop :=
  ∀ w, ∃ seg k base, P w.next (x.run w).1 seg k ∧ (x.run w).2 = w.after base k seg

section
variable {x : StateM (Watched W) α} {P Q : Nat → α → List Sighting → Nat → Prop}

theorem Sees.mono (hx : Sees x P) (h : ∀ n a seg k, P n a seg k → Q n a seg k) : Sees x Q := by
  intro w
  obtain ⟨seg, k, base, hp, hw⟩ := hx w
  exact ⟨seg, k, base, h _ _ _ _ hp, hw⟩

theorem sees_pure (a : α) :
    Sees (pure a : StateM (Watched W) α) fun _ b seg k => b = a ∧ seg = [] ∧ k = 0 :=
  fun w => ⟨[], 0, w.base, ⟨rfl, rfl, rfl⟩, (after_self w).symm⟩

/-- The sightings of two runs one after the other are the first's, then the second's, and the
second starts from the tag the first left next. -/
theorem Sees.bind {f : α → StateM (Watched W) β} {Q : Nat → β → List Sighting → Nat → Prop}
    (hx : Sees x P)
    (hf : ∀ n a seg k, P n a seg k → Sees (f a) fun n' b seg' k' =>
      n' = n + k → Q n b (seg ++ seg') (k + k')) :
    Sees (x >>= f) Q := by
  intro w
  obtain ⟨seg, k, base, hp, hw⟩ := hx w
  obtain ⟨seg', k', base', hq, hw'⟩ := hf _ _ _ _ hp (x.run w).2
  have hn : (x.run w).2.next = w.next + k := by rw [hw]; rfl
  refine ⟨seg ++ seg', k + k', base', hq hn, ?_⟩
  rw [run_bind_eq, hw', hw, after_after]

/-- A quiet first step leaves the sightings and the tags of the rest as they are. -/
theorem Quiet.then {f : α → StateM (Watched W) β} {Q : Nat → β → List Sighting → Nat → Prop}
    (hx : Quiet x) (hf : ∀ a, Sees (f a) Q) : Sees (x >>= f) Q := by
  intro w
  obtain ⟨b, hw⟩ := hx w
  obtain ⟨seg, k, base, hq, hw'⟩ := hf (x.run w).1 (x.run w).2
  have hn : (x.run w).2.next = w.next := by rw [hw]; rfl
  refine ⟨seg, k, base, hn ▸ hq, ?_⟩
  rw [run_bind_eq, hw', hw, after_after]
  simp

theorem Sees.discard (hx : Sees x P) : Sees (discard x) fun n _ seg k => ∃ a, P n a seg k := by
  intro w
  obtain ⟨seg, k, base, hp, hw⟩ := hx w
  exact ⟨seg, k, base, ⟨_, hp⟩, hw⟩

end

theorem sees_make (act : StateM W (Except Failure β)) :
    Sees (make act) fun n t seg k => (∃ e, t = .error e ∧ seg = [] ∧ k = 0) ∨
      (∃ v, t = .ok ⟨n, v⟩ ∧ seg = [.made n] ∧ k = 1) := by
  intro w
  unfold make
  rw [run_bind_eq, lift_run]
  rcases hA : act.run w.base with ⟨e | v, b⟩
  · exact ⟨[], 0, b, .inl ⟨e, rfl, rfl, rfl⟩, by simp [after]; rfl⟩
  · exact ⟨[.made w.next], 1, b, .inr ⟨v, rfl, rfl, rfl⟩, rfl⟩

end Watched

open Watched in
/-- Merging the sources only logs. -/
theorem quiet_mergeSources {W : Type} [Journal W] (files : Files) (base : Source)
    (named : Option Source) :
    Quiet (mergeSources (W := Watched W) files base named) := by
  unfold mergeSources
  split
  · exact quiet_pure _
  split
  · exact quiet_pure _
  split
  · exact quiet_pure _
  exact (quiet_forM _ (fun ⟨_, _⟩ => quiet_logLine _ _ _) _).bind fun _ => quiet_pure _

end NamedCaches
