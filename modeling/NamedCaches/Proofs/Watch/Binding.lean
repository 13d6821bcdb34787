import NamedCaches.Proofs.Watch.Replacement
set_option autoImplicit false
/-!
# Runs of calls on a loader binding

A program calls a binding's `init`, `dispose` and `cloneInto` one after another (`BindingCall`);
`BindingCall.steps` records each call with the binding and world it met, its answer, and the
binding and world it left. Over a watched world every call the bound loader receives is seen,
so what a call does to the loader is read off the sightings it adds (`BindingStep.seen`).

What one call does (`BindingStep.Lawful`, `lawful_step`), for every behaviour of the loader:

* `init` on a constructed binding calls the loader's `init` once and answers what it answers;
  the binding is initialised exactly when that succeeds and stays constructed otherwise. On a
  binding that is initialised or disposed it is refused with an `illegalState` naming the cache,
  and nothing changes.
* `dispose` calls the loader's `dispose` once, unless the binding is disposed already, and leaves
  it disposed.
* `cloneInto` is refused with an `illegalState` naming the target, calling nothing, when the
  binding has left `constructed` while its owner is alive. Otherwise it asks the loader for a
  clone and answers the loader's failure, or a new constructed binding over the clone, which
  gets the next fresh tag. It never moves the binding's state.

Over a whole run from a new binding (`binding_life`), the state only moves forward, so the
loader's `init` succeeds at most once, and the loader's `dispose` is called exactly once if the
run disposes the binding and never otherwise.
-/

namespace NamedCaches

/-- How far along its life a binding is. -/
def BindingState.stage : BindingState → Nat
  | .constructed => 0
  | .initialized => 1
  | .disposed => 2

/-- `init` calls a constructed binding's loader only: the `init`s it still allows to succeed. -/
def BindingState.initsLeft : BindingState → Nat
  | .constructed => 1
  | _ => 0

/-- Whether a call a loader received is an `init` that succeeded. -/
def LoaderCall.initialises : LoaderCall → Bool
  | .init _ (.ok ()) => true
  | _ => false

/-- A call a program makes on a loader binding. -/
inductive BindingCall where
  | init (cache : String)
  | dispose
  | cloneInto (owner : Status) (target : String)
  deriving DecidableEq

/-- What a binding answers a call. -/
inductive BindingReply (L : Type) where
  | init (r : Except Failure Unit)
  | dispose
  | clone (r : Except Failure (Binding L))

/-- A call of a run: the call, the binding and world it met, its answer, and the binding and
world it left. -/
structure BindingStep (L W : Type) where
  call : BindingCall
  binding : Binding L
  world : W
  answer : BindingReply L
  binding' : Binding L
  world' : W

namespace BindingCall

variable {L W : Type} [Named L] [KeyedLoader L W] [Journal W]

/-- Makes a call. -/
def run : BindingCall → Binding.BindingM L W (BindingReply L)
  | .init cache => BindingReply.init <$> Binding.init cache
  | .dispose => do Binding.dispose; pure .dispose
  | .cloneInto owner target => BindingReply.clone <$> Binding.cloneInto owner target

/-- A call made on a binding in a world. -/
def step (call : BindingCall) (b : Binding L) (w : W) : BindingStep L W :=
  ⟨call, b, w, ((call.run.run b).run w).1.1, ((call.run.run b).run w).1.2,
    ((call.run.run b).run w).2⟩

@[simp] theorem step_call (call : BindingCall) (b : Binding L) (w : W) :
    (step call b w).call = call := rfl

@[simp] theorem step_binding (call : BindingCall) (b : Binding L) (w : W) :
    (step call b w).binding = b := rfl

@[simp] theorem step_world (call : BindingCall) (b : Binding L) (w : W) :
    (step call b w).world = w := rfl

/-- Makes calls in order, each on the binding and world the one before left. -/
def steps : List BindingCall → Binding L → W → List (BindingStep L W)
  | [], _, _ => []
  | call :: rest, b, w =>
    step call b w :: steps rest (step call b w).binding' (step call b w).world'

@[simp] theorem steps_nil (b : Binding L) (w : W) : steps [] b w = [] := rfl

end BindingCall

/-! ## What one call does -/

namespace BindingStep

variable {L W : Type}

/-- The sightings a call added to the log. -/
def seen (s : BindingStep (Tagged L) (Watched W)) : List Sighting :=
  s.world'.seen.drop s.world.seen.length

theorem seen_of_after {s : BindingStep (Tagged L) (Watched W)} {base : W} {k : Nat}
    {seg : List Sighting} (h : s.world' = s.world.after base k seg) : s.seen = seg := by
  simp [seen, h]

theorem seen_of_eq {s : BindingStep (Tagged L) (Watched W)} (h : s.world' = s.world) :
    s.seen = [] := by
  simp [seen, h]

variable [KeyedLoader L W]

/-- What the bound loader answers an `init` for the cache, from where the call met it. -/
def initAnswer (s : BindingStep (Tagged L) (Watched W)) (cache : String) : Except Failure Unit :=
  (((KeyedLoader.init cache).run s.binding.loader.val).run s.world.base).1.1

/-- What the bound loader answers a request for a clone, from where the call met it. -/
def cloneAnswer (s : BindingStep (Tagged L) (Watched W)) (target : String) : Except Failure L :=
  (((KeyedLoader.cloneFor target).run s.binding.loader.val).run s.world.base).1.1

/-- A call on a binding over a watched loader does what the binding's life allows: it keeps the
loader's tag, and

* `init` calls the loader's `init` once on a constructed binding, answers what it answers and
  initialises the binding exactly when it succeeds, and is refused elsewhere, changing nothing;
* `dispose` calls the loader's `dispose` unless the binding is disposed, and leaves it disposed;
* `cloneInto` never moves the state; it is refused, changing nothing, when the binding has left
  `constructed` and its owner is alive, and otherwise asks the loader for a clone and answers
  its failure or a new binding over the clone, tagged with the next fresh tag. -/
def Lawful (s : BindingStep (Tagged L) (Watched W)) : Prop :=
  s.binding'.loader.tag = s.binding.loader.tag ∧
  match s.call with
  | .init cache =>
    if s.binding.state = .constructed then
      s.answer = .init (s.initAnswer cache) ∧
        s.seen = [.loader s.binding.loader.tag (.init cache (s.initAnswer cache))] ∧
        s.binding'.state = if (s.initAnswer cache).isOk then .initialized else .constructed
    else
      (∃ msg, s.answer = .init (.error (.illegalState cache msg))) ∧ s.binding' = s.binding ∧
        s.world' = s.world
  | .dispose =>
    s.answer = .dispose ∧ s.binding'.state = .disposed ∧
      s.seen = if s.binding.state = .disposed then [] else [.loader s.binding.loader.tag .dispose]
  | .cloneInto owner target =>
    s.binding'.state = s.binding.state ∧
      if s.binding.state ≠ .constructed ∧ owner = .alive then
        (∃ msg, s.answer = .clone (.error (.illegalState target msg))) ∧
          s.binding' = s.binding ∧ s.world' = s.world
      else
        s.answer = .clone ((s.cloneAnswer target).map fun copy =>
            { loader := ⟨s.world.next, copy⟩ }) ∧
          s.seen = [.loader s.binding.loader.tag
            (.cloneFor target ((s.cloneAnswer target).map fun _ => s.world.next))]

end BindingStep

/-! ## The calls, one by one -/

namespace Binding

variable {L W : Type} [Named L] [KeyedLoader L W] [Journal W]

/-- `init` on a constructed binding answers what the loader's `init` answers, and initialises
the binding exactly when that succeeds. -/
theorem init_constructed (cache : String) (t : Tagged L) (w : Watched W)
    {r : Except Failure Unit} {l : L} {base : W}
    (h : ((KeyedLoader.init cache).run t.val).run w.base = ((r, l), base)) :
    ∃ base', ((init cache).run { loader := t }).run w =
      ((r, { loader := { t with val := l },
             state := if r.isOk then .initialized else .constructed }),
        w.after base' 0 [.loader t.tag (.init cache r)]) := by
  unfold init
  simp only [StateT.run_bind, StateT.run_get, pure_bind, onLoader_run, Tagged.init_run, h]
  cases r with
  | error e => exact ⟨base, rfl⟩
  | ok u => exact ⟨_, rfl⟩

/-- `init` on a binding that has left `constructed` is refused with an `illegalState` naming the
cache, and calls nothing. -/
theorem init_refused (cache : String) (b : Binding L) (hb : b.state ≠ .constructed) (w : W) :
    ∃ msg, ((init cache).run b).run w = ((.error (.illegalState cache msg), b), w) := by
  obtain ⟨l, st⟩ := b
  cases st with
  | constructed => exact absurd rfl hb
  | initialized => exact ⟨_, rfl⟩
  | disposed => exact ⟨_, rfl⟩

/-- `cloneInto` is refused with an `illegalState` naming the target, and calls nothing, when the
binding has left `constructed` while its owner is alive. -/
theorem cloneInto_refused (owner : Status) (target : String) (b : Binding L)
    (hb : b.state ≠ .constructed ∧ owner = .alive) (w : W) :
    ∃ msg, ((cloneInto owner target).run b).run w =
      ((.error (.illegalState target msg), b), w) := by
  have hc : (b.state != .constructed && owner == .alive) = true := by simp [hb.1, hb.2]
  unfold cloneInto
  simp only [StateT.run_bind, StateT.run_get, pure_bind, hc, if_true]
  exact ⟨_, rfl⟩

/-- Otherwise `cloneInto` asks the loader for a clone, whatever the binding's state, and answers
its failure or a new binding over the clone with the next fresh tag. -/
theorem cloneInto_allowed (owner : Status) (target : String) (b : Binding (Tagged L))
    (hb : ¬ (b.state ≠ .constructed ∧ owner = .alive)) (w : Watched W) {r : Except Failure L}
    {l : L} {base : W}
    (h : ((KeyedLoader.cloneFor target).run b.loader.val).run w.base = ((r, l), base)) :
    ∃ base' k, ((cloneInto owner target).run b).run w =
      ((r.map fun copy => { loader := ⟨w.next, copy⟩ },
          { b with loader := { b.loader with val := l } }),
        w.after base' k [.loader b.loader.tag (.cloneFor target (r.map fun _ => w.next))]) := by
  have hc : (b.state != .constructed && owner == .alive) = false := by
    by_cases hs : b.state = .constructed
    · simp [hs]
    · have ho : owner ≠ .alive := fun ho => hb ⟨hs, ho⟩
      simp [hs, ho]
  unfold cloneInto
  simp only [StateT.run_bind, StateT.run_get, pure_bind, hc, Bool.false_eq_true, if_false,
    onLoader_run]
  cases r with
  | error e =>
    rw [Tagged.cloneFor_of_error target h]
    exact ⟨base, 0, rfl⟩
  | ok copy =>
    rw [Tagged.cloneFor_of_ok target h]
    exact ⟨_, 1, rfl⟩

end Binding

namespace BindingCall

section
variable {L W : Type} [Named L] [KeyedLoader L W] [Journal W]

theorem step_of_run {call : BindingCall} {b b' : Binding L} {w w' : W} {a : BindingReply L}
    (h : (call.run.run b).run w = ((a, b'), w')) : step call b w = ⟨call, b, w, a, b', w'⟩ := by
  simp only [step, h]

theorem run_init {cache : String} {b b' : Binding L} {w w' : W} {r : Except Failure Unit}
    (h : ((Binding.init cache).run b).run w = ((r, b'), w')) :
    ((init cache).run.run b).run w = ((.init r, b'), w') := by
  simp only [run, StateT.run_map, h]
  rfl

theorem run_dispose {b b' : Binding L} {w w' : W}
    (h : (Binding.dispose.run b).run w = (((), b'), w')) :
    (dispose.run.run b).run w = ((.dispose, b'), w') := by
  simp only [run, StateT.run_bind, h]
  rfl

theorem run_cloneInto {owner : Status} {target : String} {b b' : Binding L} {w w' : W}
    {r : Except Failure (Binding L)}
    (h : ((Binding.cloneInto owner target).run b).run w = ((r, b'), w')) :
    ((cloneInto owner target).run.run b).run w = ((.clone r, b'), w') := by
  simp only [run, StateT.run_map, h]
  rfl

end

variable {L W : Type} [Named L] [KeyedLoader L W] [Journal W]

/-- Every call on a binding over a watched loader is lawful, whatever the binding's state and
whatever the loader does. -/
theorem lawful_step (call : BindingCall) (b : Binding (Tagged L)) (w : Watched W) :
    (step call b w).Lawful := by
  cases call with
  | init cache =>
    by_cases hs : b.state = .constructed
    · obtain ⟨t, st⟩ := b
      dsimp only at hs
      subst hs
      rcases hr : ((KeyedLoader.init cache).run t.val).run w.base with ⟨⟨r, l⟩, base⟩
      obtain ⟨base', h⟩ := Binding.init_constructed cache t w hr
      rw [step_of_run (run_init h)]
      dsimp only [BindingStep.Lawful, BindingStep.initAnswer]
      simp only [hr, if_true, true_and, and_true]
      exact BindingStep.seen_of_after rfl
    · obtain ⟨msg, h⟩ := Binding.init_refused cache b hs w
      rw [step_of_run (run_init h)]
      dsimp only [BindingStep.Lawful]
      rw [if_neg hs]
      exact ⟨rfl, ⟨msg, rfl⟩, rfl, rfl⟩
  | dispose =>
    by_cases hs : b.state = .disposed
    · rw [step_of_run (run_dispose (Binding.dispose_disposed b hs w))]
      dsimp only [BindingStep.Lawful]
      rw [if_pos hs]
      exact ⟨rfl, rfl, hs, BindingStep.seen_of_eq rfl⟩
    · obtain ⟨l, base, h⟩ := Binding.dispose_watched b hs w
      rw [step_of_run (run_dispose h)]
      dsimp only [BindingStep.Lawful]
      rw [if_neg hs]
      exact ⟨rfl, rfl, rfl, BindingStep.seen_of_after rfl⟩
  | cloneInto owner target =>
    by_cases hs : b.state ≠ .constructed ∧ owner = .alive
    · obtain ⟨msg, h⟩ := Binding.cloneInto_refused owner target b hs w
      rw [step_of_run (run_cloneInto h)]
      dsimp only [BindingStep.Lawful]
      rw [if_pos hs]
      exact ⟨rfl, rfl, ⟨msg, rfl⟩, rfl, rfl⟩
    · rcases hr : ((KeyedLoader.cloneFor target).run b.loader.val).run w.base with
        ⟨⟨r, l⟩, base⟩
      obtain ⟨base', k, h⟩ := Binding.cloneInto_allowed owner target b hs w hr
      rw [step_of_run (run_cloneInto h)]
      dsimp only [BindingStep.Lawful, BindingStep.cloneAnswer]
      simp only [hr, if_neg hs, true_and]
      exact BindingStep.seen_of_after rfl

end BindingCall

/-! ## What a lawful call leaves -/

namespace BindingStep

variable {L W : Type} [KeyedLoader L W] {s : BindingStep (Tagged L) (Watched W)}

theorem Lawful.tag_eq (h : s.Lawful) : s.binding'.loader.tag = s.binding.loader.tag := h.1

/-- A call moves the binding's state forward or leaves it. -/
theorem Lawful.stage_le (h : s.Lawful) : s.binding.state.stage ≤ s.binding'.state.stage := by
  obtain ⟨call, ⟨t, st⟩, w, a, b', w'⟩ := s
  cases call with
  | init cache =>
    obtain ⟨-, h⟩ := h
    dsimp only at h ⊢
    split at h
    · obtain ⟨-, -, hst⟩ := h
      rw [hst]
      split <;> simp_all [BindingState.stage]
    · obtain ⟨-, rfl, -⟩ := h
      exact Nat.le_refl _
  | dispose =>
    obtain ⟨-, -, hst, -⟩ := h
    dsimp only at hst ⊢
    rw [hst]
    cases st <;> simp [BindingState.stage]
  | cloneInto owner target =>
    obtain ⟨-, hst, -⟩ := h
    exact Nat.le_of_eq (congrArg BindingState.stage hst).symm

/-- A call adds a loader's successful `init` only where it uses up the one its state allowed. -/
theorem Lawful.initialises_le (h : s.Lawful) (tag : Nat) :
    (Sighting.loaderCalls tag s.seen).countP LoaderCall.initialises + s.binding'.state.initsLeft ≤
      s.binding.state.initsLeft := by
  obtain ⟨call, ⟨t, st⟩, w, a, b', w'⟩ := s
  cases call with
  | init cache =>
    obtain ⟨-, h⟩ := h
    dsimp only at h ⊢
    split at h
    · obtain ⟨-, hseen, hst⟩ := h
      rename_i hc
      subst hc
      -- the loader's answer decides both the sighting and the state left
      generalize initAnswer ⟨.init cache, ⟨t, .constructed⟩, w, a, b', w'⟩ cache = r
        at hseen hst
      rw [hseen, hst]
      cases r <;> by_cases ht : t.tag = tag <;>
        simp [ht, Sighting.loaderCall?, LoaderCall.initialises, Except.isOk, Except.toBool,
          BindingState.initsLeft]
    · obtain ⟨-, rfl, hw⟩ := h
      rw [seen_of_eq hw]
      simp
  | dispose =>
    obtain ⟨-, -, hst, hseen⟩ := h
    dsimp only at hst hseen ⊢
    rw [hseen, hst]
    split <;> by_cases ht : t.tag = tag <;>
      simp [ht, Sighting.loaderCall?, LoaderCall.initialises, BindingState.initsLeft]
  | cloneInto owner target =>
    obtain ⟨-, hst, h⟩ := h
    dsimp only at hst h ⊢
    rw [hst]
    split at h
    · obtain ⟨-, -, hw⟩ := h
      rw [seen_of_eq hw]
      simp
    · obtain ⟨-, hseen⟩ := h
      rw [hseen]
      by_cases ht : t.tag = tag <;> simp [ht, Sighting.loaderCall?, LoaderCall.initialises]

/-- A call makes the loader's `init` run only on a constructed binding. -/
theorem Lawful.constructed_of_init (h : s.Lawful) {tag : Nat} {cache : String}
    {r : Except Failure Unit} (hm : LoaderCall.init cache r ∈ Sighting.loaderCalls tag s.seen) :
    s.binding.state = .constructed := by
  obtain ⟨call, ⟨t, st⟩, w, a, b', w'⟩ := s
  cases call with
  | init c =>
    obtain ⟨-, h⟩ := h
    dsimp only at h ⊢
    split at h
    · assumption
    · obtain ⟨-, -, hw⟩ := h
      rw [seen_of_eq hw] at hm
      simp at hm
  | dispose =>
    obtain ⟨-, -, -, hseen⟩ := h
    rw [hseen] at hm
    split at hm <;> by_cases ht : t.tag = tag <;> simp [ht, Sighting.loaderCall?] at hm
  | cloneInto owner target =>
    obtain ⟨-, -, h⟩ := h
    dsimp only at h
    split at h
    · obtain ⟨-, -, hw⟩ := h
      rw [seen_of_eq hw] at hm
      simp at hm
    · obtain ⟨-, hseen⟩ := h
      rw [hseen] at hm
      by_cases ht : t.tag = tag <;> simp [ht, Sighting.loaderCall?] at hm

/-- A call other than `dispose` leaves a binding disposed exactly when it found it so. -/
theorem Lawful.disposed_iff (h : s.Lawful) (hc : s.call ≠ .dispose) :
    s.binding'.state = .disposed ↔ s.binding.state = .disposed := by
  obtain ⟨call, ⟨t, st⟩, w, a, b', w'⟩ := s
  cases call with
  | init cache =>
    obtain ⟨-, h⟩ := h
    dsimp only at h ⊢
    split at h
    · obtain ⟨-, -, hst⟩ := h
      rename_i hc
      rw [hst, hc]
      split <;> simp
    · obtain ⟨-, rfl, -⟩ := h
      exact Iff.rfl
  | dispose => exact absurd rfl hc
  | cloneInto owner target =>
    obtain ⟨-, hst, -⟩ := h
    dsimp only at hst ⊢
    rw [hst]

/-- The loader's `dispose` is called by a `dispose` on a binding not yet disposed, and by
nothing else. -/
theorem Lawful.disposals (h : s.Lawful) :
    (Sighting.loaderCalls s.binding.loader.tag s.seen).countP (fun c => c.kind == .dispose) =
      if s.call = .dispose ∧ s.binding.state ≠ .disposed then 1 else 0 := by
  obtain ⟨call, ⟨t, st⟩, w, a, b', w'⟩ := s
  cases call with
  | init cache =>
    obtain ⟨-, h⟩ := h
    dsimp only at h ⊢
    split at h
    · obtain ⟨-, hseen, -⟩ := h
      rw [hseen]
      simp [Sighting.loaderCall?, LoaderCall.kind]
    · obtain ⟨-, -, hw⟩ := h
      rw [seen_of_eq hw]
      simp
  | dispose =>
    obtain ⟨-, -, -, hseen⟩ := h
    dsimp only at hseen ⊢
    rw [hseen]
    split <;> simp_all [Sighting.loaderCall?, LoaderCall.kind]
  | cloneInto owner target =>
    obtain ⟨-, -, h⟩ := h
    dsimp only at h ⊢
    split at h
    · obtain ⟨-, -, hw⟩ := h
      rw [seen_of_eq hw]
      simp
    · obtain ⟨-, hseen⟩ := h
      rw [hseen]
      simp [Sighting.loaderCall?, LoaderCall.kind]

end BindingStep

/-! ## Runs -/

namespace BindingCall

variable {L W : Type} [Named L] [KeyedLoader L W] [Journal W]

/-- Every call of a run is the call made on the binding and world it met. -/
theorem eq_step_of_mem_steps : ∀ {calls : List BindingCall} {b : Binding L} {w : W}
    {s : BindingStep L W}, s ∈ steps calls b w → s = step s.call s.binding s.world
  | [], _, _, _, h => by cases h
  | _ :: _, _, _, _, h => by
    rcases List.mem_cons.1 h with h | h
    · subst h
      rfl
    · exact eq_step_of_mem_steps h

theorem lawful_steps (calls : List BindingCall) (b : Binding (Tagged L)) (w : Watched W) :
    ∀ s ∈ steps calls b w, s.Lawful := fun s hs => by
  rw [eq_step_of_mem_steps hs]
  exact lawful_step _ _ _

/-- Along a run the state only moves forward. -/
theorem steps_forward : ∀ (calls : List BindingCall) (b : Binding (Tagged L)) (w : Watched W),
    (b.state :: (steps calls b w).map (·.binding'.state)).Pairwise fun x y => x.stage ≤ y.stage
  | [], _, _ => List.pairwise_singleton _ _
  | call :: rest, b, w => by
    have hstep := (lawful_step call b w).stage_le
    have ih := steps_forward rest (step call b w).binding' (step call b w).world'
    refine List.Pairwise.cons (fun y hy => ?_) ih
    rcases List.mem_cons.1 hy with rfl | hy
    · exact hstep
    · exact Nat.le_trans hstep (List.rel_of_pairwise_cons ih hy)

/-- Over a run the loader's `init` succeeds no more often than the state it starts in allows. -/
theorem steps_initialises_le (tag : Nat) : ∀ (calls : List BindingCall) (b : Binding (Tagged L))
    (w : Watched W),
    (Sighting.loaderCalls tag ((steps calls b w).flatMap BindingStep.seen)).countP
      LoaderCall.initialises ≤ b.state.initsLeft
  | [], _, _ => by simp
  | call :: rest, b, w => by
    have hstep := (lawful_step call b w).initialises_le tag
    rw [step_binding] at hstep
    have ih := steps_initialises_le tag rest (step call b w).binding' (step call b w).world'
    simp only [steps, List.flatMap_cons, Sighting.loaderCalls_append, List.countP_append]
    exact Nat.le_trans (Nat.add_le_add_left ih _) hstep

/-- Over a run the loader's `dispose` is called once if the binding was not disposed and the run
disposes it, and never otherwise. -/
theorem steps_disposals : ∀ (calls : List BindingCall) (b : Binding (Tagged L)) (w : Watched W),
    (Sighting.loaderCalls b.loader.tag ((steps calls b w).flatMap BindingStep.seen)).countP
      (fun c => c.kind == .dispose) = if b.state ≠ .disposed ∧ dispose ∈ calls then 1 else 0
  | [], _, _ => by simp
  | call :: rest, b, w => by
    have hstep := lawful_step call b w
    have ih := steps_disposals rest (step call b w).binding' (step call b w).world'
    have hnow := hstep.disposals
    rw [hstep.tag_eq, step_binding] at ih
    rw [step_binding, step_call] at hnow
    simp only [steps, List.flatMap_cons, Sighting.loaderCalls_append, List.countP_append, hnow, ih]
    by_cases hc : call = .dispose
    · -- the first `dispose` leaves the binding disposed, so no later one calls the loader
      subst hc
      have hd : (step dispose b w).binding'.state = .disposed := hstep.2.2.1
      simp [hd]
    · have hd := hstep.disposed_iff hc
      rw [step_binding] at hd
      simp only [hc, Ne.symm hc, false_and, if_false, Nat.zero_add, List.mem_cons, false_or, ne_eq,
        hd]

end BindingCall

/-- What a run of calls on a new binding over the loader tagged `tag` shows. -/
structure BindingLife {L W : Type} [KeyedLoader L W] (tag : Nat) (calls : List BindingCall)
    (run : List (BindingStep (Tagged L) (Watched W))) : Prop where
  /-- Every call does what the binding's life allows. -/
  lawful : ∀ s ∈ run, s.Lawful
  /-- The state moves only forward: `constructed → initialized → disposed`, or
  `constructed → disposed`. -/
  forward : (BindingState.constructed :: run.map (·.binding'.state)).Pairwise
    fun x y => x.stage ≤ y.stage
  /-- The loader's `init` runs only on a constructed binding. -/
  init_constructed : ∀ s ∈ run, ∀ cache r,
    LoaderCall.init cache r ∈ Sighting.loaderCalls tag s.seen → s.binding.state = .constructed
  /-- The loader's `init` succeeds at most once. -/
  init_once : (Sighting.loaderCalls tag (run.flatMap BindingStep.seen)).countP
    LoaderCall.initialises ≤ 1
  /-- The loader's `dispose` is called once if the run disposes the binding, and never
  otherwise. -/
  dispose_once : (Sighting.loaderCalls tag (run.flatMap BindingStep.seen)).countP
    (fun c => c.kind == .dispose) = if BindingCall.dispose ∈ calls then 1 else 0

namespace BindingCall

variable {L W : Type} [Named L] [KeyedLoader L W] [Journal W]

/-- Any calls, in any order, on a new binding, over any behaviour of its loader: every call does
what the binding's life allows (`BindingStep.Lawful`), the state only moves forward, the
loader's `init` runs only on a constructed binding and succeeds at most once, and its `dispose`
is called once if the run disposes the binding and never otherwise. A binding is ready exactly
when it is initialised. -/
theorem binding_life (t : Tagged L) (w : Watched W) (calls : List BindingCall) :
    BindingLife t.tag calls (steps calls { loader := t } w) ∧
      ∀ b : Binding (Tagged L), b.isReady = true ↔ b.state = .initialized := by
  have hlawful := lawful_steps calls { loader := t } w
  refine ⟨⟨hlawful, steps_forward calls { loader := t } w,
    fun s hs _ _ hm => (hlawful s hs).constructed_of_init hm,
    steps_initialises_le t.tag calls _ w, ?_⟩, fun b => ?_⟩
  · simpa using steps_disposals calls { loader := t } w
  · simp [Binding.isReady]

end BindingCall

end NamedCaches
