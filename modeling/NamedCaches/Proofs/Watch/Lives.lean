import NamedCaches.Proofs.Watch.Isolation
set_option autoImplicit false
/-!
# The lives of a cache's loaders and listeners

A loader a cache is given goes through a life: it may be asked for clones while it is fresh, it
is initialised at most once, it takes loads only once its `init` has succeeded, and once disposed
it takes nothing more. A listener is notified until it is disposed, once. `LoaderPhase.next` and
`ListenerPhase.next` say which call each phase allows and where it leads; the phase of a
collaborator is read off the log of sightings (`Sighting.loaderPhase`, `Sighting.listenerPhase`),
and a log that some collaborator received a call out of order has no phase for it.

`Lives r w` is what a log owes the collaborators of a cache with roster `r` (its status, its
loader's tag and binding state, its listeners' tags): every collaborator has a phase, the cache's
own loader is in the phase its binding's state says, and its listeners are live.

A data operation keeps that: it calls the cache's loader only while it is initialised and only
for loads, tells only the cache's listeners and only of events, and changes no roster
(`Cache.Confined`, `CacheCall.confined_run`, `Lives.routine`).
-/

namespace NamedCaches

/-! ## Phases -/

/-- Where a loader is in the life a cache gives it, as the calls it received show. -/
inductive LoaderPhase where
  /-- Not initialised: new, or a template being cloned. -/
  | fresh
  /-- Its `init` failed; it takes no load. -/
  | refused
  /-- Its `init` succeeded; it takes loads. -/
  | ready
  /-- Disposed; it takes nothing more. -/
  | retired
  deriving DecidableEq, Repr

namespace LoaderPhase

/-- The phase after one more call, or `none` if the loader may not receive it. -/
def next : LoaderPhase → LoaderCall → Option LoaderPhase
  | fresh, .init _ (.ok ()) => some ready
  | fresh, .init _ (.error _) => some refused
  | fresh, .cloneFor .. => some fresh
  | ready, .load .. | ready, .loadAll .. => some ready
  | retired, _ => none
  | _, .dispose => some retired
  | _, _ => none

@[simp] theorem next_init_ok (cache : String) : fresh.next (.init cache (.ok ())) = some ready := rfl

@[simp] theorem next_init_error (cache : String) (e : Failure) :
    fresh.next (.init cache (.error e)) = some refused := rfl

@[simp] theorem next_cloneFor (target : String) (r : Except Failure Nat) :
    fresh.next (.cloneFor target r) = some fresh := rfl

/-- The phase after some calls, oldest first, or `none` if one of them was not allowed. -/
def after (p : LoaderPhase) (calls : List LoaderCall) : Option LoaderPhase :=
  calls.foldlM next p

@[simp] theorem after_nil (p : LoaderPhase) : p.after [] = some p := rfl

@[simp] theorem after_cons (p : LoaderPhase) (c : LoaderCall) (cs : List LoaderCall) :
    p.after (c :: cs) = (p.next c).bind fun q => q.after cs := rfl

theorem after_append (p : LoaderPhase) (l₁ l₂ : List LoaderCall) :
    p.after (l₁ ++ l₂) = (p.after l₁).bind fun q => q.after l₂ :=
  List.foldlM_append

/-- A ready loader stays ready through loads. -/
theorem ready_after_loads : ∀ {calls : List LoaderCall}, (∀ c ∈ calls, c.kind = .load) →
    ready.after calls = some ready
  | [], _ => rfl
  | c :: cs, h => by
    have hc : c.kind = .load := h c List.mem_cons_self
    have hcs := ready_after_loads fun c' hc' => h c' (List.mem_cons_of_mem c hc')
    cases c with
    | load => simpa [next] using hcs
    | loadAll => simpa [next] using hcs
    | init => cases hc
    | dispose => cases hc
    | cloneFor => cases hc

section
variable {p q : LoaderPhase} {c : LoaderCall}

theorem fresh_of_next_init (h : p.next c = some q) (hc : c.kind = .init) :
    p = fresh ∧ q ≠ fresh := by
  unfold next at h
  split at h <;> cases h <;> simp_all [LoaderCall.kind]

theorem ready_of_next_load (h : p.next c = some q) (hc : c.kind = .load) :
    p = ready ∧ q = ready := by
  unfold next at h
  split at h <;> cases h <;> simp_all [LoaderCall.kind]

theorem fresh_of_next_fresh (h : p.next c = some fresh) : p = fresh := by
  unfold next at h
  split at h <;> simp_all

/-- Only a ready loader and a succeeding `init` lead to ready. -/
theorem next_eq_ready (h : p.next c = some ready) : p = ready ∨ ∃ cache, c = .init cache (.ok ()) := by
  unfold next at h
  split at h <;> simp_all

theorem dispose_of_next_retired (h : p.next c = some retired) (hp : p ≠ retired) : c = .dispose := by
  unfold next at h
  split at h <;> simp_all

theorem retired_of_next_dispose (h : p.next .dispose = some q) : q = retired := by
  unfold next at h
  split at h <;> simp_all

end

@[simp] theorem retired_after_cons (c : LoaderCall) (cs : List LoaderCall) :
    retired.after (c :: cs) = none := rfl

/-- How many `init`s a phase still allows. -/
def initsLeft : LoaderPhase → Nat
  | fresh => 1
  | _ => 0

/-- Calls a phase allows hold no more `init`s than it has left. -/
theorem countP_init_le : ∀ {p : LoaderPhase} {calls : List LoaderCall}, (p.after calls).isSome →
    calls.countP (fun c => c.kind == .init) ≤ p.initsLeft
  | _, [], _ => Nat.zero_le _
  | p, c :: cs, h => by
    rw [after_cons, Option.isSome_bind, Option.any_eq_true] at h
    obtain ⟨q, hq, hcs⟩ := h
    have ih := countP_init_le hcs
    by_cases hc : c.kind = .init
    · -- the `init` is the fresh loader's one, and it leaves fresh
      obtain ⟨rfl, hq'⟩ := fresh_of_next_init hq hc
      have hleft : q.initsLeft = 0 := by cases q <;> simp_all [initsLeft]
      rw [List.countP_cons_of_pos (by simp [hc])]
      simp only [initsLeft]
      omega
    · have hle : q.initsLeft ≤ p.initsLeft := by
        cases q with
        | fresh => exact Nat.le_of_eq (congrArg initsLeft (fresh_of_next_fresh hq).symm)
        | _ => exact Nat.zero_le _
      rw [List.countP_cons_of_neg (by simp [hc])]
      exact Nat.le_trans ih hle

/-- A loader that reached ready was ready already or received an `init` that succeeded. -/
theorem ready_or_init_of_after : ∀ {p : LoaderPhase} {calls : List LoaderCall},
    p.after calls = some ready → p = ready ∨ ∃ cache, LoaderCall.init cache (.ok ()) ∈ calls
  | _, [], h => .inl (Option.some.inj h)
  | p, c :: cs, h => by
    rw [after_cons] at h
    obtain ⟨q, hq, hcs⟩ := Option.bind_eq_some_iff.1 h
    rcases ready_or_init_of_after hcs with rfl | ⟨cache, hmem⟩
    · rcases next_eq_ready hq with hp | ⟨cache, rfl⟩
      · exact .inl hp
      · exact .inr ⟨cache, List.mem_cons_self⟩
    · exact .inr ⟨cache, List.mem_cons_of_mem _ hmem⟩

/-- A loader that reached retired received a `dispose`. -/
theorem mem_dispose_of_after : ∀ {p : LoaderPhase} {calls : List LoaderCall}, p ≠ retired →
    p.after calls = some retired → LoaderCall.dispose ∈ calls
  | _, [], hp, h => absurd (Option.some.inj h) hp
  | p, c :: cs, hp, h => by
    rw [after_cons] at h
    obtain ⟨q, hq, hcs⟩ := Option.bind_eq_some_iff.1 h
    by_cases hq' : q = retired
    · subst hq'
      rw [dispose_of_next_retired hq hp]
      exact List.mem_cons_self
    · exact List.mem_cons_of_mem _ (mem_dispose_of_after hq' hcs)

/-- Nothing follows a `dispose`. -/
theorem eq_nil_of_after_dispose {p : LoaderPhase} {pre post : List LoaderCall}
    (h : (p.after (pre ++ .dispose :: post)).isSome) : post = [] := by
  rw [after_append, Option.isSome_bind, Option.any_eq_true] at h
  obtain ⟨q, -, h⟩ := h
  rw [after_cons, Option.isSome_bind, Option.any_eq_true] at h
  obtain ⟨q', hq', h⟩ := h
  rw [retired_of_next_dispose hq'] at h
  cases post with
  | nil => rfl
  | cons c cs => simp only [retired_after_cons, Option.isSome_none, Bool.false_eq_true] at h

end LoaderPhase

/-- The order a loader's calls come in: `init` at most once, a load only after an `init` that
succeeded, and nothing after `dispose` (which so comes at most once). -/
structure LoaderCall.InOrder (calls : List LoaderCall) : Prop where
  init_once : calls.countP (fun c => c.kind == .init) ≤ 1
  load_after_init : ∀ pre c post, calls = pre ++ c :: post → c.kind = .load →
    ∃ cache, LoaderCall.init cache (.ok ()) ∈ pre
  dispose_last : ∀ pre post, calls = pre ++ .dispose :: post → post = []

/-- Calls the life of a fresh loader allows come in order. -/
theorem LoaderPhase.inOrder {calls : List LoaderCall} (h : (fresh.after calls).isSome) :
    LoaderCall.InOrder calls := by
  refine ⟨countP_init_le h, fun pre c post hcalls hc => ?_, fun pre post hcalls =>
    eq_nil_of_after_dispose (hcalls ▸ h)⟩
  rw [hcalls, after_append, Option.isSome_bind, Option.any_eq_true] at h
  obtain ⟨q, hq, h⟩ := h
  rw [after_cons, Option.isSome_bind, Option.any_eq_true] at h
  obtain ⟨q', hq', -⟩ := h
  rw [(ready_of_next_load hq' hc).1] at hq
  rcases ready_or_init_of_after hq with h | h
  · cases h
  · exact h

/-- Where a listener is in the life a cache gives it, as the calls it received show. -/
inductive ListenerPhase where
  | live
  | retired
  deriving DecidableEq, Repr

/-- Whether a listener call is a notification. -/
def ListenerCall.isNotify : ListenerCall → Bool
  | .notify .. => true
  | .dispose => false

namespace ListenerPhase

/-- The phase after one more call, or `none` if the listener may not receive it. -/
def next : ListenerPhase → ListenerCall → Option ListenerPhase
  | live, .notify .. => some live
  | live, .dispose => some retired
  | retired, _ => none

/-- The phase after some calls, oldest first, or `none` if one of them was not allowed. -/
def after (p : ListenerPhase) (calls : List ListenerCall) : Option ListenerPhase :=
  calls.foldlM next p

@[simp] theorem after_nil (p : ListenerPhase) : p.after [] = some p := rfl

@[simp] theorem after_cons (p : ListenerPhase) (c : ListenerCall) (cs : List ListenerCall) :
    p.after (c :: cs) = (p.next c).bind fun q => q.after cs := rfl

theorem after_append (p : ListenerPhase) (l₁ l₂ : List ListenerCall) :
    p.after (l₁ ++ l₂) = (p.after l₁).bind fun q => q.after l₂ :=
  List.foldlM_append

/-- A live listener stays live through notifications. -/
theorem live_after_notifies : ∀ {calls : List ListenerCall}, (∀ c ∈ calls, c.isNotify) →
    live.after calls = some live
  | [], _ => rfl
  | c :: cs, h => by
    have hc : c.isNotify = true := h c List.mem_cons_self
    have hcs := live_after_notifies fun c' hc' => h c' (List.mem_cons_of_mem c hc')
    cases c with
    | notify => simpa [next] using hcs
    | dispose => cases hc

@[simp] theorem retired_after_cons (c : ListenerCall) (cs : List ListenerCall) :
    retired.after (c :: cs) = none := rfl

/-- A listener that was retired received a `dispose`. -/
theorem mem_dispose_of_after : ∀ {calls : List ListenerCall},
    live.after calls = some retired → ListenerCall.dispose ∈ calls
  | [], h => by cases h
  | c :: cs, h => by
    cases c with
    | dispose => exact List.mem_cons_self
    | notify => exact List.mem_cons_of_mem _ (mem_dispose_of_after h)

/-- Nothing follows a listener's `dispose`. -/
theorem eq_nil_of_after_dispose {p : ListenerPhase} {pre post : List ListenerCall}
    (h : (p.after (pre ++ .dispose :: post)).isSome) : post = [] := by
  rw [after_append, Option.isSome_bind, Option.any_eq_true] at h
  obtain ⟨q, -, h⟩ := h
  cases q <;> cases post <;> simp_all [next]

end ListenerPhase

/-- The order a listener's calls come in: nothing after `dispose`, which so comes at most once. -/
structure ListenerCall.InOrder (calls : List ListenerCall) : Prop where
  dispose_last : ∀ pre post, calls = pre ++ .dispose :: post → post = []

/-- Calls the life of a live listener allows come in order. -/
theorem ListenerPhase.inOrder {calls : List ListenerCall} (h : (live.after calls).isSome) :
    ListenerCall.InOrder calls :=
  ⟨fun _ _ hcalls => eq_nil_of_after_dispose (hcalls ▸ h)⟩

namespace Sighting

/-- The call of a sighting, if it is one the listener tagged `t` received. -/
def listenerCall? (t : Nat) : Sighting → Option ListenerCall
  | .listener t' c => if t' = t then some c else none
  | _ => none

/-- The calls the listener tagged `t` received, oldest first. -/
def listenerCalls (t : Nat) (log : List Sighting) : List ListenerCall :=
  log.filterMap (listenerCall? t)

@[simp] theorem listenerCalls_nil (t : Nat) : listenerCalls t [] = [] := rfl

@[simp] theorem listenerCalls_append (t : Nat) (l₁ l₂ : List Sighting) :
    listenerCalls t (l₁ ++ l₂) = listenerCalls t l₁ ++ listenerCalls t l₂ :=
  List.filterMap_append

@[simp] theorem listenerCalls_cons (t : Nat) (s : Sighting) (l : List Sighting) :
    listenerCalls t (s :: l) = (listenerCall? t s).toList ++ listenerCalls t l := by
  unfold listenerCalls
  cases h : listenerCall? t s <;> simp [h]

/-- The phase the log shows the loader tagged `t` in. -/
def loaderPhase (t : Nat) (log : List Sighting) : Option LoaderPhase :=
  LoaderPhase.fresh.after (loaderCalls t log)

/-- The phase the log shows the listener tagged `t` in. -/
def listenerPhase (t : Nat) (log : List Sighting) : Option ListenerPhase :=
  ListenerPhase.live.after (listenerCalls t log)

theorem loaderPhase_append (t : Nat) (log seg : List Sighting) :
    loaderPhase t (log ++ seg) = (loaderPhase t log).bind fun p => p.after (loaderCalls t seg) := by
  rw [loaderPhase, loaderCalls_append, LoaderPhase.after_append]
  rfl

theorem listenerPhase_append (t : Nat) (log seg : List Sighting) :
    listenerPhase t (log ++ seg) =
      (listenerPhase t log).bind fun p => p.after (listenerCalls t seg) := by
  rw [listenerPhase, listenerCalls_append, ListenerPhase.after_append]
  rfl

end Sighting

/-! ## What a log owes a cache's loaders and listeners -/

/-- What a data operation keeps of a cache, and what decides which calls it may make: the
cache's status, its loader's tag and binding state, and its listeners' tags. -/
structure Roster where
  status : Status
  loader : Option (Nat × BindingState)
  listeners : List Nat

/-- A cache's roster. -/
def Cache.roster {L E H S : Type} (c : Cache (Tagged L) (Tagged E) H S) : Roster :=
  ⟨c.status, c.binding.map fun b => (b.loader.tag, b.state), c.listeners.map Tagged.tag⟩

/-- The phases a bound loader may be in, given its binding's state and its cache's status: a
constructed binding's loader is fresh or, once its cache has left `uninitialized`, may have
refused its `init`; an initialised one's is ready, and its cache has left `uninitialized`. -/
def BindingState.Fits : BindingState → Status → LoaderPhase → Prop
  | .constructed, _, .fresh => True
  | .constructed, s, .refused => s ≠ .uninitialized
  | .initialized, s, .ready => s ≠ .uninitialized
  | _, _, _ => False

theorem BindingState.eq_ready_of_fits {s : Status} {p : LoaderPhase}
    (h : BindingState.initialized.Fits s p) : p = .ready := by
  cases p with
  | ready => rfl
  | _ => exact h.elim

/-- While its cache is `uninitialized`, a bound loader is fresh. -/
theorem BindingState.eq_fresh_of_fits {st : BindingState} {p : LoaderPhase}
    (h : st.Fits .uninitialized p) : p = .fresh := by
  cases st <;> cases p <;> simp_all [BindingState.Fits]

/-- While its cache is `uninitialized`, a binding is constructed. -/
theorem BindingState.eq_constructed_of_fits {st : BindingState} {p : LoaderPhase}
    (h : st.Fits .uninitialized p) : st = .constructed := by
  cases st <;> cases p <;> simp_all [BindingState.Fits]

open Sighting in
/-- What a log owes the loader tagged `t`, for a cache with roster `r`: the loader received its
calls in the order its life allows; if it is the cache's loader, it is in a phase its binding's
state fits and its tag is below the next fresh tag; at or above the next fresh tag it was never
called. -/
structure LoaderLives {W : Type} (r : Roster) (w : Watched W) (t : Nat) : Prop where
  phase : (loaderPhase t w.seen).isSome
  bound : ∀ st, r.loader = some (t, st) →
    (∃ p, loaderPhase t w.seen = some p ∧ st.Fits r.status p) ∧ t < w.next
  unheard : w.next ≤ t → loaderCalls t w.seen = []

open Sighting in
/-- What a log owes the listener tagged `t`, for a cache with roster `r`: the listener received
its calls in the order its life allows, and it is live if it is one of the cache's. -/
structure ListenerLives {W : Type} (r : Roster) (w : Watched W) (t : Nat) : Prop where
  phase : (listenerPhase t w.seen).isSome
  live : t ∈ r.listeners → listenerPhase t w.seen = some .live

/-- What a log owes every loader and listener of a cache with roster `r`, whose listeners are
distinct. -/
structure Lives {W : Type} (r : Roster) (w : Watched W) : Prop where
  loaders : ∀ t, LoaderLives r w t
  listeners : ∀ t, ListenerLives r w t
  distinct : r.listeners.Nodup

namespace Sighting

/-- A sighting a data operation may add on a cache with roster `r`: a load of its loader while
the loader is initialised, a notification of one of its listeners, a store call or a report. -/
def IsRoutine (r : Roster) : Sighting → Prop
  | .loader t c => c.kind = .load ∧ r.loader = some (t, .initialized)
  | .listener t c => c.isNotify = true ∧ t ∈ r.listeners
  | .store .. | .handled .. => True
  | .made _ | .opened .. => False

/-- Every sighting of a segment is routine. -/
def Routine (r : Roster) (seg : List Sighting) : Prop := ∀ s ∈ seg, s.IsRoutine r

section
variable {r : Roster} {seg : List Sighting}

theorem Routine.loaderCalls (h : Routine r seg) {t : Nat} {c : LoaderCall}
    (hc : c ∈ loaderCalls t seg) : c.kind = .load ∧ r.loader = some (t, .initialized) := by
  obtain ⟨s, hs, hsc⟩ := List.mem_filterMap.1 hc
  have hr := h s hs
  cases s with
  | loader t' c' =>
    simp only [loaderCall?, Option.ite_none_right_eq_some, Option.some.injEq] at hsc
    obtain ⟨rfl, rfl⟩ := hsc
    exact hr
  | _ => cases hsc

theorem Routine.listenerCalls (h : Routine r seg) {t : Nat} {c : ListenerCall}
    (hc : c ∈ listenerCalls t seg) : c.isNotify = true ∧ t ∈ r.listeners := by
  obtain ⟨s, hs, hsc⟩ := List.mem_filterMap.1 hc
  have hr := h s hs
  cases s with
  | listener t' c' =>
    simp only [listenerCall?, Option.ite_none_right_eq_some, Option.some.injEq] at hsc
    obtain ⟨rfl, rfl⟩ := hsc
    exact hr
  | _ => cases hsc

/-- Routine sightings keep a loader in its phase: only a ready loader takes loads. -/
theorem Routine.loaderPhase (h : Routine r seg) {t : Nat} {log : List Sighting}
    {p : LoaderPhase} (hp : loaderPhase t log = some p)
    (hready : r.loader = some (t, .initialized) → p = .ready) :
    loaderPhase t (log ++ seg) = some p := by
  rw [loaderPhase_append, hp, Option.bind_some]
  by_cases hb : r.loader = some (t, .initialized)
  · rw [hready hb]
    exact LoaderPhase.ready_after_loads fun c hc => (h.loaderCalls hc).1
  · -- no call reached this loader
    have hnil : Sighting.loaderCalls t seg = [] :=
      List.eq_nil_iff_forall_not_mem.2 fun c hc => hb (h.loaderCalls hc).2
    rw [hnil]
    rfl

/-- Routine sightings keep a listener in its phase: only a live one is notified. -/
theorem Routine.listenerPhase (h : Routine r seg) {t : Nat} {log : List Sighting}
    {p : ListenerPhase} (hp : listenerPhase t log = some p) (hlive : t ∈ r.listeners → p = .live) :
    listenerPhase t (log ++ seg) = some p := by
  rw [listenerPhase_append, hp, Option.bind_some]
  by_cases hm : t ∈ r.listeners
  · rw [hlive hm]
    exact ListenerPhase.live_after_notifies fun c hc => (h.listenerCalls hc).1
  · have hnil : Sighting.listenerCalls t seg = [] :=
      List.eq_nil_iff_forall_not_mem.2 fun c hc => hm (h.listenerCalls hc).2
    rw [hnil]
    rfl

end

end Sighting

open Sighting in
/-- A log stays what the roster is owed when routine sightings are added and no fresh tag is
taken. -/
theorem Lives.routine {W : Type} {r : Roster} {w w' : Watched W} {seg : List Sighting}
    (hl : Lives r w) (hw : w'.seen = w.seen ++ seg) (hn : w'.next = w.next)
    (hs : Routine r seg) : Lives r w' := by
  refine ⟨fun t => ?_, fun t => ?_, hl.distinct⟩
  · obtain ⟨hphase, hbound, hunheard⟩ := hl.loaders t
    obtain ⟨p, hp⟩ := Option.isSome_iff_exists.1 hphase
    -- the roster's loader is the only one a routine sighting calls, and it is ready
    have hready : r.loader = some (t, .initialized) → p = .ready := fun hb => by
      obtain ⟨⟨q, hq, hfit⟩, -⟩ := hbound _ hb
      rw [hp] at hq
      cases hq
      exact BindingState.eq_ready_of_fits hfit
    have hp' : loaderPhase t w'.seen = some p := by
      rw [hw]
      exact hs.loaderPhase hp hready
    refine ⟨by rw [hp']; rfl, fun st hb => ?_, fun ht => ?_⟩
    · obtain ⟨⟨q, hq, hfit⟩, hlt⟩ := hbound st hb
      rw [hp] at hq
      cases hq
      exact ⟨⟨_, hp', hfit⟩, hn ▸ hlt⟩
    · rw [hw, loaderCalls_append, hunheard (hn ▸ ht), List.nil_append]
      refine List.eq_nil_iff_forall_not_mem.2 fun c hc => ?_
      have hlt := (hbound _ (hs.loaderCalls hc).2).2
      omega
  · obtain ⟨hphase, hlive⟩ := hl.listeners t
    obtain ⟨p, hp⟩ := Option.isSome_iff_exists.1 hphase
    -- only the roster's listeners are told, and they are live
    have hp' : listenerPhase t w'.seen = some p := by
      rw [hw]
      exact hs.listenerPhase hp fun hm => by rw [hlive hm] at hp; cases hp; rfl
    exact ⟨by rw [hp']; rfl, fun hm => by rw [hp', ← hp, hlive hm]⟩

/-! ## Data operations call only what they may -/

namespace Cache

variable {L E H S W α β : Type} {r : Roster}

open Sighting

/-- Every run of `x` from a cache with roster `r` adds only routine sightings, takes no fresh
tag, and leaves a cache with roster `r`. -/
def Confined (r : Roster) (x : CacheM (Tagged L) (Tagged E) H S (Watched W) α) : Prop :=
  ∀ c w, c.roster = r → ∃ seg, (exec x c w).2.seen = w.seen ++ seg ∧
    (exec x c w).2.next = w.next ∧ (exec x c w).1.2.roster = r ∧ Routine r seg

theorem routine_nil : Routine r [] := fun _ h => by cases h

theorem Routine.append {seg seg' : List Sighting} (h : Routine r seg) (h' : Routine r seg') :
    Routine r (seg ++ seg') := fun s hs => (List.mem_append.1 hs).elim (h s) (h' s)

/-- What a confined stretch of a run does: from a cache with roster `r`, the log grew by routine
sightings, no fresh tag was taken, and the cache still has roster `r`. `Confined r` moves along
it. -/
def Stays (r : Roster) (p q : Cache (Tagged L) (Tagged E) H S × Watched W) : Prop :=
  p.1.roster = r → ∃ seg, q.2.seen = p.2.seen ++ seg ∧ q.2.next = p.2.next ∧ q.1.roster = r ∧
    Routine r seg

theorem Stays.trans {p q s : Cache (Tagged L) (Tagged E) H S × Watched W} (h₁ : Stays r p q)
    (h₂ : Stays r q s) : Stays r p s := by
  intro hp
  obtain ⟨seg, hw, hn, hr, hs⟩ := h₁ hp
  obtain ⟨seg', hw', hn', hr', hs'⟩ := h₂ hr
  exact ⟨seg ++ seg', by rw [hw', hw, List.append_assoc], hn'.trans hn, hr', Routine.append hs hs'⟩

section
variable {x : CacheM (Tagged L) (Tagged E) H S (Watched W) α}

theorem Confined.bind {f : α → CacheM (Tagged L) (Tagged E) H S (Watched W) β}
    (hx : Confined r x) (hf : ∀ a, Confined r (f a)) : Confined r (x >>= f) :=
  Moves.bind (R := Stays r) Stays.trans hx hf

theorem confined_pure (a : α) : Confined r (pure a : CacheM (Tagged L) (Tagged E) H S (Watched W) α) :=
  fun _ _ hc => ⟨[], by simp, rfl, hc, routine_nil⟩

theorem confined_throw (e : Failure) :
    Confined r (throw e : CacheM (Tagged L) (Tagged E) H S (Watched W) α) :=
  fun _ _ hc => ⟨[], by simp, rfl, hc, routine_nil⟩

/-- What follows a look at the cache may rely on the cache having the roster. -/
theorem confined_current_bind {f : Cache (Tagged L) (Tagged E) H S → CacheM (Tagged L) (Tagged E) H S (Watched W) α}
    (hf : ∀ c, c.roster = r → Confined r (f c)) : Confined r (current >>= f) := by
  intro c w hc
  rw [exec_bind, exec_current]
  exact hf c hc c w hc

theorem confined_modify {g : Cache (Tagged L) (Tagged E) H S → Cache (Tagged L) (Tagged E) H S}
    (hg : ∀ c, c.roster = r → (g c).roster = r) :
    Confined r (modify g : CacheM (Tagged L) (Tagged E) H S (Watched W) Unit) :=
  fun c _ hc => ⟨[], by simp, rfl, hg c hc, routine_nil⟩

theorem confined_lift {act : StateM (Watched W) α} (hq : Watched.Quiet act) :
    Confined r (monadLift act : CacheM (Tagged L) (Tagged E) H S (Watched W) α) := by
  intro c w hc
  obtain ⟨b, hb⟩ := hq w
  exact ⟨[], by rw [exec_lift, hb]; rfl, by rw [exec_lift, hb]; simp, hc, routine_nil⟩

/-- A watched call that adds one routine sighting and takes no fresh tag. -/
theorem confined_call {act : StateM (Watched W) α}
    (h : ∀ w, ∃ s, (act.run w).2.seen = w.seen ++ [s] ∧ (act.run w).2.next = w.next ∧ s.IsRoutine r) :
    Confined r (monadLift act : CacheM (Tagged L) (Tagged E) H S (Watched W) α) := by
  intro c w hc
  obtain ⟨s, hw, hn, hs⟩ := h w
  exact ⟨[s], hw, hn, hc, fun s' hs' => by rw [List.mem_singleton.1 hs']; exact hs⟩

theorem Confined.discard (hx : Confined r x) : Confined r (Functor.discard x) :=
  Moves.discard (R := Stays r) hx

theorem Confined.map (g : α → β) (hx : Confined r x) : Confined r (g <$> x) :=
  Moves.map (R := Stays r) g hx

theorem Confined.tryCatch {g : Failure → CacheM (Tagged L) (Tagged E) H S (Watched W) α}
    (hx : Confined r x) (hg : ∀ e, Confined r (g e)) : Confined r (MonadExcept.tryCatch x g) :=
  Moves.tryCatch (R := Stays r) Stays.trans hx hg

end

theorem confined_forM {γ : Type} (g : γ → CacheM (Tagged L) (Tagged E) H S (Watched W) PUnit) :
    ∀ l : List γ, (∀ a ∈ l, Confined r (g a)) → Confined r (l.forM g)
  | [], _ => confined_pure _
  | a :: l, hg => by
    rw [List.forM_eq_forM, List.forM_cons]
    exact (hg a List.mem_cons_self).bind fun _ =>
      confined_forM g l fun b hb => hg b (List.mem_cons_of_mem a hb)

theorem confined_foldlM {γ δ : Type} (g : δ → γ → CacheM (Tagged L) (Tagged E) H S (Watched W) δ)
    (hg : ∀ a b, Confined r (g a b)) : ∀ (l : List γ) (init : δ), Confined r (l.foldlM g init)
  | [], _ => confined_pure _
  | b :: l, init => by
    rw [List.foldlM_cons]
    exact (hg init b).bind fun a => confined_foldlM g hg l a

theorem confined_orFail (res : Except Failure α) :
    Confined r (orFail res : CacheM (Tagged L) (Tagged E) H S (Watched W) α) := by
  cases res with
  | ok a => exact confined_pure a
  | error e => exact confined_throw e

theorem confined_checkOperable (op : String) :
    Confined r (checkOperable op : CacheM (Tagged L) (Tagged E) H S (Watched W) Unit) :=
  confined_current_bind fun _ _ => confined_orFail _

theorem confined_log [Journal W] (level : Level) (target message : String) :
    Confined r (log level target message : CacheM (Tagged L) (Tagged E) H S (Watched W) Unit) :=
  confined_lift (Watched.quiet_logLine level target message)

/-! ### Watched calls -/

/-- A call of a watched collaborator adds one sighting of its answer and takes no fresh tag. -/
theorem answer_sights {σ γ : Type} (act : StateT σ (StateM W) γ) (mk : Nat → γ → Sighting)
    (t : Tagged σ) (w : Watched W) :
    (((Tagged.answer act mk).run t).run w).2.seen = w.seen ++ [mk t.tag (((Tagged.answer act mk).run t).run w).1.1] ∧
      (((Tagged.answer act mk).run t).run w).2.next = w.next := by
  rcases h : (act.run t.val).run w.base with ⟨⟨b, v⟩, base⟩
  rw [Tagged.answer_of act mk h]
  exact ⟨rfl, rfl⟩

theorem confined_report [Handler H W] (key : Option String) (f : Failure) :
    Confined r (report key f : CacheM (Tagged L) (Tagged E) H S (Watched W) Unit) :=
  confined_current_bind fun c _ => confined_call fun _ => ⟨.handled c.settings key f, rfl, rfl, trivial⟩

theorem confined_isolate [Handler H W] (key : Option String) (res : Except Failure α) :
    Confined r (isolate key res : CacheM (Tagged L) (Tagged E) H S (Watched W) (Option α)) := by
  unfold isolate
  split
  · exact confined_pure _
  · split
    · exact (confined_report _ _).bind fun _ => confined_pure _
    · exact confined_throw _

/-- A round of notifications calls only the cache's listeners. -/
theorem confined_notify [Listener E W] [Handler H W] (key : Option String) (ev : Event) :
    Confined r (notify key ev : CacheM (Tagged L) (Tagged E) H S (Watched W) Unit) := by
  unfold notify
  refine confined_current_bind fun c hc => confined_forM _ _ fun l hl => ?_
  -- only a listener of the roster is told, and only of an event
  refine (confined_call fun w => ⟨.listener l.tag (.notify c.name ev
      ((Listener.notify l.val c.name ev).run w.base).1), rfl, rfl, rfl, ?_⟩).bind
    fun res => (confined_isolate _ res).discard
  rw [← hc]
  exact List.mem_map_of_mem hl

section
variable [Listener E W] [Handler H W] [Storage S W] [Journal W]

/-- Telling the listeners what the store dropped calls only the cache's listeners. -/
theorem confined_relayRemovals :
    Confined r (relayRemovals : CacheM (Tagged L) (Tagged E) H (Tagged S) (Watched W) Unit) := by
  unfold relayRemovals
  refine confined_current_bind fun c _ => (confined_lift (quiet_takeRemovals c.store)).bind
    fun p => ?_
  obtain ⟨rs, st⟩ := p
  dsimp only
  refine (confined_modify fun c hc => by rw [← hc]; rfl).bind fun _ =>
    confined_forM _ rs fun _ _ => ?_
  exact (confined_notify _ _).tryCatch fun _ =>
    confined_current_bind fun _ _ => confined_log _ _ _

/-- A store call, then the relay of what the store dropped. -/
theorem confined_onStore {γ : Type} {act : StateT S (StateM W) γ} {mk : Nat → γ → Sighting}
    (hmk : ∀ t a, (mk t a).IsRoutine r) :
    Confined r (onStore (Tagged.answer act mk) :
      CacheM (Tagged L) (Tagged E) H (Tagged S) (Watched W) γ) := by
  unfold onStore
  refine confined_current_bind fun c _ =>
    (confined_call fun w => ⟨_, (answer_sights act mk c.store w).1,
      (answer_sights act mk c.store w).2, hmk _ _⟩).bind fun p => ?_
  obtain ⟨a, st⟩ := p
  dsimp only
  exact (confined_modify fun c hc => by rw [← hc]; rfl).bind fun _ =>
    confined_relayRemovals.bind fun _ => confined_pure a

end

/-- A load through the cache's binding, made while the roster's loader is initialised. -/
theorem confined_onLoad [Named L] [KeyedLoader L W] [Journal W] {t : Nat} (hr : r.loader = some (t, .initialized))
    {γ : Type} {act : StateT L (StateM W) γ} {mk : Nat → γ → Sighting}
    (hmk : ∀ a, ∃ call, mk t a = .loader t call ∧ call.kind = .load) :
    Confined r (onBinding (Binding.onLoader (Tagged.answer act mk)) :
      CacheM (Tagged L) (Tagged E) H S (Watched W) (Option γ)) := by
  intro c w hc
  -- the roster's loader is the cache's binding
  obtain ⟨b, hb, hbr⟩ : ∃ b, c.binding = some b ∧ (b.loader.tag, b.state) = (t, .initialized) := by
    have hl : c.binding.map (fun b => (b.loader.tag, b.state)) = some (t, .initialized) := by
      rw [← hr, ← hc]
      rfl
    exact Option.map_eq_some_iff.1 hl
  obtain ⟨htag, hstate⟩ := Prod.mk.inj hbr
  rcases h : (act.run b.loader.val).run w.base with ⟨⟨a, v⟩, base⟩
  have hexec : exec (onBinding (Binding.onLoader (Tagged.answer act mk)) :
      CacheM (Tagged L) (Tagged E) H S (Watched W) (Option γ)) c w =
        ((.ok (some a), { c with binding := some { b with loader := { b.loader with val := v } } }),
          w.after base 0 [mk b.loader.tag a]) := by
    unfold onBinding
    rw [exec_bind, exec_current]
    dsimp only
    rw [hb, exec_bind, onDetached, exec_lift, Binding.onLoader_run, Tagged.answer_of act mk h]
    rfl
  rw [hexec]
  refine ⟨[mk b.loader.tag a], rfl, rfl, ?_, fun s hs => ?_⟩
  · rw [← hc]
    simp [Cache.roster, hb]
  · obtain ⟨call, hcall, hk⟩ := hmk a
    rw [List.mem_singleton.1 hs, htag, hcall]
    exact ⟨hk, hr⟩

/-- A cache whose binding is ready has an initialised loader on its roster. -/
theorem roster_loader_of_ready {c : Cache (Tagged L) (Tagged E) H S}
    (h : (readyBinding c).isNone = false) : ∃ t, c.roster.loader = some (t, .initialized) := by
  unfold readyBinding at h
  rcases hb : c.binding with _ | b
  · simp [hb] at h
  · simp only [hb, Option.filter_some, Binding.isReady] at h
    cases hst : b.state with
    | initialized => exact ⟨b.loader.tag, by simp [Cache.roster, hb, hst]⟩
    | _ => simp [hst] at h

section
variable [Named L] [KeyedLoader L W] [Journal W]

theorem confined_dispatch {t : Nat} (hr : r.loader = some (t, .initialized)) (k : String)
    (a : Option Argument) :
    Confined r (onBinding (Binding.onLoader (dispatch (W := Watched W) k a)) :
      CacheM (Tagged L) (Tagged E) H S (Watched W) _) := by
  cases a <;> rw [dispatch] <;> exact confined_onLoad (W := W) hr fun _ => ⟨_, rfl, rfl⟩

theorem confined_dispatchAll {t : Nat} (hr : r.loader = some (t, .initialized)) (ks : List String)
    (a : Option Argument) :
    Confined r (onBinding (Binding.onLoader (dispatchAll (W := Watched W) ks a)) :
      CacheM (Tagged L) (Tagged E) H S (Watched W) _) := by
  cases a <;> rw [dispatchAll] <;> exact confined_onLoad (W := W) hr fun _ => ⟨_, rfl, rfl⟩

end

/-! ### The operations -/

section
variable [Listener E W] [Handler H W] [Storage S W] [Journal W]

theorem confined_storeCall {γ : Type} {act : StateT S (StateM W) γ} (mk : γ → StoreCall) :
    Confined r (onStore (Tagged.answer act fun t a => .store t (mk a)) :
      CacheM (Tagged L) (Tagged E) H (Tagged S) (Watched W) γ) :=
  confined_onStore fun _ _ => trivial

theorem confined_put (k v : String) :
    Confined r (put k v : CacheM (Tagged L) (Tagged E) H (Tagged S) (Watched W) Unit) := by
  unfold put
  refine (confined_checkOperable _).bind fun _ => (confined_storeCall _).bind fun res => ?_
  refine (confined_isolate _ res).bind fun o => ?_
  split
  · exact confined_notify _ _
  · exact confined_notify _ _
  · exact confined_pure _

theorem confined_putAll (es : List (String × String)) :
    Confined r (putAll es : CacheM (Tagged L) (Tagged E) H (Tagged S) (Watched W) Unit) :=
  confined_forM _ es fun _ _ => confined_put _ _

theorem confined_remove (k : String) :
    Confined r (remove k : CacheM (Tagged L) (Tagged E) H (Tagged S) (Watched W) _) := by
  unfold remove
  refine (confined_checkOperable _).bind fun _ => (confined_storeCall _).bind fun res => ?_
  refine (confined_isolate _ res).bind fun o => ?_
  dsimp only
  split
  · exact (confined_notify _ _).bind fun _ => confined_pure _
  · exact confined_pure _

theorem confined_removeAll :
    Confined r (removeAll : CacheM (Tagged L) (Tagged E) H (Tagged S) (Watched W) Unit) := by
  unfold removeAll
  refine (confined_checkOperable _).bind fun _ => (confined_storeCall _).bind fun res => ?_
  refine (confined_isolate _ res).bind fun o => ?_
  split
  · exact confined_notify _ _
  · exact confined_pure _

omit [Listener E W] [Handler H W] [Journal W] in
theorem confined_containsKey (k : String) :
    Confined r (containsKey k : CacheM (Tagged L) (Tagged E) H (Tagged S) (Watched W) Bool) :=
  (confined_checkOperable _).bind fun _ => confined_current_bind fun _ _ => confined_pure _

variable [Named L] [KeyedLoader L W]

theorem confined_get (k : String) (a : Option Argument) :
    Confined r (get k a : CacheM (Tagged L) (Tagged E) H (Tagged S) (Watched W) _) := by
  unfold get
  refine (confined_checkOperable _).bind fun _ => (confined_storeCall _).bind fun res => ?_
  refine (confined_isolate _ res).bind fun o => ?_
  split
  · exact confined_pure _
  refine confined_current_bind fun c hc => ?_
  split
  · exact confined_pure _
  -- a miss goes to the loader only when it is initialised
  rename_i hready
  obtain ⟨t, ht⟩ := roster_loader_of_ready (c := c) (Bool.eq_false_iff.2 hready)
  rw [hc] at ht
  refine (confined_dispatch ht k a).bind fun o => ?_
  split
  · refine (confined_isolate _ _).bind fun o' => ?_
    split
    · exact (confined_put _ _).bind fun _ => confined_pure _
    · exact confined_pure _
  · exact confined_pure _

theorem confined_getAll (ks : List String) (a : Option Argument) :
    Confined r (getAll ks a : CacheM (Tagged L) (Tagged E) H (Tagged S) (Watched W) _) := by
  unfold getAll
  refine (confined_checkOperable _).bind fun _ => ?_
  refine (confined_foldlM _ (fun acc k => ?_) _ _).bind fun p => ?_
  · refine (confined_storeCall _).bind fun res => (confined_isolate _ res).bind fun o => ?_
    split <;> exact confined_pure _
  obtain ⟨found, missing⟩ := p
  refine confined_current_bind fun c hc => ?_
  split
  · exact confined_pure _
  -- the misses go to an initialised loader as one batch
  rename_i hready
  obtain ⟨t, ht⟩ := roster_loader_of_ready (c := c)
    (Bool.eq_false_iff.2 fun h => hready (by simp [h]))
  rw [hc] at ht
  refine (confined_dispatchAll ht missing a).bind fun o => ?_
  cases o with
  | none => exact confined_pure _
  | some res =>
    refine (confined_isolate _ res).bind fun ob => ?_
    cases ob with
    | none => exact confined_pure _
    | some b =>
      refine (confined_forM _ b.failures fun p _ => ?_).bind fun _ => ?_
      · obtain ⟨k, f⟩ := p
        dsimp only
        split
        · exact confined_report _ _
        · exact confined_throw _
      exact confined_foldlM _ (fun acc p => (confined_put _ _).bind fun _ => confined_pure _) _ _

end

end Cache

namespace CacheCall

variable {L E H S W : Type} [Named L] [KeyedLoader L W] [Named E] [Listener E W] [Handler H W]
  [Storage S W] [Journal W]

/-- A call that reads or writes entries calls only what it may, and keeps the roster. -/
theorem confined_run (call : CacheCall (Tagged L) (Tagged E)) (hd : call.isData = true)
    (r : Roster) :
    Cache.Confined r (call.run : CacheM (Tagged L) (Tagged E) H (Tagged S) (Watched W) _) := by
  cases call
  case get k a => exact (Cache.confined_get k a).map _
  case getAll ks a => exact (Cache.confined_getAll ks a).map _
  case put k v => exact (Cache.confined_put k v).bind fun _ => Cache.confined_pure _
  case putAll es => exact (Cache.confined_putAll es).bind fun _ => Cache.confined_pure _
  case remove k => exact (Cache.confined_remove k).map _
  case removeAll => exact Cache.confined_removeAll.bind fun _ => Cache.confined_pure _
  case containsKey k => exact (Cache.confined_containsKey k).map _
  all_goals cases hd

end CacheCall

end NamedCaches
