import NamedCaches.Proofs.Watch.World
set_option autoImplicit false
/-!
# What a cache's handler is owed, and in what order

Each call a cache makes leaves one sighting, and `Sighting.owed` reads off it what the cache's
handler is owed: the call's failure with the key it was about, if the failure is recoverable.
`Sighting.arrivals` lists what the calls of a log owe in the order the handler receives it. That
is the order of the calls but for one step: a store call's failure is taken up once the entries
the store dropped meanwhile have been relayed to the listeners, so the failures of those
notifications come first.

A data operation is made of two kinds of part (`Mode`): its own steps, whose logs `Flushes` (a
failure held back is due at the first call that is no relay), and the relays of what the store
dropped, which only tell listeners of dropped entries (`Relays`). Within a part the handler
receives the failures of two halves of a log one after the other (`Mode.arrivals_append`).
-/

namespace NamedCaches

/-- The key an event is about. -/
def Event.key? : Event → Option String
  | .put k _ | .updated k _ | .removed k _ | .expired k _ | .evicted k _ => some k
  | .removeAll => none

/-- Whether an event tells of an entry a store dropped on its own. -/
def Event.dropped : Event → Bool
  | .expired .. | .evicted .. => true
  | _ => false

@[simp] theorem Removal.key?_event (r : Removal) : r.event.key? = some r.key := by
  unfold Removal.event
  split <;> rfl

@[simp] theorem Removal.dropped_event (r : Removal) : r.event.dropped = true := by
  unfold Removal.event
  split <;> rfl

/-- Where a sighting stands in the order failures reach a cache's handler. -/
inductive Arrival where
  /-- The handler received a failure. -/
  | report
  /-- A listener was told of an entry its store dropped on its own. -/
  | relayed
  /-- A store call: its failure is taken up once what the store dropped has been relayed. -/
  | store
  /-- Any other call. -/
  | call
  deriving DecidableEq

namespace Sighting

/-- What a step's failure gives the handler, about a key: the failure, if it is recoverable. -/
def due (key : Option String) (f : Failure) : List (Option String × Failure) :=
  if f.isRecoverable then [(key, f)] else []

/-- What a step's answer gives the handler, about a key. -/
def owedOf {α : Type} (key : Option String) : Except Failure α → List (Option String × Failure)
  | .ok _ => []
  | .error f => due key f

/-- What the failures of a batch give the handler: each with its key, up to the first that is
not recoverable. -/
def batchDue : List (String × Failure) → List (Option String × Failure)
  | [] => []
  | (k, f) :: rest => if f.isRecoverable then (some k, f) :: batchDue rest else []

/-- What a batch load's answer gives the handler: a failure of the whole batch, about no key, or
the batch's failures. -/
def loadAllDue : Except Failure Batch → List (Option String × Failure)
  | .ok b => batchDue b.failures
  | .error f => due none f

/-- What a call made in a data operation gives the handler of the cache that made it. -/
def owed : Sighting → List (Option String × Failure)
  | .store _ (.get k r) => owedOf (some k) r
  | .store _ (.put k _ r) => owedOf (some k) r
  | .store _ (.remove k r) => owedOf (some k) r
  | .store _ (.removeAll r) => owedOf none r
  | .loader _ (.load k _ r) => owedOf (some k) r
  | .loader _ (.loadAll _ _ r) => loadAllDue r
  | .listener _ (.notify _ ev r) => owedOf ev.key? r
  | _ => []

/-- A report the handler received, with the settings and the key it came with. -/
def report? : Sighting → Option (Settings × Option String × Failure)
  | .handled s k f => some (s, k, f)
  | _ => none

/-- The reports in a log, oldest first. -/
def reports (log : List Sighting) : List (Settings × Option String × Failure) :=
  log.filterMap report?

/-- Failures with their keys, as the handler of a cache with settings `s` receives them. -/
def stamp (s : Settings) (l : List (Option String × Failure)) :
    List (Settings × Option String × Failure) :=
  l.map fun p => (s, p.1, p.2)

/-- What the calls in a log give the handler of a cache with settings `s`. -/
def dues (s : Settings) (log : List Sighting) : List (Settings × Option String × Failure) :=
  stamp s (log.flatMap owed)

/-- Where a sighting stands in the order failures reach the handler. -/
def arrival : Sighting → Arrival
  | .handled .. => .report
  | .listener _ (.notify _ ev _) => if ev.dropped then .relayed else .call
  | .store .. => .store
  | _ => .call

/-- What the calls of a log give the handler, in the order it receives it. The failure of a store
call waits, as `held`, while the listeners are told of the entries the store dropped. -/
def arrivals (held : List (Option String × Failure)) :
    List Sighting → List (Option String × Failure)
  | [] => held
  | s :: rest =>
    match s.arrival with
    | .report => arrivals held rest
    | .relayed => s.owed ++ arrivals held rest
    | .store => held ++ arrivals s.owed rest
    | .call => held ++ s.owed ++ arrivals [] rest

/-- A log whose first call, past its reports, is no relay: what waited before it is then due. -/
def Flushes : List Sighting → Prop
  | [] => True
  | s :: rest =>
    match s.arrival with
    | .report => Flushes rest
    | .relayed => False
    | .store | .call => True

/-- A log of relays and reports. -/
def Relays (l : List Sighting) : Prop :=
  ∀ s ∈ l, s.arrival = .report ∨ s.arrival = .relayed

@[simp] theorem reports_nil : reports [] = [] := rfl

@[simp] theorem reports_append (l₁ l₂ : List Sighting) :
    reports (l₁ ++ l₂) = reports l₁ ++ reports l₂ :=
  List.filterMap_append

@[simp] theorem stamp_nil (s : Settings) : stamp s [] = [] := rfl

@[simp] theorem stamp_append (s : Settings) (l₁ l₂ : List (Option String × Failure)) :
    stamp s (l₁ ++ l₂) = stamp s l₁ ++ stamp s l₂ :=
  List.map_append

@[simp] theorem dues_nil (s : Settings) : dues s [] = [] := rfl

@[simp] theorem dues_append (s : Settings) (l₁ l₂ : List Sighting) :
    dues s (l₁ ++ l₂) = dues s l₁ ++ dues s l₂ := by
  simp [dues]

@[simp] theorem arrival_handled (st : Settings) (key : Option String) (f : Failure) :
    (handled st key f).arrival = .report := rfl

@[simp] theorem arrivals_nil (held : List (Option String × Failure)) :
    arrivals held [] = held := rfl

/-- A report owes nothing. -/
theorem owed_of_report {s : Sighting} (h : s.arrival = .report) : s.owed = [] := by
  rcases s with _ | _ | ⟨_, _ | _⟩ | _ | _ | _ <;> simp only [arrival] at h
  case listener.notify => split at h <;> cases h
  all_goals first | rfl | cases h

/-- Only a report is one. -/
theorem report?_eq_none {s : Sighting} (h : s.arrival ≠ .report) : s.report? = none := by
  cases s <;> simp_all [arrival, report?]

/-- A call makes no report. -/
theorem reports_cons_call {s : Sighting} (h : s.arrival ≠ .report) (l : List Sighting) :
    reports (s :: l) = reports l := by
  simp [reports, report?_eq_none h]

/-- One call gives the handler what it owes. -/
theorem arrivals_singleton (s : Sighting) : arrivals [] [s] = s.owed := by
  cases h : s.arrival <;> simp [arrivals, h]
  exact owed_of_report h

/-- Relays and reports give the handler what they owe as they come; what waited comes last. -/
theorem arrivals_relays (held : List (Option String × Failure)) :
    ∀ {l : List Sighting}, Relays l → arrivals held l = l.flatMap owed ++ held
  | [], _ => rfl
  | s :: rest, hl => by
    have ih := arrivals_relays held fun t ht => hl t (List.mem_cons_of_mem s ht)
    rcases hl s List.mem_cons_self with h | h
    · simp [arrivals, h, ih, owed_of_report h]
    · simp [arrivals, h, ih]

/-- A store call and then relays: the handler receives the relays' failures first. -/
theorem arrivals_store_relays {s : Sighting} {l : List Sighting} (hs : s.arrival = .store)
    (hl : Relays l) : arrivals [] (s :: l) = l.flatMap owed ++ s.owed := by
  simp [arrivals, hs, arrivals_relays s.owed hl]

/-- A log that flushes gives the handler what waited before it first. -/
theorem arrivals_flush (held : List (Option String × Failure)) :
    ∀ {l : List Sighting}, Flushes l → arrivals held l = held ++ arrivals [] l
  | [], _ => by simp
  | s :: rest, hl => by
    cases h : s.arrival <;> simp only [Flushes, h] at hl <;> simp [arrivals, h]
    exact arrivals_flush held hl

theorem arrivals_append (held : List (Option String × Failure)) (l₁ : List Sighting)
    {l₂ : List Sighting} (h₂ : Flushes l₂) :
    arrivals held (l₁ ++ l₂) = arrivals held l₁ ++ arrivals [] l₂ := by
  induction l₁ generalizing held with
  | nil => exact arrivals_flush held h₂
  | cons s rest ih => cases h : s.arrival <;> simp [arrivals, h, ih]

theorem Flushes.append : ∀ {l₁ l₂ : List Sighting}, Flushes l₁ → Flushes l₂ → Flushes (l₁ ++ l₂)
  | [], _, _, h₂ => h₂
  | s :: rest, _, h₁, h₂ => by
    cases h : s.arrival <;> simp only [Flushes, h, List.cons_append] at h₁ ⊢
    exact h₁.append h₂

theorem Relays.append {l₁ l₂ : List Sighting} (h₁ : Relays l₁) (h₂ : Relays l₂) :
    Relays (l₁ ++ l₂) :=
  fun s hs => (List.mem_append.1 hs).elim (h₁ s) (h₂ s)

open List in
/-- The handler receives what the calls of a log owe, each once. -/
theorem arrivals_perm (held : List (Option String × Failure)) (l : List Sighting) :
    (arrivals held l).Perm (l.flatMap owed ++ held) := by
  induction l generalizing held with
  | nil => simp
  | cons s rest ih =>
    cases h : s.arrival
    case report => simpa [arrivals, h, owed_of_report h] using ih held
    case relayed => simpa [arrivals, h] using (ih held).append_left s.owed
    case store =>
      -- the store call's failure, held through the rest, comes last
      simp only [arrivals, h, List.flatMap_cons]
      calc held ++ arrivals s.owed rest
          _ ~ held ++ (rest.flatMap owed ++ s.owed) := (ih s.owed).append_left held
          _ ~ (rest.flatMap owed ++ s.owed) ++ held := List.perm_append_comm
          _ ~ (s.owed ++ rest.flatMap owed) ++ held := List.perm_append_comm.append_right held
    case call =>
      have hr : (arrivals [] rest).Perm (rest.flatMap owed) := by simpa using ih []
      simp only [arrivals, h, List.flatMap_cons]
      calc held ++ s.owed ++ arrivals [] rest
          _ ~ held ++ s.owed ++ rest.flatMap owed := hr.append_left _
          _ = held ++ (s.owed ++ rest.flatMap owed) := List.append_assoc _ _ _
          _ ~ (s.owed ++ rest.flatMap owed) ++ held := List.perm_append_comm

end Sighting

open Sighting

/-- The parts of a data operation: its own steps, and the relay of what its store dropped, which
only tells listeners of dropped entries. -/
inductive Mode where
  | op
  | relay

namespace Mode

/-- The logs a part leaves. -/
def Fits : Mode → List Sighting → Prop
  | .op, l => Flushes l
  | .relay, l => Relays l

/-- The calls a part makes. -/
def calls : Mode → Arrival → Bool
  | .op, .store | .op, .call | .relay, .relayed => true
  | _, _ => false

theorem fits_nil : ∀ m : Mode, m.Fits []
  | .op => trivial
  | .relay => fun _ h => nomatch h

theorem Fits.append : ∀ {m : Mode} {l₁ l₂ : List Sighting}, m.Fits l₁ → m.Fits l₂ →
    m.Fits (l₁ ++ l₂)
  | .op, _, _, h₁, h₂ => Flushes.append h₁ h₂
  | .relay, _, _, h₁, h₂ => Relays.append h₁ h₂

theorem fits_report (m : Mode) (st : Settings) (key : Option String) (f : Failure) :
    m.Fits [.handled st key f] := by
  cases m
  · exact trivial
  · intro s hs
    rw [List.mem_singleton.1 hs]
    exact .inl rfl

theorem fits_call {m : Mode} {s : Sighting} (h : m.calls s.arrival = true) : m.Fits [s] := by
  cases m <;> cases ha : s.arrival <;> simp_all [Fits, calls, Flushes, Relays]

theorem arrival_ne_report {m : Mode} {k : Arrival} (h : m.calls k = true) : k ≠ .report := by
  rintro rfl
  cases m <;> cases h

/-- Within a part, the handler receives the failures of a log's two halves one after the other. -/
theorem arrivals_append {m : Mode} {l₁ l₂ : List Sighting} (h₁ : m.Fits l₁) (h₂ : m.Fits l₂) :
    arrivals [] (l₁ ++ l₂) = arrivals [] l₁ ++ arrivals [] l₂ := by
  cases m
  · exact Sighting.arrivals_append [] l₁ h₂
  · rw [arrivals_relays [] (Relays.append h₁ h₂), arrivals_relays [] h₁, arrivals_relays [] h₂]
    simp

end Mode

end NamedCaches
