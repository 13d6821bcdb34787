import NamedCaches.Proofs.Watch.Lifecycle
set_option autoImplicit false
/-!
# Ledgers of loaders and stores

A run that builds caches makes loaders and opens stores; what it owes each of them is read off
the log of sightings, tag by tag (`Ledger`):

* a loader template that a factory made received exactly a clone request and a disposal;
* a usable cache the run keeps is alive, over a store opened for it that was never called, and
  with its loader, if any, a clone that received its `init` and nothing else (`Usable`);
* every other clone was disposed exactly once, and every other store was cleared exactly once;
* no two kept caches share a loader or a store.

Tags are handed out in increasing order, so two runs one after the other mention disjoint tags:
everything the first mentions is below the next fresh tag (`Below`) and everything the second
mentions is at or above it (`From`). Their ledgers then join (`Ledger.append`). Disposing a kept
cache moves it from the kept ones to the released ones (`Ledger.retire`).
-/

namespace NamedCaches

/-- Whether a store call clears the store. -/
def StoreCall.isClear : StoreCall → Bool
  | .removeAll _ => true
  | _ => false

namespace Sighting

/-- The loader and store tags a sighting mentions: the collaborator that was made or called,
and the clone a loader made. -/
def tags : Sighting → List Nat
  | .made t => [t]
  | .loader t (.cloneFor _ (.ok t')) => [t, t']
  | .loader t _ => [t]
  | .opened t _ => [t]
  | .store t _ => [t]
  | .listener .. => []
  | .handled .. => []

/-- The tag of the clone a sighting saw made, if it saw one. -/
def cloneMade? : Sighting → Option Nat
  | .loader _ (.cloneFor _ (.ok t)) => some t
  | _ => none

/-- The tags of the clones made, oldest first. -/
def clones (log : List Sighting) : List Nat := log.filterMap cloneMade?

/-- How many times the loader tagged `t` was disposed. -/
def disposals (t : Nat) (log : List Sighting) : Nat :=
  ((loaderCalls t log).map LoaderCall.kind).count .dispose

/-- How many times the store tagged `t` was cleared. -/
def clears (t : Nat) (log : List Sighting) : Nat := (storeCalls t log).countP StoreCall.isClear

@[simp] theorem clones_append (l₁ l₂ : List Sighting) :
    clones (l₁ ++ l₂) = clones l₁ ++ clones l₂ :=
  List.filterMap_append

theorem clones_cons (s : Sighting) (l : List Sighting) :
    clones (s :: l) = (cloneMade? s).toList ++ clones l := by
  unfold clones
  cases h : cloneMade? s <;> simp [h]

@[simp] theorem disposals_append (t : Nat) (l₁ l₂ : List Sighting) :
    disposals t (l₁ ++ l₂) = disposals t l₁ + disposals t l₂ := by
  simp [disposals, List.count_append]

@[simp] theorem clears_append (t : Nat) (l₁ l₂ : List Sighting) :
    clears t (l₁ ++ l₂) = clears t l₁ + clears t l₂ := by
  simp [clears, List.countP_append]

theorem disposals_of_loaderCalls {t : Nat} {log : List Sighting} (h : loaderCalls t log = []) :
    disposals t log = 0 := by
  simp [disposals, h]

theorem clears_of_storeCalls {t : Nat} {log : List Sighting} (h : storeCalls t log = []) :
    clears t log = 0 := by
  simp [clears, h]

/-! ## Which tags a log mentions -/

theorem mem_tags_of_loaderCall? {t : Nat} {s : Sighting} {c : LoaderCall}
    (h : loaderCall? t s = some c) : t ∈ s.tags := by
  rcases s with _ | ⟨t', c'⟩ | _ | _ | _ | _ <;> simp only [loaderCall?, reduceCtorEq] at h
  split at h
  · subst t'
    rcases c' with _ | _ | _ | _ | ⟨_, _ | _⟩ <;> simp [tags]
  · cases h

theorem mem_tags_of_storeCall? {t : Nat} {s : Sighting} {c : StoreCall}
    (h : storeCall? t s = some c) : t ∈ s.tags := by
  rcases s with _ | _ | _ | _ | ⟨t', c'⟩ | _ <;> simp only [storeCall?, reduceCtorEq] at h
  split at h
  · subst t'
    simp [tags]
  · cases h

theorem mem_tags_of_cloneMade? {t : Nat} {s : Sighting} (h : cloneMade? s = some t) :
    t ∈ s.tags := by
  rcases s with _ | ⟨p, _ | _ | _ | _ | ⟨_, _ | t'⟩⟩ | _ | _ | _ | _ <;>
    simp only [cloneMade?, reduceCtorEq, Option.some.injEq] at h
  subst h
  simp [tags]

/-- A loader no sighting mentions received no call. -/
theorem loaderCalls_eq_nil {t : Nat} {log : List Sighting} (h : ∀ s ∈ log, t ∉ s.tags) :
    loaderCalls t log = [] :=
  List.filterMap_eq_nil_iff.2 fun s hs => Option.eq_none_iff_forall_ne_some.2 fun _ hc =>
    h s hs (mem_tags_of_loaderCall? hc)

/-- A store no sighting mentions received no call. -/
theorem storeCalls_eq_nil {t : Nat} {log : List Sighting} (h : ∀ s ∈ log, t ∉ s.tags) :
    storeCalls t log = [] :=
  List.filterMap_eq_nil_iff.2 fun s hs => Option.eq_none_iff_forall_ne_some.2 fun _ hc =>
    h s hs (mem_tags_of_storeCall? hc)

/-- A loader that received a call is mentioned by the log. -/
theorem exists_tags_of_loaderCalls {t : Nat} {log : List Sighting} (h : loaderCalls t log ≠ []) :
    ∃ s ∈ log, t ∈ s.tags := by
  obtain ⟨c, hc⟩ := List.exists_mem_of_ne_nil _ h
  obtain ⟨s, hs, hsc⟩ := List.mem_filterMap.1 hc
  exact ⟨s, hs, mem_tags_of_loaderCall? hsc⟩

/-- Every loader or store tag the log mentions is below `n`. -/
def Below (n : Nat) (log : List Sighting) : Prop := ∀ s ∈ log, ∀ t ∈ s.tags, t < n

/-- Every loader or store tag the log mentions is at least `n`. -/
def From (n : Nat) (log : List Sighting) : Prop := ∀ s ∈ log, ∀ t ∈ s.tags, n ≤ t

section
variable {n t : Nat} {log : List Sighting}

theorem Below.loaderCalls_of_le (h : Below n log) (ht : n ≤ t) : loaderCalls t log = [] :=
  loaderCalls_eq_nil fun s hs hm => absurd (h s hs t hm) (by omega)

theorem Below.storeCalls_of_le (h : Below n log) (ht : n ≤ t) : storeCalls t log = [] :=
  storeCalls_eq_nil fun s hs hm => absurd (h s hs t hm) (by omega)

theorem From.loaderCalls_of_lt (h : From n log) (ht : t < n) : loaderCalls t log = [] :=
  loaderCalls_eq_nil fun s hs hm => absurd (h s hs t hm) (by omega)

theorem From.storeCalls_of_lt (h : From n log) (ht : t < n) : storeCalls t log = [] :=
  storeCalls_eq_nil fun s hs hm => absurd (h s hs t hm) (by omega)

theorem Below.lt_of_mem {s : Sighting} (h : Below n log) (hs : s ∈ log) (ht : t ∈ s.tags) :
    t < n :=
  h s hs t ht

theorem From.le_of_mem {s : Sighting} (h : From n log) (hs : s ∈ log) (ht : t ∈ s.tags) :
    n ≤ t :=
  h s hs t ht

theorem Below.lt_of_clone (h : Below n log) (ht : t ∈ clones log) : t < n := by
  obtain ⟨s, hs, hc⟩ := List.mem_filterMap.1 ht
  exact h s hs t (mem_tags_of_cloneMade? hc)

theorem From.le_of_clone (h : From n log) (ht : t ∈ clones log) : n ≤ t := by
  obtain ⟨s, hs, hc⟩ := List.mem_filterMap.1 ht
  exact h s hs t (mem_tags_of_cloneMade? hc)

theorem Below.lt_of_loaderCalls (h : Below n log) (hc : loaderCalls t log ≠ []) : t < n := by
  obtain ⟨s, hs, ht⟩ := exists_tags_of_loaderCalls hc
  exact h s hs t ht

theorem From.le_of_loaderCalls (h : From n log) (hc : loaderCalls t log ≠ []) : n ≤ t := by
  obtain ⟨s, hs, ht⟩ := exists_tags_of_loaderCalls hc
  exact h s hs t ht

@[simp] theorem below_append {l₁ l₂ : List Sighting} :
    Below n (l₁ ++ l₂) ↔ Below n l₁ ∧ Below n l₂ :=
  List.forall_mem_append

@[simp] theorem from_append {l₁ l₂ : List Sighting} :
    From n (l₁ ++ l₂) ↔ From n l₁ ∧ From n l₂ :=
  List.forall_mem_append

theorem below_cons {s : Sighting} :
    Below n (s :: log) ↔ (∀ t ∈ s.tags, t < n) ∧ Below n log :=
  List.forall_mem_cons

theorem from_cons {s : Sighting} :
    From n (s :: log) ↔ (∀ t ∈ s.tags, n ≤ t) ∧ From n log :=
  List.forall_mem_cons

theorem Below.mono {m : Nat} (h : Below n log) (hm : n ≤ m) : Below m log :=
  fun s hs t ht => by have := h s hs t ht; omega

end

end Sighting

open Sighting

/-! ## Kept caches -/

section
variable {L E H S : Type}

/-- The tags of the loaders the caches hold. -/
def loaderTags (held : List (String × Cache (Tagged L) E H (Tagged S))) : List Nat :=
  held.filterMap fun p => p.2.binding.map fun b => b.loader.tag

/-- The tags of the caches' stores. -/
def storeTags (held : List (String × Cache (Tagged L) E H (Tagged S))) : List Nat :=
  held.map fun p => p.2.store.tag

@[simp] theorem loaderTags_nil : loaderTags ([] : List (String × Cache (Tagged L) E H (Tagged S))) = [] :=
  rfl

@[simp] theorem loaderTags_append (h₁ h₂ : List (String × Cache (Tagged L) E H (Tagged S))) :
    loaderTags (h₁ ++ h₂) = loaderTags h₁ ++ loaderTags h₂ :=
  List.filterMap_append

@[simp] theorem storeTags_append (h₁ h₂ : List (String × Cache (Tagged L) E H (Tagged S))) :
    storeTags (h₁ ++ h₂) = storeTags h₁ ++ storeTags h₂ :=
  List.map_append

theorem loaderTags_cons (p : String × Cache (Tagged L) E H (Tagged S))
    (held : List (String × Cache (Tagged L) E H (Tagged S))) :
    loaderTags (p :: held) = (p.2.binding.map fun b => b.loader.tag).toList ++ loaderTags held := by
  obtain ⟨m, c⟩ := p
  cases hb : c.binding <;> simp [loaderTags, hb]

theorem mem_loaderTags {held : List (String × Cache (Tagged L) E H (Tagged S))} {t : Nat} :
    t ∈ loaderTags held ↔ ∃ p ∈ held, ∃ b ∈ p.2.binding, b.loader.tag = t := by
  simp [loaderTags, List.mem_filterMap, Option.map_eq_some_iff]

theorem mem_storeTags {held : List (String × Cache (Tagged L) E H (Tagged S))} {t : Nat} :
    t ∈ storeTags held ↔ ∃ p ∈ held, p.2.store.tag = t := by
  simp [storeTags]

/-- A usable cache as the log shows it: alive, over a store opened for it under its name and
never called, and with its loader, if any, a clone made in the log that was initialised and
received nothing else. -/
structure Usable (log : List Sighting) (p : String × Cache (Tagged L) E H (Tagged S)) : Prop where
  alive : p.2.status = .alive
  opened : .opened p.2.store.tag p.1 ∈ log
  untouched : storeCalls p.2.store.tag log = []
  ready : ∀ b ∈ p.2.binding, b.state = .initialized ∧ b.loader.tag ∈ clones log ∧
    (loaderCalls b.loader.tag log).map LoaderCall.kind = [.init]

/-- What a log owes the loaders and stores it mentions, with the caches kept usable. -/
structure Ledger (log : List Sighting) (held : List (String × Cache (Tagged L) E H (Tagged S))) :
    Prop where
  /-- A template was asked for a clone, then disposed, and received nothing else. -/
  templates : ∀ t, .made t ∈ log → (loaderCalls t log).map LoaderCall.kind = [.clone, .dispose]
  usable : ∀ p ∈ held, Usable log p
  /-- A clone no kept cache holds was disposed exactly once. -/
  released : ∀ t ∈ clones log, t ∉ loaderTags held → disposals t log = 1
  /-- A store no kept cache holds was cleared exactly once. -/
  cleared : ∀ t n, .opened t n ∈ log → t ∉ storeTags held → clears t log = 1
  loaders_nodup : (loaderTags held).Nodup
  stores_nodup : (storeTags held).Nodup

/-! ## Where the tags of a kept cache lie -/

namespace Usable

variable {log : List Sighting} {p : String × Cache (Tagged L) E H (Tagged S)} {n : Nat}

theorem loaderCalls_ne_nil (hp : Usable log p) {b : Binding (Tagged L)} (hb : b ∈ p.2.binding) :
    loaderCalls b.loader.tag log ≠ [] := by
  intro h
  have := (hp.ready b hb).2.2
  rw [h] at this
  cases this

theorem store_lt (hp : Usable log p) (h : Below n log) : p.2.store.tag < n :=
  h.lt_of_mem hp.opened (by simp [tags])

theorem le_store (hp : Usable log p) (h : From n log) : n ≤ p.2.store.tag :=
  h.le_of_mem hp.opened (by simp [tags])

theorem loader_lt (hp : Usable log p) (h : Below n log) {b : Binding (Tagged L)}
    (hb : b ∈ p.2.binding) : b.loader.tag < n :=
  h.lt_of_loaderCalls (hp.loaderCalls_ne_nil hb)

theorem le_loader (hp : Usable log p) (h : From n log) {b : Binding (Tagged L)}
    (hb : b ∈ p.2.binding) : n ≤ b.loader.tag :=
  h.le_of_loaderCalls (hp.loaderCalls_ne_nil hb)

/-- A cache stays usable when more is logged that never calls its loader or store. -/
theorem append {seg : List Sighting} (hp : Usable log p)
    (hs : storeCalls p.2.store.tag seg = [])
    (hl : ∀ b ∈ p.2.binding, loaderCalls b.loader.tag seg = []) : Usable (log ++ seg) p where
  alive := hp.alive
  opened := List.mem_append_left _ hp.opened
  untouched := by rw [storeCalls_append, hp.untouched, hs, List.nil_append]
  ready b hb := by
    obtain ⟨hi, hc, hk⟩ := hp.ready b hb
    refine ⟨hi, by simp [hc], ?_⟩
    rw [loaderCalls_append, hl b hb, List.append_nil, hk]

/-- A cache usable in a later log stays usable when an earlier log that never calls its loader
or store comes first. -/
theorem prepend {seg : List Sighting} (hp : Usable seg p)
    (hs : storeCalls p.2.store.tag log = [])
    (hl : ∀ b ∈ p.2.binding, loaderCalls b.loader.tag log = []) : Usable (log ++ seg) p where
  alive := hp.alive
  opened := List.mem_append_right _ hp.opened
  untouched := by rw [storeCalls_append, hp.untouched, hs, List.nil_append]
  ready b hb := by
    obtain ⟨hi, hc, hk⟩ := hp.ready b hb
    refine ⟨hi, by simp [hc], ?_⟩
    rw [loaderCalls_append, hl b hb, List.nil_append, hk]

end Usable

namespace Ledger

variable {log seg : List Sighting} {held new : List (String × Cache (Tagged L) E H (Tagged S))}
  {n : Nat}

theorem nil : Ledger ([] : List Sighting) ([] : List (String × Cache (Tagged L) E H (Tagged S))) where
  templates _ h := by cases h
  usable _ h := by cases h
  released _ h := by cases h
  cleared _ _ h := by cases h
  loaders_nodup := List.nodup_nil
  stores_nodup := List.nodup_nil

theorem loaderTags_lt (h : Ledger log held) (hb : Below n log) : ∀ t ∈ loaderTags held, t < n := by
  intro t ht
  obtain ⟨p, hp, b, hb', rfl⟩ := mem_loaderTags.1 ht
  exact (h.usable p hp).loader_lt hb hb'

theorem storeTags_lt (h : Ledger log held) (hb : Below n log) : ∀ t ∈ storeTags held, t < n := by
  intro t ht
  obtain ⟨p, hp, rfl⟩ := mem_storeTags.1 ht
  exact (h.usable p hp).store_lt hb

theorem le_loaderTags (h : Ledger seg new) (ha : From n seg) : ∀ t ∈ loaderTags new, n ≤ t := by
  intro t ht
  obtain ⟨p, hp, b, hb', rfl⟩ := mem_loaderTags.1 ht
  exact (h.usable p hp).le_loader ha hb'

theorem le_storeTags (h : Ledger seg new) (ha : From n seg) : ∀ t ∈ storeTags new, n ≤ t := by
  intro t ht
  obtain ⟨p, hp, rfl⟩ := mem_storeTags.1 ht
  exact (h.usable p hp).le_store ha

/-- The ledgers of two logs over disjoint tags join: the first mentions only tags below `n`,
the second only tags from `n` on, so neither touches what the other owes. -/
theorem append (h₁ : Ledger log held) (hb : Below n log) (h₂ : Ledger seg new)
    (ha : From n seg) : Ledger (log ++ seg) (new ++ held) where
  templates t hm := by
    rw [loaderCalls_append]
    rcases List.mem_append.1 hm with hm | hm
    · have ht : t < n := hb.lt_of_mem hm (by simp [tags])
      rw [ha.loaderCalls_of_lt ht, List.append_nil]
      exact h₁.templates t hm
    · have ht : n ≤ t := ha.le_of_mem hm (by simp [tags])
      rw [hb.loaderCalls_of_le ht, List.nil_append]
      exact h₂.templates t hm
  usable p hp := by
    rcases List.mem_append.1 hp with hp | hp
    · -- a new cache's tags are all from `n` on, which the earlier log never mentions
      have hu := h₂.usable p hp
      exact hu.prepend (hb.storeCalls_of_le (hu.le_store ha))
        fun b hb' => hb.loaderCalls_of_le (hu.le_loader ha hb')
    · have hu := h₁.usable p hp
      exact hu.append (ha.storeCalls_of_lt (hu.store_lt hb))
        fun b hb' => ha.loaderCalls_of_lt (hu.loader_lt hb hb')
  released t ht hk := by
    rw [loaderTags_append, List.mem_append, not_or] at hk
    rw [clones_append] at ht
    rw [disposals_append]
    rcases List.mem_append.1 ht with ht | ht
    · rw [disposals_of_loaderCalls (ha.loaderCalls_of_lt (hb.lt_of_clone ht)),
        h₁.released t ht hk.2]
    · rw [disposals_of_loaderCalls (hb.loaderCalls_of_le (ha.le_of_clone ht)),
        h₂.released t ht hk.1]
  cleared t m hm hk := by
    rw [storeTags_append, List.mem_append, not_or] at hk
    rw [clears_append]
    rcases List.mem_append.1 hm with hm | hm
    · have ht : t < n := hb.lt_of_mem hm (by simp [tags])
      rw [clears_of_storeCalls (ha.storeCalls_of_lt ht), h₁.cleared t m hm hk.2]
    · have ht : n ≤ t := ha.le_of_mem hm (by simp [tags])
      rw [clears_of_storeCalls (hb.storeCalls_of_le ht), h₂.cleared t m hm hk.1]
  loaders_nodup := by
    rw [loaderTags_append, List.nodup_append]
    refine ⟨h₂.loaders_nodup, h₁.loaders_nodup, fun a ha' b hb' => ?_⟩
    have := h₂.le_loaderTags ha a ha'
    have := h₁.loaderTags_lt hb b hb'
    omega
  stores_nodup := by
    rw [storeTags_append, List.nodup_append]
    refine ⟨h₂.stores_nodup, h₁.stores_nodup, fun a ha' b hb' => ?_⟩
    have := h₂.le_storeTags ha a ha'
    have := h₁.storeTags_lt hb b hb'
    omega

/-- Which caches are kept is a matter of membership, not of order. -/
theorem perm {held' : List (String × Cache (Tagged L) E H (Tagged S))} (h : Ledger log held)
    (hp : held'.Perm held) : Ledger log held' where
  templates := h.templates
  usable p hm := h.usable p (hp.mem_iff.1 hm)
  released t ht hk := h.released t ht fun hm =>
    hk ((hp.filterMap _).mem_iff.2 hm)
  cleared t m hm hk := h.cleared t m hm fun hs =>
    hk ((hp.map _).mem_iff.2 hs)
  loaders_nodup := (hp.filterMap _).nodup_iff.2 h.loaders_nodup
  stores_nodup := (hp.map _).nodup_iff.2 h.stores_nodup

end Ledger

end

/-! ## Disposing a kept cache -/

section
variable {L E H S : Type}

theorem loaderCalls_dismissing (t : Nat) (ls : List (Tagged E)) :
    loaderCalls t (dismissing ls) = [] :=
  List.filterMap_eq_nil_iff.2 fun s hs => by
    obtain ⟨l, -, rfl⟩ := List.mem_map.1 hs
    rfl

theorem storeCalls_dismissing (t : Nat) (ls : List (Tagged E)) :
    storeCalls t (dismissing ls) = [] :=
  List.filterMap_eq_nil_iff.2 fun s hs => by
    obtain ⟨l, -, rfl⟩ := List.mem_map.1 hs
    rfl

theorem clones_dismissing (ls : List (Tagged E)) : clones (dismissing ls) = [] :=
  List.filterMap_eq_nil_iff.2 fun s hs => by
    obtain ⟨l, -, rfl⟩ := List.mem_map.1 hs
    rfl

/-- What disposing a cache shows: its loader disposed, its listeners dismissed in order, its
store cleared. -/
def Sighting.teardown (c : Cache (Tagged L) (Tagged E) H (Tagged S)) (r : Except Failure Unit) :
    List Sighting :=
  retiring c.binding ++ dismissing c.listeners ++ [.store c.store.tag (.removeAll r)]

variable {c : Cache (Tagged L) (Tagged E) H (Tagged S)} {r : Except Failure Unit}

theorem loaderCalls_teardown_of_ne {t : Nat} (h : ∀ b ∈ c.binding, b.loader.tag ≠ t) :
    loaderCalls t (teardown c r) = [] := by
  unfold teardown retiring
  cases hb : c.binding with
  | none => simp [loaderCall?, loaderCalls_dismissing]
  | some b => simp [loaderCall?, h b hb, loaderCalls_dismissing]

theorem loaderCalls_teardown_of_eq {b : Binding (Tagged L)} (h : c.binding = some b) :
    loaderCalls b.loader.tag (teardown c r) = [.dispose] := by
  simp [teardown, retiring, h, loaderCall?, loaderCalls_dismissing]

theorem storeCalls_teardown (t : Nat) :
    storeCalls t (teardown c r) = if c.store.tag = t then [.removeAll r] else [] := by
  unfold teardown retiring
  by_cases h : c.store.tag = t <;> cases c.binding <;> simp [storeCall?, storeCalls_dismissing, h]

theorem clones_teardown : clones (teardown c r) = [] := by
  unfold teardown retiring
  rw [clones_append, clones_append, clones_dismissing]
  cases c.binding <;> rfl

theorem made_not_mem_teardown (t : Nat) : Sighting.made t ∉ teardown c r := by
  unfold teardown retiring dismissing
  cases c.binding <;> simp

theorem opened_not_mem_teardown (t : Nat) (m : String) : Sighting.opened t m ∉ teardown c r := by
  unfold teardown retiring dismissing
  cases c.binding <;> simp

namespace Ledger

variable {log : List Sighting} {held : List (String × Cache (Tagged L) (Tagged E) H (Tagged S))}
  {m : String}

/-- Disposing a kept cache releases it: its loader is then disposed once and its store cleared
once, and the others stay kept. -/
theorem retire (h : Ledger log ((m, c) :: held)) : Ledger (log ++ teardown c r) held := by
  have hu := h.usable (m, c) List.mem_cons_self
  have hlt := h.loaders_nodup
  have hst := h.stores_nodup
  rw [loaderTags_cons, List.nodup_append] at hlt
  rw [storeTags, List.map_cons, List.nodup_cons] at hst
  -- the retired cache's loader is none of the others', and no template
  have hother : ∀ t ∈ loaderTags held, ∀ b ∈ c.binding, b.loader.tag ≠ t := fun t ht b hb =>
    hlt.2.2 b.loader.tag (by rw [Option.mem_def] at hb; simp [hb]) t ht
  have htemplate : ∀ t, .made t ∈ log → ∀ b ∈ c.binding, b.loader.tag ≠ t := by
    intro t hm b hb he
    have hk := h.templates t hm
    rw [← he, (hu.ready b hb).2.2] at hk
    cases hk
  refine ⟨fun t hm => ?_, fun p hp => ?_, fun t ht hk => ?_, fun t n hm hk => ?_, hlt.2.1, hst.2⟩
  · -- templates
    have hm' : .made t ∈ log := by
      simpa [made_not_mem_teardown] using hm
    rw [loaderCalls_append, loaderCalls_teardown_of_ne (htemplate t hm'), List.append_nil]
    exact h.templates t hm'
  · -- the other kept caches share neither loader nor store with the retired one
    have hp' := h.usable p (List.mem_cons_of_mem _ hp)
    refine hp'.append ?_ fun b hb => loaderCalls_teardown_of_ne fun b' hb' =>
      hother _ (mem_loaderTags.2 ⟨p, hp, b, hb, rfl⟩) b' hb'
    rw [storeCalls_teardown, if_neg]
    intro he
    exact hst.1 (he ▸ List.mem_map_of_mem hp)
  · rw [clones_append, clones_teardown, List.append_nil] at ht
    rw [disposals_append]
    cases hb : c.binding with
    | some b =>
      by_cases hbt : b.loader.tag = t
      · -- the retired cache's loader: never disposed before, disposed now
        subst hbt
        have hk := (hu.ready b hb).2.2
        have h0 : disposals b.loader.tag log = 0 := by
          simp [disposals, hk]
        have h1 : disposals b.loader.tag (teardown c r) = 1 := by
          simp [disposals, loaderCalls_teardown_of_eq hb, LoaderCall.kind]
        rw [h0, h1]
      · have hk' : t ∉ loaderTags ((m, c) :: held) := by
          rw [loaderTags_cons, hb]
          simp [Ne.symm hbt, hk]
        rw [h.released t ht hk', disposals_of_loaderCalls (loaderCalls_teardown_of_ne ?_)]
        intro b' hb' he
        rw [hb, Option.mem_def, Option.some.injEq] at hb'
        exact hbt (hb' ▸ he)
    | none =>
      have hk' : t ∉ loaderTags ((m, c) :: held) := by
        rw [loaderTags_cons, hb]
        simpa using hk
      rw [h.released t ht hk', disposals_of_loaderCalls (loaderCalls_teardown_of_ne ?_)]
      intro b' hb'
      rw [hb] at hb'
      cases hb'
  · have hm' : .opened t n ∈ log := by
      simpa [opened_not_mem_teardown] using hm
    rw [clears_append]
    by_cases hs : c.store.tag = t
    · -- the retired cache's store: never called before, cleared now
      subst hs
      rw [clears_of_storeCalls hu.untouched]
      simp [clears, storeCalls_teardown, StoreCall.isClear]
    · have hk' : t ∉ storeTags ((m, c) :: held) := by
        simp [storeTags, Ne.symm hs]
        simpa [storeTags] using hk
      rw [h.cleared t n hm' hk', clears_of_storeCalls (by rw [storeCalls_teardown, if_neg hs])]

end Ledger

end

end NamedCaches
