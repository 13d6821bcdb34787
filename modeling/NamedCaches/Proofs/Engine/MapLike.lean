import Mathlib.Data.Finmap
import NamedCaches.Cache.Engine
set_option autoImplicit false
/-!
# The engine as a finite map

An engine whose expiries are not fleeting and whose capacity exceeds the number of keys it ever
sees drops nothing on its own: it behaves as a finite map from keys to values (`contents`).

The policy learns of writes late, so what it holds may lag behind the map. `holdsAfter` says
what a key's place in the policy will be once the pending writes are learnt, when every new key
finds room; `MapLike K` is the invariant that with room for every key of `K` this is exactly the
keys of the map. It holds of a new engine (`create_mapLike`) and every operation on keys of `K`
keeps it, while it reads, writes and removes exactly as a finite map does (`MapLike.read_eq`,
`contents_write`, `MapLike.erase`, `contents_erase`, `contents_clear`, `settle_held_length`).
-/

namespace NamedCaches.Engine

/-! ## Learning of writes with room -/

/-- Whether the policy holds key `k` after learning of some pending writes, as long as every new
key finds room: a write of the key's current entry (number `serial`) makes it held, a removal of
the key lets it go, and writes of other keys or of entries gone since change nothing. -/
def holdsAfter (k : String) (serial : Option Nat) : Bool → List Pending → Bool
  | h, [] => h
  | h, .upsert k' n :: rest => holdsAfter k serial (h || (k' = k && serial = some n)) rest
  | h, .remove k' :: rest => holdsAfter k serial (h && k' ≠ k) rest

@[simp] theorem holdsAfter_nil (k : String) (serial : Option Nat) (h : Bool) :
    holdsAfter k serial h [] = h := rfl

theorem holdsAfter_append (k : String) (serial : Option Nat) :
    ∀ (h : Bool) (ws ws' : List Pending),
      holdsAfter k serial h (ws ++ ws') = holdsAfter k serial (holdsAfter k serial h ws) ws'
  | _, [], _ => rfl
  | _, .upsert _ _ :: rest, ws' => holdsAfter_append k serial _ rest ws'
  | _, .remove _ :: rest, ws' => holdsAfter_append k serial _ rest ws'

/-- The number of the entry a key has in the map. -/
def serialOf (e : Engine) (k : String) : Option Nat := (e.slot? k).map Slot.serial

@[simp] theorem serialOf_with_held (e : Engine) (H : List String) (k : String) :
    ({ e with held := H } : Engine).serialOf k = e.serialOf k := rfl

/-- The policy has room for every key of `K`: its line holds no key twice and only keys of `K`,
of which there are fewer than the capacity; the pending writes are of keys of `K`; and nothing
expires. -/
structure Roomy (K : Finset String) (e : Engine) : Prop where
  room : K.card < e.capacity
  held_nodup : e.held.Nodup
  held_mem : ∀ k ∈ e.held, k ∈ K
  writes_mem : ∀ p ∈ e.writes, p.key ∈ K
  durable : e.fleeting = false

variable {K : Finset String} {e : Engine}

theorem Roomy.length_lt (h : Roomy K e) : e.held.length < e.capacity := by
  have hsub : e.held.toFinset ⊆ K := fun k hk => h.held_mem k (List.mem_toFinset.1 hk)
  have hcard := Finset.card_le_card hsub
  rw [List.toFinset_card_of_nodup h.held_nodup] at hcard
  exact lt_of_le_of_lt hcard h.room

theorem Roomy.with_held (h : Roomy K e) {H : List String} (hn : H.Nodup) (hm : ∀ k ∈ H, k ∈ K) :
    Roomy K { e with held := H } :=
  ⟨h.room, hn, hm, h.writes_mem, h.durable⟩

/-- With room, learning of a write of a key only adds the key to the line or moves it to the
back. -/
theorem learnUpsert_of_roomy (k : String) (n : Nat) (later : List Pending) (h : Roomy K e)
    (hk : k ∈ K) :
    ∃ H, e.learnUpsert k n later = { e with held := H } ∧ Roomy K { e with held := H } ∧
      ∀ x, x ∈ H ↔ x ∈ e.held ∨ (x = k ∧ e.serialOf k = some n) := by
  by_cases hs : e.serialOf k = some n
  · by_cases hh : k ∈ e.held
    · refine ⟨e.held.erase k ++ [k], ?_, h.with_held ?_ ?_, fun x => ?_⟩
      · unfold learnUpsert
        rw [if_neg (by simpa [serialOf] using hs), if_pos (by simpa using hh)]
        simp [refresh, hh]
      · exact (h.held_nodup.erase k).append (List.nodup_singleton k)
          (by simp [h.held_nodup.mem_erase_iff])
      · intro x hx
        simp only [List.mem_append, List.mem_singleton] at hx
        rcases hx with hx | rfl
        · exact h.held_mem x (List.mem_of_mem_erase hx)
        · exact hk
      · by_cases hx : x = k <;> simp [hx, hh, hs, h.held_nodup.mem_erase_iff]
    · -- the key is new to the line, and the room invariant says it fits
      refine ⟨e.held ++ [k], ?_, h.with_held ?_ ?_, fun x => ?_⟩
      · unfold learnUpsert
        rw [if_neg (by simpa [serialOf] using hs), if_neg (by simpa using hh),
          if_pos h.length_lt]
      · exact h.held_nodup.append (List.nodup_singleton k) (by simpa using hh)
      · intro x hx
        simp only [List.mem_append, List.mem_singleton] at hx
        rcases hx with hx | rfl
        · exact h.held_mem x hx
        · exact hk
      · simp [hs]
  · refine ⟨e.held, ?_, h, by simp [hs]⟩
    unfold learnUpsert
    rw [if_pos (by simpa [serialOf] using hs)]

/-- With room, the policy learns of writes without evicting anything: only its line changes, and
it then holds a key exactly as `holdsAfter` says. -/
theorem learnWrites_of_roomy : ∀ {e : Engine} (ws : List Pending), Roomy K e →
    (∀ p ∈ ws, p.key ∈ K) →
    ∃ H, e.learnWrites ws = { e with held := H } ∧ Roomy K { e with held := H } ∧
      ∀ x, x ∈ H ↔ holdsAfter x (e.serialOf x) (x ∈ e.held) ws = true
  | e, [], h, _ => ⟨e.held, rfl, h, by simp⟩
  | e, .upsert k n :: rest, h, hw => by
    obtain ⟨H, hH, hr, hmem⟩ := learnUpsert_of_roomy k n rest h (hw _ List.mem_cons_self)
    obtain ⟨H', hH', hr', hmem'⟩ := learnWrites_of_roomy (e := { e with held := H }) rest hr
      (fun p hp => hw p (List.mem_cons_of_mem _ hp))
    refine ⟨H', by rw [learnWrites, hH, hH'], by simpa using hr', fun x => ?_⟩
    rw [hmem', serialOf_with_held]
    simp only [holdsAfter]
    by_cases hxk : x = k
    · subst hxk; simp [hmem]
    · simp [hmem, hxk, Ne.symm hxk]
  | e, .remove k :: rest, h, hw => by
    obtain ⟨H', hH', hr', hmem'⟩ := learnWrites_of_roomy (e := { e with held := e.held.erase k })
      rest (h.with_held (h.held_nodup.erase k) fun x hx => h.held_mem x (List.mem_of_mem_erase hx))
      (fun p hp => hw p (List.mem_cons_of_mem _ hp))
    refine ⟨H', by rw [learnWrites, hH'], by simpa using hr', fun x => ?_⟩
    rw [hmem', serialOf_with_held]
    simp only [holdsAfter]
    by_cases hxk : x = k
    · subst hxk; simp [h.held_nodup.mem_erase_iff]
    · simp [h.held_nodup.mem_erase_iff, hxk, Ne.symm hxk]

/-! ## Doing the pending work -/

/-- Counting a read touches only the counts. -/
theorem countRead_eq (e : Engine) (k : String) :
    ∃ c s, e.countRead k = { e with counts := c, sampled := s } := by
  unfold countRead
  dsimp only
  split
  · exact ⟨e.counts, e.sampled, rfl⟩
  · split
    · exact ⟨_, _, rfl⟩
    · exact ⟨_, _, rfl⟩

/-- Learning of reads only reorders the line and changes the counts. -/
theorem foldl_learnRead_eq : ∀ (rs : List String) (e : Engine),
    ∃ H c s, rs.foldl learnRead e = { e with held := H, counts := c, sampled := s } ∧
      H.Perm e.held
  | [], e => ⟨e.held, e.counts, e.sampled, rfl, List.Perm.refl _⟩
  | k :: rest, e => by
    obtain ⟨c, s, hc⟩ := countRead_eq e k
    have hread : ∃ H, e.learnRead k = { e with held := H, counts := c, sampled := s } ∧
        H.Perm e.held := by
      unfold learnRead refresh
      rw [hc]
      split
      · rename_i hk
        refine ⟨_, rfl, ?_⟩
        have hk : k ∈ e.held := by simpa using hk
        exact (List.perm_append_singleton _ _).trans (List.perm_cons_erase hk).symm
      · exact ⟨e.held, rfl, List.Perm.refl _⟩
    obtain ⟨H, hH, hp⟩ := hread
    obtain ⟨H', c', s', hH', hp'⟩ := foldl_learnRead_eq rest (e.learnRead k)
    refine ⟨H', c', s', ?_, ?_⟩
    · rw [List.foldl_cons, hH', hH]
    · rw [hH] at hp'
      exact hp'.trans hp

theorem dropExpired_of_durable (h : e.fleeting = false) : e.dropExpired = e := by
  simp [dropExpired, h]

theorem startCounting_eq (e : Engine) : ∃ b, e.startCounting = { e with counting := b } := by
  unfold startCounting
  split
  · exact ⟨true, rfl⟩
  · exact ⟨e.counting, rfl⟩

/-- With room for every key of `K`, doing the pending work changes only the policy: the line
becomes what `holdsAfter` says of the pending writes, which are then gone, and the counts. -/
theorem settle_eq (h : Roomy K e) :
    ∃ H c s b, e.settle =
        { e with reads := [], writes := [], held := H, counts := c, sampled := s, counting := b } ∧
      H.Nodup ∧ (∀ k ∈ H, k ∈ K) ∧
      ∀ x, x ∈ H ↔ holdsAfter x (e.serialOf x) (x ∈ e.held) e.writes = true := by
  obtain ⟨H1, c, s, h1, hp⟩ := foldl_learnRead_eq e.reads { e with reads := [] }
  have hr1 : Roomy K { e with reads := [], held := H1, counts := c, sampled := s, writes := [] } :=
    ⟨h.room, hp.nodup_iff.2 h.held_nodup, fun k hk => h.held_mem k (hp.mem_iff.1 hk), by simp,
      h.durable⟩
  obtain ⟨H2, h2, hr2, hmem⟩ := learnWrites_of_roomy e.writes hr1 h.writes_mem
  obtain ⟨b, hb⟩ := startCounting_eq
    { e with reads := [], writes := [], held := H2, counts := c, sampled := s }
  refine ⟨H2, c, s, b, ?_, hr2.held_nodup, hr2.held_mem, fun x => ?_⟩
  · simp only [settle, h1]
    rw [h2, hb]
    exact dropExpired_of_durable h.durable
  · rw [hmem x]
    simp only [serialOf, slot?, hp.mem_iff]

theorem Roomy.settle (h : Roomy K e) : Roomy K e.settle := by
  obtain ⟨H, c, s, b, hs, hn, hm, -⟩ := settle_eq h
  rw [hs]
  exact ⟨h.room, hn, hm, by simp, h.durable⟩

@[simp] theorem settle_entries (h : Roomy K e) : e.settle.entries = e.entries := by
  obtain ⟨H, c, s, b, hs, -⟩ := settle_eq h
  rw [hs]

theorem settle_removals (h : Roomy K e) : e.settle.removals = e.removals := by
  obtain ⟨H, c, s, b, hs, -⟩ := settle_eq h
  rw [hs]

theorem settle_writes (h : Roomy K e) : e.settle.writes = [] := by
  obtain ⟨H, c, s, b, hs, -⟩ := settle_eq h
  rw [hs]

theorem mem_settle_held (h : Roomy K e) (x : String) :
    x ∈ e.settle.held ↔ holdsAfter x (e.serialOf x) (x ∈ e.held) e.writes = true := by
  obtain ⟨H, c, s, b, hs, -, -, hm⟩ := settle_eq h
  rw [hs]
  exact hm x

/-- Whether the policy holds a key once it has learnt of the pending writes. -/
def holds (e : Engine) (x : String) : Bool := holdsAfter x (e.serialOf x) (x ∈ e.held) e.writes

theorem holds_settle (h : Roomy K e) (x : String) : e.settle.holds x = e.holds x := by
  have hm := mem_settle_held h x
  simp only [holds, serialOf, slot?, settle_entries h, settle_writes h, holdsAfter_nil]
  rw [Bool.eq_iff_iff, decide_eq_true_iff]
  exact hm

/-- Recording a write keeps the room, the map and the notices, and the key's place in the policy
is then decided by the write after all the others. -/
theorem noteWrite_spec (h : Roomy K e) (p : Pending) (hp : p.key ∈ K) :
    Roomy K (e.noteWrite p) ∧ (e.noteWrite p).entries = e.entries ∧
      (e.noteWrite p).removals = e.removals ∧
      ∀ x, (e.noteWrite p).holds x = holdsAfter x (e.serialOf x) (e.holds x) [p] := by
  unfold noteWrite
  split
  · have hs := h.settle
    refine ⟨⟨hs.room, hs.held_nodup, hs.held_mem, ?_, hs.durable⟩, settle_entries h,
      settle_removals h, fun x => ?_⟩
    · simp [settle_writes h, hp]
    · rw [← holds_settle h x]
      simp [holds, settle_writes h, settle_entries h, serialOf, slot?]
  · refine ⟨⟨h.room, h.held_nodup, h.held_mem, ?_, h.durable⟩, rfl, rfl, fun x => ?_⟩
    · intro q hq
      rcases List.mem_append.1 hq with hq | hq
      · exact h.writes_mem q hq
      · rw [List.mem_singleton.1 hq]; exact hp
    · simp [holds, holdsAfter_append, serialOf, slot?]

/-! ## The map -/

/-- Replacing a key's entry by a new one, last. -/
theorem find?_without_append (l : List Slot) (s : Slot) (x : String) :
    (l.filter (fun p => p.key != s.key) ++ [s]).find? (fun p => p.key == x) =
      if x = s.key then some s else l.find? (fun p => p.key == x) := by
  by_cases hx : x = s.key
  · subst hx
    have hnone : (l.filter (fun p => p.key != s.key)).find? (fun p => p.key == s.key) = none := by
      simp
    simp [hnone]
  · have hsame : (l.filter (fun p => p.key != s.key)).find? (fun p => p.key == x) =
        l.find? (fun p => p.key == x) := by
      rw [List.find?_filter]
      congr 1
      funext p
      by_cases hp : p.key = x
      · simp [hp, hx]
      · simp [hp]
    simp [hsame, hx, Ne.symm hx]

/-- Dropping a key's entry. -/
theorem find?_without (l : List Slot) (k x : String) :
    (l.filter (fun p => p.key != k)).find? (fun p => p.key == x) =
      if x = k then none else l.find? (fun p => p.key == x) := by
  rw [List.find?_filter]
  by_cases hx : x = k
  · subst hx
    simp
  · rw [if_neg hx]
    congr 1
    funext p
    by_cases hp : p.key = x
    · simp [hp, hx]
    · simp [hp]

theorem keys_nodup_without (l : List Slot) (k : String) (h : (l.map Slot.key).Nodup) :
    ((l.filter fun p => p.key != k).map Slot.key).Nodup :=
  h.sublist ((List.filter_sublist).map Slot.key)

theorem keys_nodup_without_append (l : List Slot) (s : Slot) (h : (l.map Slot.key).Nodup) :
    ((l.filter (fun p => p.key != s.key) ++ [s]).map Slot.key).Nodup := by
  rw [List.map_append]
  refine (keys_nodup_without l s.key h).append (by simp) ?_
  intro a ha hb
  simp only [List.mem_map, List.mem_filter] at ha
  obtain ⟨p, ⟨-, hp⟩, rfl⟩ := ha
  simp only [List.map_cons, List.map_nil, List.mem_singleton] at hb
  simp [hb] at hp

/-! ## The invariant -/

/-- The engine behaves as a finite map over the keys `K`: the policy has room for all of them,
no notice waits, the map has one entry per key, and once the policy has learnt of the pending
writes it holds exactly the keys of the map. -/
structure MapLike (K : Finset String) (e : Engine) : Prop extends Roomy K e where
  quiet : e.removals = []
  keys_nodup : (e.entries.map Slot.key).Nodup
  synced : ∀ x, e.holds x = (e.slot? x).isSome

theorem MapLike.settle (h : MapLike K e) : MapLike K e.settle :=
  ⟨h.toRoomy.settle, by rw [settle_removals h.toRoomy, h.quiet],
    by rw [settle_entries h.toRoomy]; exact h.keys_nodup,
    fun x => by rw [holds_settle h.toRoomy, h.synced x]; simp [slot?, settle_entries h.toRoomy]⟩

/-- Once the pending work is done, the policy holds exactly the keys of the map. -/
theorem MapLike.mem_settle_held (h : MapLike K e) (x : String) :
    x ∈ e.settle.held ↔ (e.slot? x).isSome := by
  rw [Engine.mem_settle_held h.toRoomy, ← h.synced x]
  rfl

theorem MapLike.with_reads (h : MapLike K e) (rs : List String) : MapLike K { e with reads := rs } :=
  ⟨⟨h.room, h.held_nodup, h.held_mem, h.writes_mem, h.durable⟩, h.quiet, h.keys_nodup, h.synced⟩

theorem MapLike.noteRead (h : MapLike K e) (k : String) :
    MapLike K (e.noteRead k) ∧ (e.noteRead k).entries = e.entries := by
  unfold Engine.noteRead
  split
  · exact ⟨h.settle.with_reads _, settle_entries h.toRoomy⟩
  · exact ⟨h.with_reads _, rfl⟩

theorem MapLike.keepsNothing (h : MapLike K e) : e.keepsNothing = false := by
  have := h.room
  simp only [Engine.keepsNothing, beq_eq_false_iff_ne, ne_eq]
  omega

/-- A new engine, whose expiries are not fleeting, is a finite map over any keys it has room
for. -/
theorem mapLike_of_empty (h : K.card < e.capacity) (hd : e.fleeting = false)
    (he : e.entries = []) (hh : e.held = []) (hw : e.writes = []) (hr : e.removals = []) :
    MapLike K e :=
  ⟨⟨h, by simp [hh], by simp [hh], by simp [hw], hd⟩, hr, by simp [he],
    fun x => by simp [holds, hh, hw, slot?, he]⟩

/-- The engine takes a cache's expiry as its span up to the limit, whatever the world. -/
theorem expiryFor_run {W : Type} [Journal W] (s : Settings) (kind : ExpiryKind) (w : W) :
    ((expiryFor s kind).run w).1 = (s.expiry kind).engineSpan := by
  unfold expiryFor Expiry.engineSpan
  dsimp only
  cases (s.expiry kind).span? with
  | none => rfl
  | some sp =>
    by_cases hx : sp.exceeds engineLimit = true
    · simp only [hx, if_true]
      rfl
    · simp only [hx, Bool.false_eq_true, if_false]
      rfl

/-- A new engine with room for every key of `K`, for settings whose expiries are not fleeting,
keeps its keys as a finite map. -/
theorem create_mapLike {W : Type} [Journal W] (s : Settings) (w : W)
    (hK : K.card < s.maxEntries.toNat)
    (hx : ∀ kind, (s.expiry kind).engineSpan.any Span.fleeting = false) :
    MapLike K ((create s).run w).1 := by
  have hrun : ((create s).run w).1 =
      { name := s.name, capacity := s.maxEntries.toNat, idle := ((expiryFor s .accessed).run w).1,
        live := ((expiryFor s .modified).run ((expiryFor s .accessed).run w).2).1 } := rfl
  rw [hrun, expiryFor_run, expiryFor_run]
  exact mapLike_of_empty hK (by simp [fleeting, hx]) rfl rfl rfl rfl

/-! ## Operations -/

theorem slot?_congr {e e' : Engine} (h : e.entries = e'.entries) (x : String) :
    e.slot? x = e'.slot? x := by
  simp only [slot?, h]

theorem slot?_store (e : Engine) (s : Slot) (next : Nat) (x : String) :
    ({ e with entries := e.without s.key ++ [s], nextSerial := next } : Engine).slot? x =
      if x = s.key then some s else e.slot? x :=
  find?_without_append e.entries s x

/-- Storing a key's new entry, whatever its number, and recording the write keeps the engine a
finite map, with the new entry for the key and the others as they were. -/
theorem MapLike.store (h : MapLike K e) (s : Slot) (hk : s.key ∈ K) (next : Nat) :
    MapLike K (({ e with entries := e.without s.key ++ [s], nextSerial := next } : Engine).noteWrite
        (.upsert s.key s.serial)) ∧
      ∀ x, (({ e with entries := e.without s.key ++ [s], nextSerial := next } : Engine).noteWrite
        (.upsert s.key s.serial)).slot? x = if x = s.key then some s else e.slot? x := by
  have h2 : Roomy K ({ e with entries := e.without s.key ++ [s], nextSerial := next } : Engine) :=
    ⟨h.room, h.held_nodup, h.held_mem, h.writes_mem, h.durable⟩
  obtain ⟨hr, hent, hrem, hholds⟩ := noteWrite_spec h2 (.upsert s.key s.serial) hk
  have hslot : ∀ x, (({ e with entries := e.without s.key ++ [s], nextSerial := next } :
      Engine).noteWrite (.upsert s.key s.serial)).slot? x = if x = s.key then some s else e.slot? x :=
    fun x => (slot?_congr hent x).trans (slot?_store e s next x)
  refine ⟨⟨hr, by rw [hrem]; exact h.quiet, by rw [hent]; exact keys_nodup_without_append _ _ h.keys_nodup,
    fun x => ?_⟩, hslot⟩
  rw [hholds x, hslot x]
  have hser : ({ e with entries := e.without s.key ++ [s], nextSerial := next } : Engine).serialOf x =
      if x = s.key then some s.serial else e.serialOf x := by
    rw [serialOf, slot?_store]
    split <;> rfl
  by_cases hx : x = s.key
  · subst hx
    simp [holdsAfter, hser]
  · have hhx : holds { e with entries := e.without s.key ++ [s], nextSerial := next } x = e.holds x := by
      simp only [holds, hser, if_neg hx]
    simp [holdsAfter, hx, Ne.symm hx, hhx, h.synced x]

/-- Writing a key of `K` keeps the engine a finite map: it tells whether the key had a value, and
then the key has the new value and every other key its old one. -/
theorem MapLike.write (h : MapLike K e) (k v : String) (hk : k ∈ K) :
    (e.write k v).1 = (e.lookup k).isSome ∧ MapLike K (e.write k v).2 ∧
      ∀ x, (e.write k v).2.lookup x = if x = k then some v else e.lookup x := by
  obtain ⟨h1, he1⟩ := h.noteRead k
  unfold Engine.write
  rw [if_neg (by simp [h.keepsNothing])]
  simp only [h.durable, h1.durable, Bool.not_false, Bool.true_and, Bool.false_eq_true, if_false,
    List.append_nil]
  refine ⟨trivial, (h1.store ⟨k, v, _⟩ hk _).1, fun x => ?_⟩
  rw [lookup, (h1.store ⟨k, v, _⟩ hk _).2 x]
  by_cases hx : x = k <;> simp [hx, lookup, slot?_congr he1 x]

theorem slot?_drop (e : Engine) (k x : String) :
    ({ e with entries := e.without k } : Engine).slot? x = if x = k then none else e.slot? x :=
  find?_without e.entries k x

/-- Removing a key of `K` keeps the engine a finite map: it gives the key's value, and then the
key has none and every other key its old one. -/
theorem MapLike.erase (h : MapLike K e) (k : String) (hk : k ∈ K) :
    (e.erase k).1 = e.lookup k ∧ MapLike K (e.erase k).2 ∧
      ∀ x, (e.erase k).2.lookup x = if x = k then none else e.lookup x := by
  unfold Engine.erase
  cases hl : e.lookup k with
  | none =>
    refine ⟨rfl, h, fun x => ?_⟩
    by_cases hx : x = k
    · rw [if_pos hx, hx, hl]
    · rw [if_neg hx]
  | some v =>
    dsimp only
    rw [if_neg (by simp [h.durable])]
    have h2 : Roomy K ({ e with entries := e.without k } : Engine) :=
      ⟨h.room, h.held_nodup, h.held_mem, h.writes_mem, h.durable⟩
    obtain ⟨hr, hent, hrem, hholds⟩ := noteWrite_spec h2 (.remove k) hk
    have hslot : ∀ x, (({ e with entries := e.without k } : Engine).noteWrite (.remove k)).slot? x =
        if x = k then none else e.slot? x :=
      fun x => (slot?_congr hent x).trans (slot?_drop e k x)
    refine ⟨rfl, ⟨hr, by rw [hrem]; exact h.quiet,
      by rw [hent]; exact keys_nodup_without _ _ h.keys_nodup, fun x => ?_⟩, fun x => ?_⟩
    · rw [hholds x, hslot x]
      by_cases hx : x = k
      · subst hx
        simp [holdsAfter]
      · have hhx : holds { e with entries := e.without k } x = e.holds x := by
          simp only [holds, serialOf, slot?_drop, if_neg hx]
        simp [holdsAfter, hx, Ne.symm hx, hhx, h.synced x]
    · rw [lookup, hslot x]
      by_cases hx : x = k <;> simp [hx, lookup]

/-- Clearing keeps the engine a finite map, now empty. -/
theorem MapLike.clear (h : MapLike K e) : MapLike K e.clear ∧ ∀ x, e.clear.lookup x = none := by
  have hs := h.toRoomy.settle
  refine ⟨⟨⟨hs.room, List.nodup_nil, by simp [Engine.clear], by simp [Engine.clear, settle_writes h.toRoomy],
    hs.durable⟩, by simp [Engine.clear, settle_removals h.toRoomy, h.quiet], by simp [Engine.clear],
    fun x => ?_⟩, fun x => ?_⟩
  · simp [holds, Engine.clear, settle_writes h.toRoomy, slot?]
  · simp [lookup, slot?, Engine.clear]

/-- A read answers the key's value; the engine only records the read. -/
theorem MapLike.read_eq (h : MapLike K e) (k : String) : e.read k = (e.lookup k, e.noteRead k) := by
  simp [Engine.read, h.keepsNothing, h.durable]

theorem isSome_slot?_iff (e : Engine) (x : String) :
    (e.slot? x).isSome ↔ x ∈ e.entries.map Slot.key := by
  simp [slot?, List.find?_isSome]

/-- Once the pending work is done, the policy holds as many keys as the map has entries. -/
theorem MapLike.settle_held_length (h : MapLike K e) : e.settle.held.length = e.entries.length := by
  have hperm : e.settle.held.Perm (e.entries.map Slot.key) := by
    refine (List.perm_ext_iff_of_nodup h.toRoomy.settle.held_nodup h.keys_nodup).2 fun x => ?_
    rw [h.mem_settle_held x, isSome_slot?_iff]
  rw [hperm.length_eq, List.length_map]

/-! ## The map as a finite map -/

/-- The engine's map as a finite map from keys to values. -/
def contents (e : Engine) : Finmap (fun _ : String => String) :=
  (e.entries.map fun p => (⟨p.key, p.value⟩ : (_ : String) × String)).toFinmap

theorem dlookup_map_slots (x : String) : ∀ l : List Slot,
    (l.map fun p => (⟨p.key, p.value⟩ : (_ : String) × String)).dlookup x =
      (l.find? fun p => p.key == x).map Slot.value
  | [] => rfl
  | p :: l => by
    by_cases hx : p.key = x
    · subst hx
      simp [List.dlookup_cons_eq]
    · rw [List.map_cons, List.dlookup_cons_ne _ _ (Ne.symm hx), dlookup_map_slots x l]
      simp [hx]

@[simp] theorem lookup_contents (e : Engine) (x : String) : e.contents.lookup x = e.lookup x := by
  rw [contents, Finmap.dlookup_list_toFinmap, dlookup_map_slots]
  rfl

theorem contents_congr {e e' : Engine} (h : e.entries = e'.entries) : e.contents = e'.contents := by
  simp only [contents, h]

theorem mem_contents (e : Engine) (x : String) : x ∈ e.contents ↔ x ∈ e.entries.map Slot.key := by
  rw [← Finmap.lookup_isSome, lookup_contents, lookup, Option.isSome_map, isSome_slot?_iff]

theorem MapLike.card_contents (h : MapLike K e) : e.contents.keys.card = e.entries.length := by
  have hkeys : e.contents.keys = (e.entries.map Slot.key).toFinset := by
    ext x
    rw [Finmap.mem_keys, mem_contents, List.mem_toFinset]
  rw [hkeys, List.toFinset_card_of_nodup h.keys_nodup, List.length_map]

theorem MapLike.contents_write (h : MapLike K e) (k v : String) (hk : k ∈ K) :
    (e.write k v).2.contents = e.contents.insert k v := by
  refine Finmap.ext_lookup fun x => ?_
  rw [lookup_contents, (h.write k v hk).2.2 x]
  by_cases hx : x = k
  · subst hx
    rw [if_pos rfl, Finmap.lookup_insert]
  · rw [if_neg hx, Finmap.lookup_insert_of_ne _ hx, lookup_contents]

theorem MapLike.contents_erase (h : MapLike K e) (k : String) (hk : k ∈ K) :
    (e.erase k).2.contents = e.contents.erase k := by
  refine Finmap.ext_lookup fun x => ?_
  rw [lookup_contents, (h.erase k hk).2.2 x]
  by_cases hx : x = k
  · subst hx
    rw [if_pos rfl, Finmap.lookup_erase]
  · rw [if_neg hx, Finmap.lookup_erase_ne hx, lookup_contents]

theorem MapLike.contents_clear (h : MapLike K e) : e.clear.contents = ∅ :=
  Finmap.ext_lookup fun x => by rw [lookup_contents, h.clear.2 x, Finmap.lookup_empty]

end NamedCaches.Engine
