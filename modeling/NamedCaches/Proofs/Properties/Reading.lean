import Mathlib.Data.String.Basic
import NamedCaches.Config.Properties
import NamedCaches.Proofs.Registry.Build
import NamedCaches.Proofs.Registry.Failures
set_option autoImplicit false
/-!
# Reading property texts

A property text is cut into pieces (`Properties.pieces`), and each piece is read on its own.
Trimmed of blanks, a blank piece is passed over; any other must hold an `=`, the trimmed text
before its first `=` is the key, which must not be blank, and the trimmed text after it is the
value. `Refuses` and `Reads` say this of a piece without the reader.

Reading a whole text (`parse_eq_error_iff`, `parse_eq_ok_iff`) fails with the failure of the
first piece refused, if any; otherwise it gives the properties that hold, for each key, the
value of the last piece read with that key, and no other key. Properties are kept in key order,
so they are determined by their values (`Properties.ext_get?`). The environment made of
properties has the same keys, with the values as strings (`field?_toEnvironment`).
-/

namespace NamedCaches

namespace Text

/-- A character list with no blank at either end. -/
def Trimmed (cs : List Char) : Prop :=
  (∀ c ∈ cs.head?, isBlank c = false) ∧ ∀ c ∈ cs.getLast?, isBlank c = false

-- decided by looking at the two ends, not by a search over characters
instance (cs : List Char) : Decidable (Trimmed cs) :=
  decidable_of_iff ((cs.head?.all fun c => !isBlank c) && cs.getLast?.all fun c => !isBlank c)
    (by simp [Trimmed, Option.all_eq_true])

theorem dropBlanks_of_head {cs : List Char} (h : ∀ c ∈ cs.head?, isBlank c = false) :
    dropBlanks cs = cs := by
  cases cs with
  | nil => rfl
  | cons c rest => simp [dropBlanks, h c rfl]

/-- Trimming leaves a list with no blank at either end as it is. -/
theorem trimChars_of_trimmed {cs : List Char} (h : Trimmed cs) : trimChars cs = cs := by
  have hback : dropBlanks cs.reverse = cs.reverse :=
    dropBlanks_of_head (by rw [List.head?_reverse]; exact h.2)
  rw [trimChars, dropBlanks_of_head h.1, hback, List.reverse_reverse]

theorem trim_of_trimmed {s : String} (h : Trimmed s.toList) : trim s = s := by
  rw [trim, trimChars_of_trimmed h, String.ofList_toList]

end Text

namespace Properties

/-! ## The first `=` -/

/-- `a` and `b` are what a text holds before and after its first `=`. -/
def FirstEq (cs a b : List Char) : Prop := cs = a ++ '=' :: b ∧ '=' ∉ a

theorem FirstEq.takeWhile {cs a b : List Char} (h : FirstEq cs a b) :
    cs.takeWhile (· != '=') = a := by
  obtain ⟨rfl, ha⟩ := h
  rw [List.takeWhile_append_of_pos fun c hc => by simpa using ne_of_mem_of_not_mem hc ha]
  simp

theorem FirstEq.dropWhile {cs a b : List Char} (h : FirstEq cs a b) :
    (cs.dropWhile (· != '=')).drop 1 = b := by
  obtain ⟨rfl, ha⟩ := h
  rw [List.dropWhile_append_of_pos fun c hc => by simpa using ne_of_mem_of_not_mem hc ha]
  simp

theorem FirstEq.unique {cs a b a' b' : List Char} (h : FirstEq cs a b) (h' : FirstEq cs a' b') :
    a = a' ∧ b = b' :=
  ⟨h.takeWhile.symm.trans h'.takeWhile, h.dropWhile.symm.trans h'.dropWhile⟩

/-- A text that holds an `=` splits at the first one. -/
theorem firstEq_of_mem {cs : List Char} (h : '=' ∈ cs) :
    FirstEq cs (cs.takeWhile (· != '=')) ((cs.dropWhile (· != '=')).drop 1) := by
  induction cs with
  | nil => simp at h
  | cons c rest ih =>
    by_cases hc : c = '='
    · subst hc
      simp [FirstEq]
    · have hrest : '=' ∈ rest := by simpa [Ne.symm hc] using h
      obtain ⟨hsplit, hfree⟩ := ih hrest
      have hne : (c != '=') = true := by simpa using hc
      refine ⟨?_, ?_⟩
      · rw [List.takeWhile_cons, List.dropWhile_cons, if_pos hne, if_pos hne, List.cons_append]
        exact congrArg (c :: ·) hsplit
      · rw [List.takeWhile_cons, if_pos hne, List.mem_cons, not_or]
        exact ⟨Ne.symm hc, hfree⟩

/-! ## One piece -/

theorem entry_of_firstEq {p : String} {a b : List Char} (h : FirstEq p.toList a b) :
    entry p = if Text.trim (String.ofList a) = "" then .error (emptyKey p)
      else .ok (Text.trim (String.ofList a), Text.trim (String.ofList b)) := by
  have hmem : p.toList.contains '=' = true := by simp [h.1]
  simp only [entry, hmem, if_true, h.takeWhile, h.dropWhile, String.isEmpty_iff]

theorem entry_of_not_mem {p : String} (h : '=' ∉ p.toList) : entry p = .error (missingEquals p) := by
  simp [entry, h]

/-- The failure a piece of a property text is refused with: trimmed of blanks, it is not blank
and holds no `=`, or it has nothing but blanks before its first `=`. -/
inductive Refuses : String → Failure → Prop
  | missingEquals {piece : String} : Text.trim piece ≠ "" → '=' ∉ (Text.trim piece).toList →
      Refuses piece (.config "properties" ("expected `key=value`, found `" ++ Text.trim piece ++ "`"))
  | emptyKey {piece : String} {a b : List Char} : FirstEq (Text.trim piece).toList a b →
      Text.trim (String.ofList a) = "" →
      Refuses piece (.config "properties" ("empty key in `" ++ Text.trim piece ++ "`"))

/-- A piece of a property text read as an entry: trimmed of blanks, its text before the first
`=`, trimmed, is the key, which is not blank, and its text after it, trimmed, is the value. -/
def Reads (piece key value : String) : Prop :=
  ∃ a b, FirstEq (Text.trim piece).toList a b ∧ key = Text.trim (String.ofList a) ∧ key ≠ "" ∧
    value = Text.trim (String.ofList b)

theorem Reads.unique {piece k v k' v' : String} (h : Reads piece k v) (h' : Reads piece k' v') :
    k = k' ∧ v = v' := by
  obtain ⟨a, b, hab, rfl, -, rfl⟩ := h
  obtain ⟨a', b', hab', rfl, -, rfl⟩ := h'
  obtain ⟨rfl, rfl⟩ := hab.unique hab'
  exact ⟨rfl, rfl⟩

theorem Reads.not_refuses {piece k v : String} {e : Failure} (h : Reads piece k v) :
    ¬ Refuses piece e := by
  obtain ⟨a, b, hab, rfl, hk, -⟩ := h
  rintro (⟨-, hno⟩ | ⟨hab', hblank⟩)
  · exact hno (hab.1 ▸ List.mem_append_right a List.mem_cons_self)
  · exact hk ((hab.unique hab').1 ▸ hblank)

theorem Reads.trim_ne {piece k v : String} (h : Reads piece k v) : Text.trim piece ≠ "" := by
  obtain ⟨a, b, hab, -⟩ := h
  intro hblank
  rw [hblank, String.toList_empty] at hab
  exact List.append_ne_nil_of_right_ne_nil a (List.cons_ne_nil _ _) hab.1.symm

theorem Refuses.trim_ne {piece : String} {e : Failure} (h : Refuses piece e) :
    Text.trim piece ≠ "" := by
  rcases h with ⟨hne, -⟩ | ⟨hab, -⟩
  · exact hne
  · intro hblank
    rw [hblank, String.toList_empty] at hab
    exact List.append_ne_nil_of_right_ne_nil _ (List.cons_ne_nil _ _) hab.1.symm

/-- Every piece is blank, refused or read. -/
theorem blank_or_refuses_or_reads (piece : String) :
    Text.trim piece = "" ∨ (∃ e, Refuses piece e) ∨ ∃ k v, Reads piece k v := by
  by_cases hblank : Text.trim piece = ""
  · exact .inl hblank
  by_cases hmem : '=' ∈ (Text.trim piece).toList
  · have hab := firstEq_of_mem hmem
    by_cases hkey : Text.trim (String.ofList ((Text.trim piece).toList.takeWhile (· != '='))) = ""
    · exact .inr (.inl ⟨_, .emptyKey hab hkey⟩)
    · exact .inr (.inr ⟨_, _, _, _, hab, rfl, hkey, rfl⟩)
  · exact .inr (.inl ⟨_, .missingEquals hblank hmem⟩)

/-- Reading one piece into the properties read so far. -/
def readPiece (props : Properties) (piece : String) : Except Failure Properties :=
  let p := Text.trim piece
  if p.isEmpty then .ok props
  else do
    let (k, v) ← entry p
    pure (props.insert k v)

theorem parse_eq (t : String) (d : Option String) :
    parse t d = (pieces t d).foldlM readPiece empty := rfl

theorem readPiece_blank {props : Properties} {piece : String} (h : Text.trim piece = "") :
    readPiece props piece = .ok props := by
  simp [readPiece, h]

theorem readPiece_of_refuses {props : Properties} {piece : String} {e : Failure}
    (h : Refuses piece e) : readPiece props piece = .error e := by
  have hne := h.trim_ne
  rcases h with ⟨-, hno⟩ | ⟨hab, hblank⟩
  · simp [readPiece, hne, entry_of_not_mem hno, missingEquals]
  · simp [readPiece, hne, entry_of_firstEq hab, hblank, emptyKey]

theorem readPiece_of_reads {props : Properties} {piece k v : String} (h : Reads piece k v) :
    readPiece props piece = .ok (props.insert k v) := by
  have hne := h.trim_ne
  obtain ⟨a, b, hab, rfl, hk, rfl⟩ := h
  simp [readPiece, hne, entry_of_firstEq hab, hk]

theorem readPiece_eq_error_iff {props : Properties} {piece : String} {e : Failure} :
    readPiece props piece = .error e ↔ Refuses piece e := by
  refine ⟨fun h => ?_, readPiece_of_refuses⟩
  rcases blank_or_refuses_or_reads piece with hblank | ⟨e', he'⟩ | ⟨k, v, hkv⟩
  · rw [readPiece_blank hblank] at h
    cases h
  · rw [readPiece_of_refuses he'] at h
    cases h
    exact he'
  · rw [readPiece_of_reads hkv] at h
    cases h

/-! ## Properties in key order -/

/-- The keys of properties stand in increasing order, as the field `Properties.sorted` has it of
every one. -/
def Sorted (p : Properties) : Prop := (p.entries.map Prod.fst).Pairwise (· < ·)

instance (p : Properties) : Decidable p.Sorted :=
  inferInstanceAs (Decidable ((p.entries.map Prod.fst).Pairwise (· < ·)))

@[simp] theorem get?_empty (key : String) : empty.get? key = none := rfl

@[simp] theorem get?_insert (p : Properties) (key k v : String) :
    (p.insert k v).get? key = if key = k then some v else p.get? key :=
  Json.Fields.get?_insert key k v p.entries

theorem le_of_mem_keys {α : Type} {k x : String} {w : α} {r : List (String × α)}
    (h : (((k, w) :: r).map Prod.fst).Pairwise (· < ·)) (hx : x ∈ ((k, w) :: r).map Prod.fst) :
    k ≤ x := by
  rw [List.map_cons, List.pairwise_cons] at h
  rw [List.map_cons, List.mem_cons] at hx
  rcases hx with rfl | hx
  · exact le_refl _
  · exact le_of_lt (h.1 x hx)

theorem mem_keys_of_get? {α : Type} {k : String} {l : List (String × α)}
    (h : Json.Fields.get? k l ≠ none) : k ∈ l.map Prod.fst :=
  not_not.1 (mt (Json.Fields.get?_eq_none_iff k l).2 h)

/-- Entry lists in key order are equal when they give every key the same value. -/
theorem fields_ext {α : Type} :
    ∀ {l₁ l₂ : List (String × α)}, (l₁.map Prod.fst).Pairwise (· < ·) →
      (l₂.map Prod.fst).Pairwise (· < ·) →
      (∀ k, Json.Fields.get? k l₁ = Json.Fields.get? k l₂) → l₁ = l₂
  | [], [], _, _, _ => rfl
  | [], (k, w) :: _, _, _, h => by simpa [Json.Fields.get?] using h k
  | (k, w) :: _, [], _, _, h => by simpa [Json.Fields.get?] using h k
  | (k₁, w₁) :: r₁, (k₂, w₂) :: r₂, h₁, h₂, h => by
    -- each first key is a key of the other list, so neither is below the other
    have hk₁ : k₁ ∈ ((k₂, w₂) :: r₂).map Prod.fst :=
      mem_keys_of_get? (by rw [← h k₁]; simp [Json.Fields.get?])
    have hk₂ : k₂ ∈ ((k₁, w₁) :: r₁).map Prod.fst :=
      mem_keys_of_get? (by rw [h k₂]; simp [Json.Fields.get?])
    obtain rfl : k₁ = k₂ := le_antisymm (le_of_mem_keys h₁ hk₂) (le_of_mem_keys h₂ hk₁)
    obtain rfl : w₁ = w₂ := by simpa [Json.Fields.get?] using h k₁
    rw [List.map_cons, List.pairwise_cons] at h₁ h₂
    refine congrArg _ (fields_ext h₁.2 h₂.2 fun k => ?_)
    by_cases hk : k = k₁
    · subst hk
      rw [(Json.Fields.get?_eq_none_iff _ r₁).2 fun hm => lt_irrefl _ (h₁.1 _ hm),
        (Json.Fields.get?_eq_none_iff _ r₂).2 fun hm => lt_irrefl _ (h₂.1 _ hm)]
    · simpa [Json.Fields.get?, hk] using h k

/-- Properties, being in key order, are equal when they give every key the same value. -/
theorem ext_get? {p q : Properties} (h : ∀ k, p.get? k = q.get? k) : p = q := by
  obtain ⟨ps, hp⟩ := p
  obtain ⟨qs, hq⟩ := q
  obtain rfl : ps = qs := fields_ext hp hq h
  rfl

/-! ## A whole text -/

/-- The first piece refused is refused with `e`. -/
def FirstRefusal (ps : List String) (e : Failure) : Prop :=
  ∃ pre p post, ps = pre ++ p :: post ∧ Refuses p e ∧ ∀ q ∈ pre, ∀ e', ¬ Refuses q e'

/-- The last piece read with the key `k` reads the value `v`. -/
def LastReads (ps : List String) (k v : String) : Prop :=
  ∃ pre p post, ps = pre ++ p :: post ∧ Reads p k v ∧ ∀ q ∈ post, ∀ v', ¬ Reads q k v'

theorem firstRefusal_cons {p : String} {ps : List String} {e : Failure} :
    FirstRefusal (p :: ps) e ↔ Refuses p e ∨ ((∀ e', ¬ Refuses p e') ∧ FirstRefusal ps e) := by
  constructor
  · rintro ⟨pre, q, post, hps, hq, hpre⟩
    cases pre with
    | nil =>
      obtain ⟨rfl, -⟩ := List.cons.inj hps
      exact .inl hq
    | cons r pre =>
      obtain ⟨rfl, rfl⟩ := List.cons.inj hps
      exact .inr ⟨hpre p List.mem_cons_self,
        pre, q, post, rfl, hq, fun q' hq' => hpre q' (List.mem_cons_of_mem _ hq')⟩
  · rintro (hp | ⟨hp, pre, q, post, rfl, hq, hpre⟩)
    · exact ⟨[], p, ps, rfl, hp, by simp⟩
    · refine ⟨p :: pre, q, post, rfl, hq, fun q' hq' => ?_⟩
      rcases List.mem_cons.1 hq' with rfl | hq'
      · exact hp
      · exact hpre q' hq'

/-- When some piece is refused, some piece is the first one refused. -/
theorem exists_firstRefusal :
    ∀ {ps : List String}, (∃ p ∈ ps, ∃ e, Refuses p e) → ∃ e, FirstRefusal ps e
  | [], ⟨_, hp, _⟩ => absurd hp List.not_mem_nil
  | p :: ps, ⟨q, hq, e, he⟩ => by
    by_cases hp : ∃ e', Refuses p e'
    · obtain ⟨e', he'⟩ := hp
      exact ⟨e', firstRefusal_cons.2 (.inl he')⟩
    · have hq' : q ∈ ps := by
        rcases List.mem_cons.1 hq with rfl | hq
        · exact absurd ⟨e, he⟩ hp
        · exact hq
      obtain ⟨e', he'⟩ := exists_firstRefusal ⟨q, hq', e, he⟩
      exact ⟨e', firstRefusal_cons.2 (.inr ⟨fun e'' h => hp ⟨e'', h⟩, he'⟩)⟩

theorem not_lastReads_nil {k v : String} : ¬ LastReads [] k v := by
  rintro ⟨pre, p, post, h, -⟩
  exact List.append_ne_nil_of_right_ne_nil pre (List.cons_ne_nil p post) h.symm

theorem lastReads_cons {p : String} {ps : List String} {k v : String} :
    LastReads (p :: ps) k v ↔ LastReads ps k v ∨ (Reads p k v ∧ ∀ q ∈ ps, ∀ v', ¬ Reads q k v') := by
  constructor
  · rintro ⟨pre, q, post, hps, hq, hpost⟩
    cases pre with
    | nil =>
      obtain ⟨rfl, rfl⟩ := List.cons.inj hps
      exact .inr ⟨hq, hpost⟩
    | cons r pre =>
      obtain ⟨rfl, rfl⟩ := List.cons.inj hps
      exact .inl ⟨pre, q, post, rfl, hq, hpost⟩
  · rintro (⟨pre, q, post, rfl, hq, hpost⟩ | ⟨hp, hps⟩)
    · exact ⟨p :: pre, q, post, rfl, hq, hpost⟩
    · exact ⟨[], p, ps, rfl, hp, hps⟩

/-- A piece that reads nothing under `k` leaves what the pieces after it say of `k`. -/
theorem lastReads_cons_of_unread {p : String} {ps : List String} {k v : String}
    (h : ∀ v', ¬ Reads p k v') : LastReads (p :: ps) k v ↔ LastReads ps k v := by
  rw [lastReads_cons]
  exact or_iff_left fun hr => h v hr.1

/-- Reading pieces none of which is refused, from some properties, gives the properties that
hold, for each key, the value of the last piece read with that key, or else the value it had. -/
theorem foldlM_readPiece :
    ∀ (ps : List String), (∀ p ∈ ps, ∀ e, ¬ Refuses p e) → ∀ (props : Properties),
      ∃ P, ps.foldlM readPiece props = .ok P ∧
        ∀ k v, P.get? k = some v ↔
          LastReads ps k v ∨ ((∀ q ∈ ps, ∀ v', ¬ Reads q k v') ∧ props.get? k = some v)
  | [], _, props => ⟨props, rfl, fun k v => by simp [not_lastReads_nil]⟩
  | p :: ps, hno, props => by
    have hrest : ∀ q ∈ ps, ∀ e, ¬ Refuses q e := fun q hq => hno q (List.mem_cons_of_mem _ hq)
    rcases blank_or_refuses_or_reads p with hblank | ⟨e, he⟩ | ⟨k', v', hkv⟩
    · -- a blank piece reads nothing and leaves the properties as they are
      obtain ⟨P, hP, hget⟩ := foldlM_readPiece ps hrest props
      refine ⟨P, by rw [List.foldlM_cons, readPiece_blank hblank]; exact hP, fun k v => ?_⟩
      have hunread : ∀ v', ¬ Reads p k v' := fun v' h => h.trim_ne hblank
      rw [hget, lastReads_cons_of_unread hunread, List.forall_mem_cons, and_iff_right hunread]
    · exact absurd he (hno p List.mem_cons_self e)
    · -- a piece read as `k'`, `v'` sets that key before the rest is read
      obtain ⟨P, hP, hget⟩ := foldlM_readPiece ps hrest (props.insert k' v')
      refine ⟨P, by rw [List.foldlM_cons, readPiece_of_reads hkv]; exact hP, fun k v => ?_⟩
      rw [hget, get?_insert]
      by_cases hk : k = k'
      · subst hk
        rw [if_pos rfl, lastReads_cons]
        constructor
        · rintro (h | ⟨h, hv⟩)
          · exact .inl (.inl h)
          · exact .inl (.inr ⟨Option.some.inj hv ▸ hkv, h⟩)
        · rintro ((h | ⟨hr, h⟩) | ⟨hall, -⟩)
          · exact .inl h
          · exact .inr ⟨h, congrArg some (hr.unique hkv).2.symm⟩
          · exact absurd hkv (hall p List.mem_cons_self v')
      · -- the piece reads another key, so it says nothing of `k`
        have hunread : ∀ v'', ¬ Reads p k v'' := fun v'' h => hk (h.unique hkv).1
        rw [if_neg hk, lastReads_cons_of_unread hunread, List.forall_mem_cons,
          and_iff_right hunread]

/-- Reading pieces fails exactly when one is refused, with the failure of the first one. -/
theorem foldlM_readPiece_eq_error_iff :
    ∀ (ps : List String) (props : Properties) (e : Failure),
      ps.foldlM readPiece props = .error e ↔ FirstRefusal ps e
  | [], _, e => by
    simp only [List.foldlM_nil]
    constructor
    · intro h
      cases h
    · rintro ⟨pre, p, post, h, -⟩
      exact absurd h.symm (List.append_ne_nil_of_right_ne_nil pre (List.cons_ne_nil p post))
  | p :: ps, props, e => by
    rw [List.foldlM_cons, firstRefusal_cons]
    rcases blank_or_refuses_or_reads p with hblank | ⟨e', he'⟩ | ⟨k, v, hkv⟩
    · have hnot : ∀ e', ¬ Refuses p e' := fun e' h => h.trim_ne hblank
      rw [readPiece_blank hblank]
      exact (foldlM_readPiece_eq_error_iff ps props e).trans
        ⟨fun h => .inr ⟨hnot, h⟩, fun h => h.elim (fun h' => absurd h' (hnot e)) And.right⟩
    · rw [readPiece_of_refuses he']
      constructor
      · intro h
        cases h
        exact .inl he'
      · rintro (h | ⟨hnot, -⟩)
        · exact (@readPiece_of_refuses props _ _ he').symm.trans (readPiece_of_refuses h)
        · exact absurd he' (hnot e')
    · have hnot : ∀ e', ¬ Refuses p e' := fun e' => hkv.not_refuses
      rw [readPiece_of_reads hkv]
      exact (foldlM_readPiece_eq_error_iff ps (props.insert k v) e).trans
        ⟨fun h => .inr ⟨hnot, h⟩, fun h => h.elim (fun h' => absurd h' (hnot e)) And.right⟩

/-- Reading a text fails exactly when a piece is refused, with the failure of the first one. -/
theorem parse_eq_error_iff (t : String) (d : Option String) (e : Failure) :
    parse t d = .error e ↔ FirstRefusal (pieces t d) e := by
  rw [parse_eq]
  exact foldlM_readPiece_eq_error_iff _ _ e

/-- Reading a text gives `P` exactly when no piece is refused and `P` holds, in key order, for
each key the value of the last piece read with that key, and no other key. -/
theorem parse_eq_ok_iff (t : String) (d : Option String) (P : Properties) :
    parse t d = .ok P ↔ (∀ p ∈ pieces t d, ∀ e, ¬ Refuses p e) ∧ P.Sorted ∧
      ∀ k v, P.get? k = some v ↔ LastReads (pieces t d) k v := by
  constructor
  · intro h
    have hno : ∀ p ∈ pieces t d, ∀ e, ¬ Refuses p e := by
      intro p hp e hr
      obtain ⟨e', he'⟩ := exists_firstRefusal ⟨p, hp, e, hr⟩
      rw [← parse_eq_error_iff, h] at he'
      cases he'
    obtain ⟨P', hP', hget⟩ := foldlM_readPiece _ hno empty
    rw [parse_eq, hP'] at h
    cases h
    exact ⟨hno, Properties.sorted _, fun k v => by simpa using hget k v⟩
  · rintro ⟨hno, -, hget⟩
    obtain ⟨P', hP', hget'⟩ := foldlM_readPiece _ hno empty
    rw [parse_eq, hP']
    exact congrArg _ (ext_get? fun k =>
      Option.ext fun v => by rw [hget k v]; simpa using hget' k v)

/-- The environment made of properties holds the same keys, with the values as strings. -/
theorem field?_toEnvironment (P : Properties) (k : String) :
    (toEnvironment P).field? k = (P.get? k).map .str := by
  simp only [toEnvironment, Json.Value.field?, get?]
  generalize P.entries = entries
  induction entries with
  | nil => rfl
  | cons e rest ih =>
    obtain ⟨k', v'⟩ := e
    by_cases hk : k = k'
    · simp [Json.Fields.get?, hk]
    · simpa [Json.Fields.get?, hk] using ih

/-- Reading a property text: it fails exactly when a piece is refused, with the failure of the
first one; it gives `P` exactly when no piece is refused and `P` holds, in key order, each key
with the value of the last piece read with that key, and no other key; and the environment of
properties holds their keys, with the values as strings. -/
theorem parse_fails_first_keeps_last (t : String) (d : Option String) :
    (∀ e, parse t d = .error e ↔ FirstRefusal (pieces t d) e) ∧
    (∀ P, parse t d = .ok P ↔ (∀ p ∈ pieces t d, ∀ e, ¬ Refuses p e) ∧ P.Sorted ∧
      ∀ k v, P.get? k = some v ↔ LastReads (pieces t d) k v) ∧
    ∀ P k, (toEnvironment P).field? k = (P.get? k).map .str :=
  ⟨parse_eq_error_iff t d, parse_eq_ok_iff t d, field?_toEnvironment⟩

end Properties

end NamedCaches
