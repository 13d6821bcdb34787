import Mathlib.Data.String.Basic
import NamedCaches.Proofs.Registry.Build
set_option autoImplicit false
/-!
# The reader keeps objects in key order

A JSON object is kept with its keys in strictly increasing order, each once. The reader builds
every object it gives so: an object or a table from its entries by `Fields.ofList`, a record by
inserting its fields one by one (`Fields.insert`), the absent ones with their defaults.
`Value.SortedKeys` says this of a value at every depth, and every reading of a text, against a
shape or not, gives such a value (`Shape.ofText_sortedKeys`, `Value.parse_sortedKeys`).

A reading is followed through `Scan.Ensures`: whatever it returns, from any cursor, has a
property. The readers recurse on fuel, in two families (`value` with `items` and `entries`;
`shaped` with the table and record loops). For each reader a step lemma says that with one more
unit of fuel it keeps the property when the readers it calls keep it with the fuel they get; an
induction on the fuel then gives it for all (`valuesSorted`, `shapedSorted`).

The caches a section or a document declares are therefore in name order, and so are those every
source loads, a fixed table being so by its type (`Source.load_sorted`).
-/

namespace NamedCaches

namespace Json

/-- Every object in the value, at every depth, has its keys in strictly increasing order. -/
inductive Value.SortedKeys : Value → Prop
  | null : SortedKeys .null
  | bool (b : Bool) : SortedKeys (.bool b)
  | num (n : Number) : SortedKeys (.num n)
  | str (s : String) : SortedKeys (.str s)
  | arr {xs : List Value} : (∀ x ∈ xs, SortedKeys x) → SortedKeys (.arr xs)
  | obj {fs : List (String × Value)} : (fs.map Prod.fst).Pairwise (· < ·) →
      (∀ p ∈ fs, SortedKeys p.2) → SortedKeys (.obj fs)

namespace Fields

variable {α : Type}

/-- An entry after inserting is the inserted one or an entry from before. -/
theorem mem_insert {k : String} {v : α} {p : String × α} :
    ∀ {l : List (String × α)}, p ∈ insert k v l → p = (k, v) ∨ p ∈ l
  | [], h => by simpa [insert] using h
  | (k', w) :: rest, h => by
    unfold insert at h
    split at h
    · rcases List.mem_cons.1 h with rfl | h
      · exact .inl rfl
      · exact .inr h
    · split at h
      · rcases List.mem_cons.1 h with rfl | h
        · exact .inl rfl
        · exact .inr (List.mem_cons_of_mem _ h)
      · rcases List.mem_cons.1 h with rfl | h
        · exact .inr List.mem_cons_self
        · rcases mem_insert h with rfl | h
          · exact .inl rfl
          · exact .inr (List.mem_cons_of_mem _ h)

end Fields

namespace Value.SortedKeys

/-- Inserting a field with its keys in order into an object in key order keeps it so. -/
theorem insert {fs : List (String × Value)} (h : (Value.obj fs).SortedKeys) (k : String)
    {v : Value} (hv : v.SortedKeys) : (Value.obj (Fields.insert k v fs)).SortedKeys := by
  cases h with
  | obj hs hfs =>
    refine .obj (Fields.insert_sorted k v fs hs) fun p hp => ?_
    rcases Fields.mem_insert hp with rfl | hp
    · exact hv
    · exact hfs p hp

theorem nil : (Value.obj []).SortedKeys := .obj List.Pairwise.nil fun _ h => by cases h

/-- An object built from entries whose values have their keys in order has its keys in order. -/
theorem ofList {es : List (String × Value)} (h : ∀ p ∈ es, p.2.SortedKeys) :
    (Value.obj (Fields.ofList es)).SortedKeys := by
  -- the entries are inserted one by one into what the earlier ones built
  have hfold : ∀ (es acc : List (String × Value)), (∀ p ∈ es, p.2.SortedKeys) →
      (Value.obj acc).SortedKeys →
      (Value.obj (es.foldl (fun a p => Fields.insert p.1 p.2 a) acc)).SortedKeys := by
    intro es
    induction es with
    | nil => exact fun _ _ hacc => hacc
    | cons p rest ih =>
      intro acc hes hacc
      exact ih _ (fun q hq => hes q (List.mem_cons_of_mem _ hq))
        (hacc.insert p.1 (hes p List.mem_cons_self))
  exact hfold es [] h nil

/-- A field of an object in key order has its keys in order. -/
theorem field? {v x : Value} (h : v.SortedKeys) {k : String} (hk : v.field? k = some x) :
    x.SortedKeys := by
  cases h with
  | obj _ hfs => exact hfs (k, x) (Fields.mem_of_get? hk)
  | _ => cases hk

/-- The entries of a value in key order, or none when it is not an object, are in key order. -/
theorem entries_sorted {v : Value} (h : v.SortedKeys) :
    (((v.obj?).getD []).map Prod.fst).Pairwise (· < ·) := by
  cases h with
  | obj hs _ => exact hs
  | _ => exact List.Pairwise.nil

end Value.SortedKeys

/-- The default of an absent field has its keys in order. -/
theorem Shape.empty_sortedKeys (s : Shape) : s.empty.SortedKeys := by
  cases s <;> first | exact .null | exact Value.SortedKeys.nil

/-! ## Readings and what they return -/

namespace Scan

/-- Whatever the reading returns, from any cursor, has `P`. -/
def Ensures {α : Type} (x : Scan α) (P : α → Prop) : Prop :=
  ∀ c a c', StateT.run x c = .ok (a, c') → P a

section

variable {α β : Type} {P : α → Prop}

theorem ensures_pure {a : α} (h : P a) : Ensures (pure a : Scan α) P := by
  intro c b c' hb
  cases hb
  exact h

theorem ensures_any (x : Scan α) : Ensures x fun _ => True := fun _ _ _ _ => trivial

theorem Ensures.bind {x : Scan α} {f : α → Scan β} {Q : β → Prop} (hx : Ensures x P)
    (hf : ∀ a, P a → Ensures (f a) Q) : Ensures (x >>= f) Q := by
  intro c b c' hb
  rw [StateT.run_bind] at hb
  rcases h : StateT.run x c with e | ⟨a, c₁⟩
  · rw [h] at hb
    cases hb
  · rw [h] at hb
    exact hf a (hx c a c₁ h) c₁ b c' hb

theorem ensures_map {x : Scan α} {f : α → β} {Q : β → Prop} (h : ∀ a, Q (f a)) :
    Ensures (f <$> x) Q := by
  rw [← bind_pure_comp]
  exact (ensures_any x).bind fun a _ => ensures_pure (h a)

theorem ensures_throw (e : Error) : Ensures (throw e : Scan α) P := by
  intro c a c' h
  cases h

theorem ensures_failHere (p : Problem) : Ensures (failHere p : Scan α) P :=
  (ensures_any _).bind fun _ _ => ensures_throw _

theorem ensures_failAhead (p : Problem) : Ensures (failAhead p : Scan α) P :=
  (ensures_any _).bind fun _ _ => ensures_throw _

theorem ensures_ite {c : Prop} [Decidable c] {x y : Scan α} (hx : Ensures x P) (hy : Ensures y P) :
    Ensures (if c then x else y) P := by
  split
  · exact hx
  · exact hy

/-- Refusing a value of the wrong kind never returns: it reads the value ahead when it is a
literal, a number or a string, and then fails. -/
theorem ensures_invalidType (expected : String) : Ensures (invalidType expected : Scan α) P := by
  unfold invalidType
  refine (ensures_any _).bind fun b _ => ?_
  have hread : ∀ {γ δ : Type} (x : Scan γ) (y : Scan δ) (p : δ → Problem),
      Ensures (x >>= fun _ => y >>= fun d => failHere (p d)) P := fun x y p =>
    (ensures_any x).bind fun _ _ => (ensures_any y).bind fun _ _ => ensures_failHere _
  -- one branch for each kind of value the next character starts
  repeat' refine ensures_ite ?_ ?_
  · exact hread _ _ fun _ => _
  · exact hread _ _ fun _ => _
  · exact hread _ _ fun _ => _
  · exact hread _ _ _
  · exact (ensures_any _).bind fun _ _ => ensures_failHere _
  · exact hread _ _ _
  · exact ensures_failHere _
  · exact ensures_failHere _
  · exact ensures_failAhead _

end

/-! ## Values of any shape -/

/-- With this fuel, every value, array and object the value readers return has its keys in
order, given items and entries read before that have. -/
structure ValuesSorted (fuel : Nat) : Prop where
  readsValue : Ensures (value fuel) Value.SortedKeys
  readsItems : ∀ first acc, (∀ x ∈ acc, Value.SortedKeys x) →
    Ensures (items fuel first acc) fun xs => ∀ x ∈ xs, x.SortedKeys
  readsEntries : ∀ first acc, (∀ p ∈ acc, Value.SortedKeys p.2) →
    Ensures (entries fuel first acc) fun fs => ∀ p ∈ fs, p.2.SortedKeys

theorem valuesSorted_zero : ValuesSorted 0 where
  readsValue := by
    rw [value]
    exact ensures_failAhead _
  readsItems _ acc h := by
    rw [items]
    exact ensures_pure fun x hx => h x (List.mem_reverse.1 hx)
  readsEntries _ acc h := by
    rw [entries]
    exact ensures_pure fun p hp => h p (List.mem_reverse.1 hp)

section
variable {fuel : Nat}

theorem ensures_value_succ (h : ValuesSorted fuel) :
    Ensures (value (fuel + 1)) Value.SortedKeys := by
  rw [value]
  refine (ensures_any _).bind fun b _ => ?_
  rcases b with _ | b
  · exact ensures_failAhead _
  dsimp only
  repeat' refine ensures_ite ?_ ?_
  · exact (ensures_any _).bind fun _ _ => (ensures_any _).bind fun _ _ => ensures_pure .null
  · exact (ensures_any _).bind fun _ _ =>
      (ensures_any _).bind fun _ _ => ensures_pure (.bool true)
  · exact (ensures_any _).bind fun _ _ =>
      (ensures_any _).bind fun _ _ => ensures_pure (.bool false)
  · exact (ensures_any _).bind fun _ _ => ensures_map .num
  · exact ensures_map .num
  · exact (ensures_any _).bind fun _ _ => ensures_map .str
  · -- an array: its items, then the closing bracket
    refine (ensures_any _).bind fun _ _ => (ensures_any _).bind fun _ _ => ?_
    refine (h.readsItems true [] (by simp)).bind fun xs hxs => ?_
    exact (ensures_any _).bind fun _ _ =>
      (ensures_any _).bind fun _ _ => ensures_pure (.arr hxs)
  · -- an object: its entries, then the closing brace
    refine (ensures_any _).bind fun _ _ => (ensures_any _).bind fun _ _ => ?_
    refine (h.readsEntries true [] (by simp)).bind fun fs hfs => ?_
    exact (ensures_any _).bind fun _ _ =>
      (ensures_any _).bind fun _ _ => ensures_pure (.ofList hfs)
  · exact ensures_failAhead _

theorem ensures_items_succ (h : ValuesSorted fuel) (first : Bool) (acc : List Value)
    (hacc : ∀ x ∈ acc, x.SortedKeys) :
    Ensures (items (fuel + 1) first acc) fun xs => ∀ x ∈ xs, x.SortedKeys := by
  rw [items]
  refine (ensures_any _).bind fun b _ => ?_
  rcases b with _ | b
  · exact ensures_pure fun x hx => hacc x (List.mem_reverse.1 hx)
  · exact h.readsValue.bind fun v hv =>
      h.readsItems false (v :: acc) (List.forall_mem_cons.2 ⟨hv, hacc⟩)

theorem ensures_entries_succ (h : ValuesSorted fuel) (first : Bool) (acc : List (String × Value))
    (hacc : ∀ p ∈ acc, p.2.SortedKeys) :
    Ensures (entries (fuel + 1) first acc) fun fs => ∀ p ∈ fs, p.2.SortedKeys := by
  rw [entries]
  refine (ensures_any _).bind fun k _ => ?_
  rcases k with _ | k
  · exact ensures_pure fun p hp => hacc p (List.mem_reverse.1 hp)
  · exact (ensures_any _).bind fun _ _ => h.readsValue.bind fun v hv =>
      h.readsEntries false ((k, v) :: acc) (List.forall_mem_cons.2 ⟨hv, hacc⟩)

theorem ValuesSorted.succ (h : ValuesSorted fuel) : ValuesSorted (fuel + 1) where
  readsValue := ensures_value_succ h
  readsItems := ensures_items_succ h
  readsEntries := ensures_entries_succ h

end

theorem valuesSorted : ∀ fuel, ValuesSorted fuel
  | 0 => valuesSorted_zero
  | fuel + 1 => (valuesSorted fuel).succ

/-! ## Values read against a shape -/

theorem ensures_flag : Ensures flag Value.SortedKeys := by
  unfold flag
  refine (ensures_any _).bind fun b _ => ?_
  rcases b with _ | b
  · exact ensures_failAhead _
  dsimp only
  split_ifs
  · exact (ensures_any _).bind fun _ _ =>
      (ensures_any _).bind fun _ _ => ensures_pure (.bool true)
  · exact (ensures_any _).bind fun _ _ =>
      (ensures_any _).bind fun _ _ => ensures_pure (.bool false)
  · exact ensures_invalidType _

theorem ensures_count : Ensures count Value.SortedKeys := by
  unfold count
  refine (ensures_any _).bind fun b _ => ?_
  rcases b with _ | b
  · exact ensures_failAhead _
  dsimp -zeta only
  -- the number ahead, read in one of three ways, and then checked
  extract_lets check
  have hcheck : ∀ n, Ensures (check n) Value.SortedKeys := fun n => by
    rcases n with k | i | x
    · exact ensures_pure (.num _)
    · exact ensures_failHere _
    · exact ensures_failHere _
  split_ifs
  · exact (ensures_any _).bind fun _ _ => (ensures_any _).bind fun n _ => hcheck n
  · exact (ensures_any _).bind fun n _ => hcheck n
  · exact (ensures_any _).bind fun n _ => hcheck n

theorem ensures_choice (names : List String) : Ensures (choice names) Value.SortedKeys := by
  unfold choice
  refine (ensures_any _).bind fun b _ => ?_
  rcases b with _ | b
  · exact ensures_failAhead _
  dsimp only
  split_ifs
  · exact ensures_map .str
  · -- the name as the key of an object, with `null` for its value
    refine (ensures_any _).bind fun _ _ => (ensures_any _).bind fun _ _ => ?_
    refine (ensures_any _).bind fun s _ => (ensures_any _).bind fun _ _ => ?_
    refine (ensures_any _).bind fun _ _ => (ensures_any _).bind fun _ _ => ?_
    refine (ensures_any _).bind fun c _ => ?_
    rcases c with _ | c
    · exact ensures_failHere _
    · dsimp only
      split_ifs
      · exact (ensures_any _).bind fun _ _ => ensures_pure (.str s)
      · exact ensures_failHere _
  · exact ensures_failAhead _

/-- A fold that fails or keeps an invariant at each step ends with the invariant. -/
theorem foldlM_invariant {ε σ τ : Type} (I : σ → Prop) {step : σ → τ → Except ε σ}
    (hstep : ∀ a t a', I a → step a t = .ok a' → I a') :
    ∀ (ts : List τ) (a out : σ), I a → ts.foldlM step a = .ok out → I out
  | [], a, out, ha, h => by
    cases h
    exact ha
  | t :: ts, a, out, ha, h => by
    rw [List.foldlM_cons] at h
    rcases hs : step a t with e | a'
    · rw [hs] at h
      cases h
    · rw [hs] at h
      exact foldlM_invariant I hstep ts a' out (hstep a t a' ha hs) h

/-- A record once read holds its keys in order: the absent fields are inserted with their
defaults into the fields read. -/
theorem sortedKeys_complete (fields : List (String × Bool × Shape)) {got : List (String × Value)}
    (h : (Value.obj got).SortedKeys) {v : Value} (hv : Shape.complete fields got = .ok v) :
    v.SortedKeys := by
  unfold Shape.complete at hv
  dsimp only at hv
  rcases hr : List.foldlM (m := Except Problem) _ got fields with p | out
  · rw [hr] at hv
    cases hv
  rw [hr] at hv
  cases hv
  -- each field leaves the fields so far in key order, or fails
  refine foldlM_invariant (fun acc => (Value.obj acc).SortedKeys) (fun acc f acc' hacc hs => ?_)
    fields got out h hr
  split at hs
  · cases hs
    exact hacc
  · split at hs
    · cases hs
    · cases hs
      exact hacc.insert f.1 f.2.2.empty_sortedKeys

/-- With this fuel, every value the shaped readers return has its keys in order, given the
entries and fields read before that have. -/
structure ShapedSorted (fuel : Nat) : Prop where
  readsShaped : ∀ s, Ensures (shaped fuel s) Value.SortedKeys
  readsTable : ∀ keys entry first acc, (∀ p ∈ acc, Value.SortedKeys p.2) →
    Ensures (tableEntries fuel keys entry first acc) fun fs => ∀ p ∈ fs, p.2.SortedKeys
  readsRecord : ∀ fields first got, (Value.obj got).SortedKeys →
    Ensures (recordEntries fuel fields first got) fun r => ∀ v, r = .ok v → v.SortedKeys
  readsRecordItems : ∀ rname total fields first i got, (Value.obj got).SortedKeys →
    Ensures (recordItems fuel rname total fields first i got) fun r =>
      ∀ v, r = .ok v → v.SortedKeys

theorem shapedSorted_zero : ShapedSorted 0 where
  readsShaped _ := by
    rw [shaped]
    exact ensures_failAhead _
  readsTable _ _ _ _ _ := by
    rw [tableEntries]
    exact ensures_failAhead _
  readsRecord _ _ _ _ := by
    rw [recordEntries]
    exact ensures_failAhead _
  readsRecordItems _ _ _ _ _ _ _ := by
    rw [recordItems]
    exact ensures_failAhead _

section
variable {fuel : Nat}

theorem ensures_shaped_succ (h : ShapedSorted fuel) (s : Shape) :
    Ensures (shaped (fuel + 1) s) Value.SortedKeys := by
  cases s with
  | flag =>
    rw [shaped]
    exact ensures_flag
  | count =>
    rw [shaped]
    exact ensures_count
  | text =>
    rw [shaped]
    exact ensures_map .str
  | any =>
    rw [shaped]
    exact (ensures_any _).bind fun _ _ => (valuesSorted _).readsValue
  | choice names =>
    rw [shaped]
    exact ensures_choice names
  | optional item =>
    rw [shaped]
    refine (ensures_any _).bind fun b _ => ?_
    split
    · exact (ensures_any _).bind fun _ _ => (ensures_any _).bind fun _ _ => ensures_pure .null
    · exact h.readsShaped item
  | table keys entry =>
    rw [shaped]
    refine (ensures_any _).bind fun b _ => ?_
    rcases b with _ | b
    · exact ensures_failAhead _
    dsimp only
    split
    · refine (ensures_any _).bind fun _ _ => (ensures_any _).bind fun _ _ => ?_
      refine (h.readsTable keys entry true [] (by simp)).bind fun fs hfs => ?_
      exact (ensures_any _).bind fun _ _ =>
        (ensures_any _).bind fun _ _ => ensures_pure (.ofList hfs)
    · exact ensures_invalidType _
  | record rname fields =>
    rw [shaped]
    refine (ensures_any _).bind fun b _ => ?_
    rcases b with _ | b
    · exact ensures_failAhead _
    dsimp only
    -- written as an array or as an object; its problem is raised after its closing bracket
    split_ifs
    · refine (ensures_any _).bind fun _ _ => (ensures_any _).bind fun _ _ => ?_
      refine (h.readsRecordItems rname fields.length fields true 0 [] .nil).bind
        fun r hr => (ensures_any _).bind fun _ _ => ?_
      rcases r with p | v
      · exact (ensures_any _).bind fun _ _ => ensures_failHere _
      · exact (ensures_any _).bind fun _ _ => ensures_pure (hr v rfl)
    · refine (ensures_any _).bind fun _ _ => (ensures_any _).bind fun _ _ => ?_
      refine (h.readsRecord fields true [] .nil).bind fun r hr => (ensures_any _).bind fun _ _ => ?_
      rcases r with p | v
      · exact (ensures_any _).bind fun _ _ => ensures_failHere _
      · exact (ensures_any _).bind fun _ _ => ensures_pure (hr v rfl)
    · exact ensures_invalidType _

theorem ensures_tableEntries_succ (h : ShapedSorted fuel) (keys : Option (List String))
    (entry : Shape) (first : Bool) (acc : List (String × Value))
    (hacc : ∀ p ∈ acc, p.2.SortedKeys) :
    Ensures (tableEntries (fuel + 1) keys entry first acc) fun fs =>
      ∀ p ∈ fs, p.2.SortedKeys := by
  rw [tableEntries]
  refine (ensures_any _).bind fun k _ => ?_
  rcases k with _ | k
  · exact ensures_pure fun p hp => hacc p (List.mem_reverse.1 hp)
  · refine (ensures_any _).bind fun _ _ => (ensures_any _).bind fun _ _ => ?_
    exact (h.readsShaped entry).bind fun v hv =>
      h.readsTable keys entry false ((k, v) :: acc) (List.forall_mem_cons.2 ⟨hv, hacc⟩)

theorem ensures_recordEntries_succ (h : ShapedSorted fuel) (fields : List (String × Bool × Shape))
    (first : Bool) (got : List (String × Value)) (hgot : (Value.obj got).SortedKeys) :
    Ensures (recordEntries (fuel + 1) fields first got) fun r =>
      ∀ v, r = .ok v → v.SortedKeys := by
  rw [recordEntries]
  refine (ensures_any _).bind fun k _ => ?_
  rcases k with _ | k
  · exact ensures_pure fun v hv => sortedKeys_complete fields hgot hv
  dsimp only
  split
  · -- a known field: refused when written twice, else read and inserted
    split
    · exact ensures_pure fun v hv => by cases hv
    · exact (ensures_any _).bind fun _ _ => (h.readsShaped _).bind fun v hv =>
        h.readsRecord fields false _ (hgot.insert k hv)
  · -- an unknown field is skipped
    exact (ensures_any _).bind fun _ _ => (ensures_any _).bind fun _ _ =>
      h.readsRecord fields false got hgot

theorem ensures_recordItems_succ (h : ShapedSorted fuel) (rname : String) (total : Nat)
    (fields : List (String × Bool × Shape)) (first : Bool) (i : Nat)
    (got : List (String × Value))
    (hgot : (Value.obj got).SortedKeys) :
    Ensures (recordItems (fuel + 1) rname total fields first i got) fun r =>
      ∀ v, r = .ok v → v.SortedKeys := by
  cases fields with
  | nil =>
    rw [recordItems]
    exact ensures_pure fun v hv => by
      cases hv
      exact hgot
  | cons f rest =>
    obtain ⟨fname, required, s⟩ := f
    rw [recordItems]
    refine (ensures_any _).bind fun b _ => ?_
    rcases b with _ | b
    · -- no more values: a required field is missing, an optional one takes its default
      dsimp only
      split
      · exact ensures_pure fun v hv => by cases hv
      · exact h.readsRecordItems rname total rest first (i + 1) _
          (hgot.insert fname s.empty_sortedKeys)
    · exact (h.readsShaped s).bind fun v hv =>
        h.readsRecordItems rname total rest false (i + 1) _ (hgot.insert fname hv)

theorem ShapedSorted.succ (h : ShapedSorted fuel) : ShapedSorted (fuel + 1) where
  readsShaped := ensures_shaped_succ h
  readsTable := ensures_tableEntries_succ h
  readsRecord := ensures_recordEntries_succ h
  readsRecordItems := ensures_recordItems_succ h

end

theorem shapedSorted : ∀ fuel, ShapedSorted fuel
  | 0 => shapedSorted_zero
  | fuel + 1 => (shapedSorted fuel).succ

/-! ## Whole texts -/

/-- What a reading run on a text returns has what the reading ensures. -/
theorem Ensures.of_run {α : Type} {x : Scan α} {P : α → Prop} (hx : Ensures x P)
    {text : String} {a : α} (h : Scan.run x text = .ok a) : P a := by
  unfold Scan.run at h
  rcases hr : StateT.run x ⟨text.toUTF8, 0, 128⟩ with e | ⟨a', c'⟩
  · rw [hr] at h
    cases h
  · rw [hr] at h
    cases h
    exact hx _ a' c' hr

theorem ensures_document : Ensures document Value.SortedKeys :=
  (ensures_any _).bind fun _ _ => (valuesSorted _).readsValue.bind fun _ hv =>
    (ensures_any _).bind fun _ _ => ensures_pure hv

theorem ensures_shapedDocument (shape : Shape) : Ensures (shapedDocument shape) Value.SortedKeys :=
  (ensures_any _).bind fun _ _ => ((shapedSorted _).readsShaped shape).bind fun _ hv =>
    (ensures_any _).bind fun _ _ => ensures_pure hv

end Scan

/-- Every object of a parsed text has its keys in strictly increasing order, at every depth. -/
theorem Value.parse_sortedKeys {text : String} {v : Value} (h : Value.parse text = .ok v) :
    v.SortedKeys :=
  Scan.ensures_document.of_run h

/-- Every object of a text read against a shape has its keys in strictly increasing order, at
every depth. -/
theorem Shape.ofText_sortedKeys {shape : Shape} {text : String} {v : Value}
    (h : shape.ofText text = .ok v) : v.SortedKeys :=
  (Scan.ensures_shapedDocument shape).of_run h

end Json

open Json

theorem CacheDecl.tableOfNormal_keys (v : Value) :
    (CacheDecl.tableOfNormal v).map Prod.fst = ((v.obj?).getD []).map Prod.fst := by
  unfold CacheDecl.tableOfNormal
  rw [List.map_map]
  rfl

/-- The caches a value in key order declares, the entries of its `caches` table or none when it
has none, are in strictly increasing name order. -/
theorem CacheDecl.tableOfNormal_caches_sorted {v : Value} (hv : v.SortedKeys) :
    ((CacheDecl.tableOfNormal ((v.field? "caches").getD (.obj []))).map Prod.fst).Pairwise
      (· < ·) := by
  have hc : ((v.field? "caches").getD (.obj [])).SortedKeys := by
    rcases hf : v.field? "caches" with _ | x
    · exact .nil
    · exact hv.field? hf
  rw [CacheDecl.tableOfNormal_keys]
  exact hc.entries_sorted

/-- The caches a document's base section declares are in strictly increasing name order. -/
theorem Document.parse_caches_sorted {text : String} {doc : Document}
    (h : Document.parse text = .ok doc) : (doc.caches.map Prod.fst).Pairwise (· < ·) := by
  unfold Document.parse at h
  split at h
  · rename_i v hv
    cases h
    exact CacheDecl.tableOfNormal_caches_sorted (Shape.ofText_sortedKeys hv)
  · cases h

/-- The caches a section read from a text declares are in strictly increasing name order. -/
theorem Section.parse_sorted {source text : String} {ds : Declarations}
    (h : Section.parse source text = .ok ds) : (ds.map Prod.fst).Pairwise (· < ·) := by
  unfold Section.parse at h
  split at h
  · rename_i v hv
    cases h
    exact CacheDecl.tableOfNormal_caches_sorted (Shape.ofText_sortedKeys hv)
  · cases h

/-- Every source loads its declarations in strictly increasing name order. -/
theorem Source.load_sorted {files : Files} {s : Source} {ds : Declarations}
    (h : s.load files = .ok ds) : (ds.map Prod.fst).Pairwise (· < ·) := by
  unfold Source.load at h
  split at h
  · rename_i t _
    cases h
    exact t.sorted
  · exact Section.parse_sorted h
  · -- a file is read as a text, or fails
    split at h
    · exact Section.parse_sorted h
    · cases h

end NamedCaches
