set_option autoImplicit false
/-!
# JSON values

A JSON document as this library keeps it. A number is kept in the form a reader gives it: an
integer that fits 64 unsigned bits, a negative integer that fits 64 signed bits, or else a
double. An object keeps one entry per key, in increasing key order; a later entry for a key
replaces an earlier one.
-/

namespace NamedCaches.Json

/-- A JSON number as read: `nat` below `2^64`, `neg` from `-2^63` to `-1`, `float` otherwise. -/
inductive Number where
  | nat (n : Nat)
  | neg (i : Int)
  | float (x : Float)
  deriving Inhabited

/-- A JSON value. Object entries are in increasing key order with distinct keys. -/
inductive Value where
  | null
  | bool (b : Bool)
  | num (n : Number)
  | str (s : String)
  | arr (items : List Value)
  | obj (fields : List (String × Value))
  deriving Inhabited

namespace Fields

/-- Sets `key` to `v` in a key-ordered entry list, replacing an entry of that key. -/
def insert {α : Type} (key : String) (v : α) : List (String × α) → List (String × α)
  | [] => [(key, v)]
  | (k, w) :: rest =>
    if key < k then (key, v) :: (k, w) :: rest
    else if key = k then (key, v) :: rest
    else (k, w) :: insert key v rest

/-- The entry for `key`, if any. -/
def get? {α : Type} (key : String) : List (String × α) → Option α
  | [] => none
  | (k, w) :: rest => if key = k then some w else get? key rest

/-- Builds a key-ordered entry list from entries in any order; a later entry for a key wins. -/
def ofList {α : Type} (entries : List (String × α)) : List (String × α) :=
  entries.foldl (fun acc (k, v) => insert k v acc) []

theorem mem_keys_insert {α : Type} (k x : String) (v : α) :
    ∀ l : List (String × α), x ∈ (insert k v l).map Prod.fst → x = k ∨ x ∈ l.map Prod.fst
  | [] => by simp [insert]
  | (k', v') :: rest => by
    unfold insert
    split
    · simp only [List.map_cons, List.mem_cons]
      exact id
    · split
      · simp only [List.map_cons, List.mem_cons]
        rintro (hx | hx)
        · exact .inl hx
        · exact .inr (.inr hx)
      · simp only [List.map_cons, List.mem_cons]
        rintro (hx | hx)
        · exact .inr (.inl hx)
        · rcases mem_keys_insert k x v rest hx with hx | hx
          · exact .inl hx
          · exact .inr (.inr hx)

/-- Inserting keeps a table in key order. -/
theorem insert_sorted {α : Type} (k : String) (v : α) :
    ∀ l : List (String × α), (l.map Prod.fst).Pairwise (· < ·) →
      ((insert k v l).map Prod.fst).Pairwise (· < ·)
  | [] => fun _ => by simp [insert]
  | (k', v') :: rest => fun h => by
    rw [List.map_cons, List.pairwise_cons] at h
    obtain ⟨hk', hrest⟩ := h
    unfold insert
    split
    · rename_i hlt
      rw [List.map_cons, List.pairwise_cons, List.map_cons, List.pairwise_cons]
      refine ⟨fun x hx => ?_, hk', hrest⟩
      rcases List.mem_cons.1 hx with rfl | hx
      · exact hlt
      · exact String.lt_trans hlt (hk' x hx)
    · split
      · rename_i _ heq
        subst heq
        rw [List.map_cons, List.pairwise_cons]
        exact ⟨hk', hrest⟩
      · rename_i hnlt hne
        -- `k` is neither below nor equal to `k'`, so it sorts after it
        have hgt : k' < k := Std.lt_of_le_of_ne hnlt (Ne.symm hne)
        rw [List.map_cons, List.pairwise_cons]
        refine ⟨fun x hx => ?_, insert_sorted k v rest hrest⟩
        rcases mem_keys_insert k x v rest hx with rfl | hx
        · exact hgt
        · exact hk' x hx

/-- A table built from entries in any order is in key order. -/
theorem ofList_sorted {α : Type} (entries : List (String × α)) :
    ((ofList entries).map Prod.fst).Pairwise (· < ·) := by
  -- each entry is inserted into a table the earlier ones left in key order
  have hfold : ∀ (es acc : List (String × α)), (acc.map Prod.fst).Pairwise (· < ·) →
      ((es.foldl (fun acc (k, v) => insert k v acc) acc).map Prod.fst).Pairwise (· < ·) := by
    intro es
    induction es with
    | nil => exact fun _ hacc => hacc
    | cons e rest ih => exact fun acc hacc => ih _ (insert_sorted e.1 e.2 acc hacc)
  exact hfold entries [] List.Pairwise.nil

end Fields

namespace Value

/-- An object built from entries in any order; a later entry for a key wins. -/
def object (entries : List (String × Value)) : Value := .obj (Fields.ofList entries)

/-- A string value, or `null` for none. -/
def ofOption (s : Option String) : Value := match s with
  | some t => .str t
  | none => .null

/-- A natural number as a JSON integer. -/
def ofNat (n : Nat) : Value := .num (.nat n)

/-- The value of a field of an object. -/
def field? (v : Value) (key : String) : Option Value := match v with
  | .obj fs => Fields.get? key fs
  | _ => none

/-- The text of a string value. -/
def str? : Value → Option String
  | .str s => some s
  | _ => none

/-- The truth value of a boolean value. -/
def bool? : Value → Option Bool
  | .bool b => some b
  | _ => none

/-- The items of an array value. -/
def arr? : Value → Option (List Value)
  | .arr xs => some xs
  | _ => none

/-- The entries of an object value. -/
def obj? : Value → Option (List (String × Value))
  | .obj fs => some fs
  | _ => none

/-- The number of an integer value that fits 64 unsigned bits. -/
def nat? : Value → Option Nat
  | .num (.nat n) => some n
  | _ => none

/-- The text of a string field of an object. -/
def text? (v : Value) (key : String) : Option String := (v.field? key).bind str?

end Value

end NamedCaches.Json
