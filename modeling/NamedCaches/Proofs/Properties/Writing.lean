import NamedCaches.Proofs.Properties.Reading
set_option autoImplicit false
/-!
# Writing properties out

Properties written as a text, `key=value` for each entry in any order, joined by a delimiter (or
by `;` when it is absent or empty), read back as the same properties, provided that writing
loses nothing: keys are not blank and hold no `=`, keys and values have no blank at either end,
and the delimiter cannot be taken for part of an entry (`Delimits`).

The pieces of such a text are the written entries (`pieces_join`). A non-empty delimiter is cut
at its leftmost occurrences; as its first character occurs in no entry, it is found only where
it was written (`splitOn_intercalate`). The cut at every `;` and `,` is the library's
`List.splitOnP` (`splitWhere_eq_splitOnP`). Each written entry reads as itself
(`reads_written`), so the last piece read with a key is the one entry of that key.
-/

namespace NamedCaches

namespace Properties

/-! ## Cutting at a delimiter -/

theorem isPrefixOf_of_head_not_mem {sep : List Char} (hsep : 0 < sep.length) {c : Char}
    {rest : List Char} (h : ∀ s ∈ sep.head?, s ≠ c) : sep.isPrefixOf (c :: rest) = false := by
  cases sep with
  | nil => simp at hsep
  | cons s sep' => simp [List.isPrefixOf, h s rfl]

section
variable {sep : List Char} {hsep : 0 < sep.length}

/-- A text that does not hold the separator's first character is one piece. -/
theorem splitOn_of_head_not_mem :
    ∀ {xs acc : List Char}, (∀ s ∈ sep.head?, s ∉ xs) → splitOn sep hsep xs acc = [acc ++ xs]
  | [], acc, _ => by simp [splitOn]
  | c :: rest, acc, h => by
    rw [splitOn, isPrefixOf_of_head_not_mem hsep fun s hs he =>
      h s hs (he ▸ List.mem_cons_self), if_neg Bool.false_ne_true,
      splitOn_of_head_not_mem fun s hs hr => h s hs (List.mem_cons_of_mem _ hr)]
    simp

/-- A piece that does not hold the separator's first character ends where the separator
stands. -/
theorem splitOn_append_sep (rest : List Char) :
    ∀ {xs acc : List Char}, (∀ s ∈ sep.head?, s ∉ xs) →
      splitOn sep hsep (xs ++ sep ++ rest) acc = (acc ++ xs) :: splitOn sep hsep rest []
  | [], acc, _ => by
    obtain ⟨s, sep', rfl⟩ := List.exists_cons_of_length_pos hsep
    rw [List.nil_append, List.cons_append, splitOn, if_pos (by simp [List.isPrefixOf_iff_prefix])]
    simp
  | c :: xs, acc, h => by
    rw [List.cons_append, List.cons_append, splitOn,
      isPrefixOf_of_head_not_mem hsep fun s hs he => h s hs (he ▸ List.mem_cons_self),
      if_neg Bool.false_ne_true,
      splitOn_append_sep rest fun s hs hx => h s hs (List.mem_cons_of_mem _ hx)]
    simp

/-- Pieces that do not hold the separator's first character, joined by the separator, are cut
back into the same pieces. -/
theorem splitOn_intercalate :
    ∀ {ls : List (List Char)}, ls ≠ [] → (∀ l ∈ ls, ∀ s ∈ sep.head?, s ∉ l) →
      splitOn sep hsep (sep.intercalate ls) [] = ls
  | [], hne, _ => absurd rfl hne
  | [l], _, h => by
    rw [List.intercalate_singleton, splitOn_of_head_not_mem (h l List.mem_cons_self)]
    simp
  | l :: l' :: rest, _, h => by
    rw [List.intercalate_cons_cons, List.append_assoc,
      ← List.append_assoc l sep, splitOn_append_sep _ (h l List.mem_cons_self),
      splitOn_intercalate (List.cons_ne_nil _ _) fun l'' hl'' => h l'' (List.mem_cons_of_mem _ hl'')]
    simp

end

theorem modifyHead_fun_id {α : Type} (l : List α) : l.modifyHead (fun x => x) = l := by
  cases l <;> rfl

/-- Cutting at every character that passes a test is the library's `List.splitOnP`, with the
open piece in front of the first. -/
theorem splitWhere_eq_splitOnP (p : Char → Bool) :
    ∀ (cs acc : List Char), splitWhere p cs acc = (cs.splitOnP p).modifyHead (acc ++ ·)
  | [], acc => by simp [splitWhere]
  | c :: rest, acc => by
    rw [splitWhere, List.splitOnP_cons_eq_if_modifyHead]
    by_cases hc : p c
    · simp [hc, splitWhere_eq_splitOnP p rest [], modifyHead_fun_id]
    · simp [hc, splitWhere_eq_splitOnP p rest (acc ++ [c]), List.modifyHead_modifyHead,
        Function.comp_def]

/-- The pieces of a text cut at every `;` and `,`. -/
theorem pieces_default (t : String) :
    pieces t none = (t.toList.splitOnP isDefaultDelimiter).map String.ofList := by
  simp [pieces, splitWhere_eq_splitOnP, modifyHead_fun_id]

/-- An empty delimiter is no delimiter. -/
theorem pieces_empty_delimiter (t : String) : pieces t (some "") = pieces t none := rfl

/-- Pieces without a separating character, joined by one, are cut back into the same pieces. -/
theorem splitOnP_intercalate {p : Char → Bool} {c : Char} (hc : p c = true) :
    ∀ {ls : List (List Char)}, ls ≠ [] → (∀ l ∈ ls, ∀ x ∈ l, p x = false) →
      ([c].intercalate ls).splitOnP p = ls
  | [], hne, _ => absurd rfl hne
  | [l], _, h => by
    rw [List.intercalate_singleton, List.splitOnP_eq_singleton (h l List.mem_cons_self)]
  | l :: l' :: rest, _, h => by
    rw [List.intercalate_cons_cons, List.append_assoc, List.singleton_append,
      List.splitOnP_append_cons_of_forall_mem (h l List.mem_cons_self) c hc,
      splitOnP_intercalate hc (List.cons_ne_nil _ _) fun l'' hl'' =>
        h l'' (List.mem_cons_of_mem _ hl'')]

/-! ## Written entries -/

/-- An entry written out as `key=value`. -/
def written (e : String × String) : String := e.1 ++ "=" ++ e.2

/-- The delimiter entries are written apart with: the given one, or `;` when it is absent or
empty. -/
def writtenDelimiter (d : Option String) : String :=
  match d with
  | some s => if s = "" then ";" else s
  | none => ";"

/-- Entries written out in the order given, joined by the delimiter. -/
def join (es : List (String × String)) (d : Option String) : String :=
  (writtenDelimiter d).intercalate (es.map written)

/-- None of the characters occurs in a key or a value. -/
def Apart (cs : List Char) (es : List (String × String)) : Prop :=
  ∀ c ∈ cs, ∀ e ∈ es, c ∉ e.1.toList ∧ c ∉ e.2.toList

-- decided by looking through the entries, not by a search over characters
instance (cs : List Char) (es : List (String × String)) : Decidable (Apart cs es) :=
  decidable_of_iff (cs.all fun c => es.all fun e => !e.1.toList.contains c && !e.2.toList.contains c)
    (by simp [Apart])

/-- The delimiter keeps written entries apart: when it is absent or empty, no key or value holds
a `;` or a `,`; otherwise it holds no `=`, and none of its characters occurs in a key or a
value. -/
def Delimits (d : Option String) (es : List (String × String)) : Prop :=
  match d with
  | some s => if s = "" then Apart [';', ','] es else '=' ∉ s.toList ∧ Apart s.toList es
  | none => Apart [';', ','] es

instance (d : Option String) (es : List (String × String)) : Decidable (Delimits d es) :=
  match d with
  | some s => inferInstanceAs (Decidable (if s = "" then _ else _))
  | none => inferInstanceAs (Decidable (Apart [';', ','] es))

/-- An entry fit to be written: its key is not blank and holds no `=`, and neither its key nor
its value has a blank at either end. -/
structure Writable (e : String × String) : Prop where
  key_ne : e.1 ≠ ""
  eq_not_mem_key : '=' ∉ e.1.toList
  key_trimmed : Text.Trimmed e.1.toList
  value_trimmed : Text.Trimmed e.2.toList

instance (e : String × String) : Decidable (Writable e) :=
  decidable_of_iff (e.1 ≠ "" ∧ '=' ∉ e.1.toList ∧ Text.Trimmed e.1.toList ∧ Text.Trimmed e.2.toList)
    ⟨fun ⟨h₁, h₂, h₃, h₄⟩ => ⟨h₁, h₂, h₃, h₄⟩, fun h => ⟨h.1, h.2, h.3, h.4⟩⟩

theorem toList_written (e : String × String) :
    (written e).toList = e.1.toList ++ '=' :: e.2.toList := by
  simp [written]

/-- What a written entry holds: the key's characters, `=` and the value's characters. -/
theorem mem_written {e : String × String} {c : Char} :
    c ∈ (written e).toList ↔ c ∈ e.1.toList ∨ c = '=' ∨ c ∈ e.2.toList := by
  simp [toList_written]

namespace Writable

variable {e : String × String} (h : Writable e)
include h

/-- A writable entry written out has no blank at either end. -/
theorem trimmed_written : Text.Trimmed (written e).toList := by
  obtain ⟨c, cs, hc⟩ := List.exists_cons_of_ne_nil (mt String.toList_eq_nil_iff.1 h.key_ne)
  refine ⟨fun x hx => ?_, fun x hx => ?_⟩
  · rw [toList_written, hc, List.cons_append, List.head?_cons, Option.mem_some_iff] at hx
    exact h.key_trimmed.1 x (by rw [hc, ← hx]; rfl)
  · -- the last character is the value's, or `=` when the value is empty
    rw [toList_written, List.getLast?_append, List.getLast?_cons] at hx
    cases hl : e.2.toList.getLast? with
    | none =>
      rw [hl] at hx
      simp only [Option.getD_none, Option.some_or, Option.mem_some_iff] at hx
      rw [← hx]
      decide
    | some y =>
      rw [hl] at hx
      simp only [Option.getD_some, Option.some_or, Option.mem_some_iff] at hx
      exact hx ▸ h.value_trimmed.2 y hl

/-- A writable entry written out reads as itself. -/
theorem reads_written : Reads (written e) e.1 e.2 :=
  ⟨e.1.toList, e.2.toList,
    by rw [Text.trim_of_trimmed h.trimmed_written, toList_written]; exact ⟨rfl, h.eq_not_mem_key⟩,
    by rw [String.ofList_toList, Text.trim_of_trimmed h.key_trimmed], h.key_ne,
    by rw [String.ofList_toList, Text.trim_of_trimmed h.value_trimmed]⟩

theorem reads_written_iff {k v : String} : Reads (written e) k v ↔ k = e.1 ∧ v = e.2 :=
  ⟨fun hr => hr.unique h.reads_written, fun ⟨hk, hv⟩ => hk ▸ hv ▸ h.reads_written⟩

end Writable

/-- Among writable entries with distinct keys, written out, the last piece read with a key is
its entry. -/
theorem lastReads_written_iff {es : List (String × String)} (hw : ∀ e ∈ es, Writable e)
    (hnd : (es.map Prod.fst).Nodup) {k v : String} :
    LastReads (es.map written) k v ↔ (k, v) ∈ es := by
  constructor
  · rintro ⟨pre, p, post, hsplit, hp, -⟩
    have hmem : p ∈ es.map written := hsplit ▸ List.mem_append_right pre List.mem_cons_self
    obtain ⟨e, he, rfl⟩ := List.mem_map.1 hmem
    obtain ⟨rfl, rfl⟩ := ((hw e he).reads_written_iff).1 hp
    exact he
  · intro hkv
    obtain ⟨pre, post, rfl⟩ := List.append_of_mem hkv
    refine ⟨pre.map written, written (k, v), post.map written, by simp,
      (hw _ hkv).reads_written, fun q hq v' hr => ?_⟩
    -- a later entry read with `k` would repeat the key
    obtain ⟨e, he, rfl⟩ := List.mem_map.1 hq
    have hke : k = e.1 :=
      ((hw e (List.mem_append_right _ (List.mem_cons_of_mem _ he))).reads_written_iff.1 hr).1
    rw [List.map_append, List.map_cons, List.nodup_append, List.nodup_cons] at hnd
    exact hnd.2.1.1 (List.mem_map.2 ⟨e, he, hke.symm⟩)

/-- Texts without `;` and `,`, joined by `;`, are cut back into the same texts. -/
theorem pieces_intercalate_default {ls : List String} (hne : ls ≠ [])
    (h : ∀ l ∈ ls, ∀ x ∈ l.toList, isDefaultDelimiter x = false) :
    pieces (";".intercalate ls) none = ls := by
  rw [pieces_default, String.toList_intercalate,
    show (";" : String).toList = [';'] from rfl,
    splitOnP_intercalate (show isDefaultDelimiter ';' = true by decide) (by simpa using hne)
      (by simpa using h)]
  simp [Function.comp_def]

/-- Texts without the first character of a non-empty delimiter, joined by it, are cut back into
the same texts. -/
theorem pieces_intercalate {s : String} (hs : s ≠ "") {ls : List String} (hne : ls ≠ [])
    (h : ∀ l ∈ ls, ∀ c ∈ s.toList.head?, c ∉ l.toList) :
    pieces (s.intercalate ls) (some s) = ls := by
  have hlen : 0 < s.toList.length :=
    List.length_pos_of_ne_nil (mt String.toList_eq_nil_iff.1 hs)
  rw [pieces, dif_pos hlen, String.toList_intercalate,
    splitOn_intercalate (by simpa using hne) (by simpa using h)]
  simp [Function.comp_def]

/-- The pieces of entries written out are the written entries. -/
theorem pieces_join {es : List (String × String)} (hne : es ≠ []) {d : Option String}
    (hd : Delimits d es) : pieces (join es d) d = es.map written := by
  have hne' : es.map written ≠ [] := by simpa using hne
  -- with no delimiter of its own, a written entry holds neither `;` nor `,`
  have hdefault : Apart [';', ','] es →
      ∀ l ∈ es.map written, ∀ x ∈ l.toList, isDefaultDelimiter x = false := by
    intro hfree l hl x hx
    obtain ⟨e, he, rfl⟩ := List.mem_map.1 hl
    have hsemi := hfree ';' (by simp) e he
    have hcomma := hfree ',' (by simp) e he
    rcases mem_written.1 hx with hx | rfl | hx
    · simp only [isDefaultDelimiter, Bool.or_eq_false_iff, beq_eq_false_iff_ne]
      exact ⟨fun h => hsemi.1 (h ▸ hx), fun h => hcomma.1 (h ▸ hx)⟩
    · decide
    · simp only [isDefaultDelimiter, Bool.or_eq_false_iff, beq_eq_false_iff_ne]
      exact ⟨fun h => hsemi.2 (h ▸ hx), fun h => hcomma.2 (h ▸ hx)⟩
  cases d with
  | none => exact pieces_intercalate_default hne' (hdefault hd)
  | some s =>
    by_cases hs : s = ""
    · subst hs
      simp only [Delimits] at hd
      rw [pieces_empty_delimiter]
      exact pieces_intercalate_default hne' (hdefault hd)
    · simp only [Delimits, if_neg hs] at hd
      refine (show join es (some s) = s.intercalate (es.map written) by
        simp [join, writtenDelimiter, hs]) ▸ pieces_intercalate hs hne' fun l hl c hc => ?_
      -- the delimiter's first character is neither `=` nor in a key or value
      have hcs : c ∈ s.toList := List.mem_of_mem_head? hc
      obtain ⟨e, he, rfl⟩ := List.mem_map.1 hl
      intro hx
      rcases mem_written.1 hx with hx | rfl | hx
      · exact (hd.2 c hcs e he).1 hx
      · exact hd.1 hcs
      · exact (hd.2 c hcs e he).2 hx

theorem Apart.mono {cs : List Char} {es es' : List (String × String)}
    (hsub : ∀ e ∈ es, e ∈ es') (h : Apart cs es') : Apart cs es :=
  fun c hc e he => h c hc e (hsub e he)

theorem Delimits.mono {d : Option String} {es es' : List (String × String)}
    (hsub : ∀ e ∈ es, e ∈ es') (h : Delimits d es') : Delimits d es := by
  unfold Delimits at h ⊢
  cases d with
  | none => exact h.mono hsub
  | some s =>
    by_cases hs : s = ""
    · simp only [if_pos hs] at h ⊢
      exact h.mono hsub
    · simp only [if_neg hs] at h ⊢
      exact ⟨h.1, h.2.mono hsub⟩

/-- An empty text is one blank piece. -/
theorem pieces_empty_text (d : Option String) : pieces "" d = [""] := by
  cases d with
  | none => rfl
  | some s =>
    unfold pieces
    split <;> simp [splitOn, splitWhere]

/-- An empty text holds no property, whatever the delimiter. -/
theorem parse_empty_text (d : Option String) : parse "" d = .ok empty := by
  rw [parse, pieces_empty_text]
  rfl

theorem not_reads_blank {k v : String} : ¬ Reads "" k v := fun h => h.trim_ne (by decide)

theorem not_refuses_blank {e : Failure} : ¬ Refuses "" e := fun h => h.trim_ne (by decide)

/-- In entries with distinct keys, a key has a value exactly when the entry is among them. -/
theorem get?_eq_some_iff_mem {α : Type} {k : String} {v : α} :
    ∀ {l : List (String × α)}, (l.map Prod.fst).Nodup → (Json.Fields.get? k l = some v ↔ (k, v) ∈ l)
  | [], _ => by simp [Json.Fields.get?]
  | (k', w) :: rest, hnd => by
    rw [List.map_cons, List.nodup_cons] at hnd
    by_cases hk : k = k'
    · subst hk
      have hnot : ∀ w', (k, w') ∉ rest := fun w' h => hnd.1 (List.mem_map.2 ⟨_, h, rfl⟩)
      simp [Json.Fields.get?, hnot, eq_comm]
    · simp [Json.Fields.get?, hk, get?_eq_some_iff_mem hnd.2]

theorem not_lastReads_blank {k v : String} : ¬ LastReads [""] k v := by
  rw [lastReads_cons]
  exact fun h => h.elim (fun h' => not_lastReads_nil h') fun h' => not_reads_blank h'.1

/-- Properties written out as `key=value` entries, in any order, joined by a delimiter that keeps
them apart, read back as the same properties. -/
theorem parse_join (P : Properties) (hw : ∀ e ∈ P.entries, Writable e)
    (d : Option String) (hd : Delimits d P.entries)
    (es : List (String × String)) (hes : es.Perm P.entries) :
    parse (join es d) d = .ok P := by
  have hnd : (P.entries.map Prod.fst).Nodup := P.sorted.imp ne_of_lt
  have hget : ∀ k v, P.get? k = some v ↔ (k, v) ∈ es := fun k v =>
    (get?_eq_some_iff_mem hnd).trans hes.mem_iff.symm
  rw [parse_eq_ok_iff]
  cases es with
  | nil =>
    -- nothing is written: the text is one blank piece, which reads nothing
    rw [show join [] d = "" from String.intercalate_nil, pieces_empty_text]
    refine ⟨fun p hp e => ?_, P.sorted, fun k v => ?_⟩
    · rw [List.mem_singleton.1 hp]
      exact not_refuses_blank
    · rw [hget]
      exact ⟨fun h => absurd h List.not_mem_nil, fun h => absurd h not_lastReads_blank⟩
  | cons e rest =>
    have hw' : ∀ x ∈ e :: rest, Writable x := fun x hx => hw x (hes.mem_iff.1 hx)
    have hnd' : ((e :: rest).map Prod.fst).Nodup := (hes.map Prod.fst).nodup_iff.2 hnd
    rw [pieces_join (List.cons_ne_nil _ _) (hd.mono fun x hx => hes.mem_iff.1 hx)]
    refine ⟨fun p hp f => ?_, P.sorted,
      fun k v => (hget k v).trans (lastReads_written_iff hw' hnd').symm⟩
    obtain ⟨x, hx, rfl⟩ := List.mem_map.1 hp
    exact (hw' x hx).reads_written.not_refuses

/-- Two properties, one value holding `,` and `=` and one empty. -/
def hostsAndPort : Properties := ⟨[("hosts", "a,b=c"), ("port", "")], by decide⟩

/-- Those two properties, written in reverse key order with the delimiter `|`, read back. -/
theorem parse_join_piped :
    (∀ e ∈ hostsAndPort.entries, Writable e) ∧ Delimits (some "|") hostsAndPort.entries ∧
      [("port", ""), ("hosts", "a,b=c")].Perm hostsAndPort.entries ∧
      parse (join [("port", ""), ("hosts", "a,b=c")] (some "|")) (some "|") = .ok hostsAndPort :=
  ⟨by decide, by decide, List.Perm.swap _ _ _,
    parse_join hostsAndPort (by decide) (some "|") (by decide)
      [("port", ""), ("hosts", "a,b=c")] (List.Perm.swap _ _ _)⟩

end Properties

end NamedCaches
