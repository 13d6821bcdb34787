import NamedCaches.Expiry
set_option autoImplicit false
/-!
# How long an expiry is

An amount of a unit counts nanoseconds exactly: `a` of a unit `u` is `a * u.nanos` nanoseconds
(`Expiry.exactNanos`). An expiry's length (`Expiry.span`) is that count cut into whole seconds
and the nanoseconds beyond them (`Span.ofNanos`), saturated at the largest 64-bit count of whole
seconds (`span_eq_ofNanos`): nothing wraps, and a length that fits is exact. Only minutes, hours
and days can reach the bound, when the amount times 60, 3600 or 86400 does not fit in 64 bits
(`not_fits_iff`). The whole seconds of an expiry are its length's, truncated and saturated alike
(`secs_eq`), and an expiry has no length exactly when its amount is zero.

Two expiries are the same when their whole seconds are: sameness is an equivalence whose classes
are the expiries of one count of seconds, and expiries that are the same hash alike. The main
statement is `span_saturates_exactly`.
-/

namespace NamedCaches

namespace Span

/-- The span of a count of nanoseconds: its whole seconds and the nanoseconds beyond them. -/
def ofNanos (n : Nat) : Span := ⟨n / 1000000000, n % 1000000000⟩

@[simp] theorem ofNanos_secs (n : Nat) : (ofNanos n).secs = n / 1000000000 := rfl

@[simp] theorem ofNanos_nanos (n : Nat) : (ofNanos n).nanos = n % 1000000000 := rfl

end Span

theorem maxWord_eq : maxWord = 18446744073709551615 := rfl

namespace Expiry

/-- The nanoseconds an expiry's amount counts, exactly. -/
def exactNanos (e : Expiry) : Nat := e.amount.toNat * e.unit.nanos

/-- Whether an expiry's length fits in the largest 64-bit count of whole seconds. -/
def Fits (e : Expiry) : Prop := e.exactNanos ≤ maxWord * 1000000000

instance : DecidablePred Fits := fun e => inferInstanceAs (Decidable (e.exactNanos ≤ _))

theorem amount_le_maxWord (e : Expiry) : e.amount.toNat ≤ maxWord := by
  have := e.amount.toNat_lt
  rw [maxWord_eq]
  omega

/-- An expiry's length is its exact count of nanoseconds, saturated at the largest 64-bit count
of whole seconds. -/
theorem span_eq_ofNanos (e : Expiry) :
    e.span = Span.ofNanos (min e.exactNanos (maxWord * 1000000000)) := by
  obtain ⟨u, a⟩ := e
  have ha : a.toNat ≤ maxWord := amount_le_maxWord ⟨u, a⟩
  rw [maxWord_eq] at ha ⊢
  -- below a minute the count is exact; from a minute up the seconds saturate
  cases u <;> simp only [span, exactNanos, TimeUnit.nanos, maxWord_eq, Span.ofNanos,
    Span.mk.injEq] <;> omega

/-- Whole seconds truncate the exact count and saturate at the largest 64-bit count. -/
theorem secs_eq (e : Expiry) : e.secs = min maxWord (e.exactNanos / 1000000000) := by
  rw [secs, span_eq_ofNanos, Span.ofNanos_secs]
  omega

theorem span_of_fits {e : Expiry} (h : e.Fits) : e.span = Span.ofNanos e.exactNanos := by
  rw [span_eq_ofNanos, Nat.min_eq_left h]

theorem span_of_not_fits {e : Expiry} (h : ¬ e.Fits) : e.span = ⟨maxWord, 0⟩ := by
  rw [span_eq_ofNanos, Nat.min_eq_right (Nat.le_of_lt (Nat.lt_of_not_le h))]
  simp [Span.ofNanos]

/-- Only minutes, hours and days can be too long, when the amount counted in seconds does not fit
in 64 bits. -/
theorem not_fits_iff (e : Expiry) :
    ¬ e.Fits ↔ (e.unit = .minutes ∧ maxWord < e.amount.toNat * 60) ∨
      (e.unit = .hours ∧ maxWord < e.amount.toNat * 3600) ∨
      (e.unit = .days ∧ maxWord < e.amount.toNat * 86400) := by
  obtain ⟨u, a⟩ := e
  have ha : a.toNat ≤ maxWord := amount_le_maxWord ⟨u, a⟩
  cases u <;> simp only [Fits, exactNanos, TimeUnit.nanos, Nat.not_le, reduceCtorEq, false_and,
    true_and, or_false, false_or, iff_false, Nat.not_lt] <;> omega

theorem span?_eq (e : Expiry) : e.span? = if e.amount = 0 then none else some e.span := by
  simp [span?, isEternal]

theorem same_iff (a b : Expiry) : a.same b = true ↔ a.secs = b.secs := by
  simp [same]

theorem same_equivalence : Equivalence fun a b : Expiry => a.same b = true where
  refl a := (same_iff a a).2 rfl
  symm h := (same_iff _ _).2 ((same_iff _ _).1 h).symm
  trans h h' := (same_iff _ _).2 (((same_iff _ _).1 h).trans ((same_iff _ _).1 h'))

theorem hash_eq_of_same {a b : Expiry} (h : a.same b = true) : hash a = hash b :=
  show hash a.secs = hash b.secs from congrArg hash ((same_iff a b).1 h)

/-- An amount of a unit lasts exactly its count of nanoseconds, unless it is too long for the
largest 64-bit count of whole seconds, which only minutes, hours and days can be; it then lasts
that many seconds. Its whole seconds are that length truncated and saturated, and an amount of
zero never expires. Expiries are the same exactly when their whole seconds are, an equivalence
that hashing respects. -/
theorem span_saturates_exactly (u : TimeUnit) (a : UInt64) :
    (Expiry.mk u a).secs = min maxWord (a.toNat * u.nanos / 1000000000) ∧
    (Expiry.mk u a).span? =
      (if a = 0 then none
       else some (if (Expiry.mk u a).Fits then Span.ofNanos (a.toNat * u.nanos) else ⟨maxWord, 0⟩)) ∧
    (¬ (Expiry.mk u a).Fits ↔ (u = .minutes ∧ maxWord < a.toNat * 60) ∨
      (u = .hours ∧ maxWord < a.toNat * 3600) ∨ (u = .days ∧ maxWord < a.toNat * 86400)) ∧
    Equivalence (fun x y : Expiry => x.same y = true) ∧
    (∀ x y : Expiry, x.same y = true ↔ x.secs = y.secs) ∧
    (∀ x y : Expiry, x.same y = true → hash x = hash y) := by
  refine ⟨secs_eq _, ?_, not_fits_iff _, same_equivalence, same_iff, fun _ _ => hash_eq_of_same⟩
  rw [span?_eq]
  split
  · rfl
  · by_cases hf : (Expiry.mk u a).Fits
    · rw [if_pos hf, span_of_fits hf]
      rfl
    · rw [if_neg hf, span_of_not_fits hf]

example : (Expiry.mk .minutes 6).same (.seconds 360) = true := by decide

example : (Expiry.mk .nanoseconds 999999999).same ⟨.days, 0⟩ = true := by decide

example : (Expiry.mk .days 213503982334602).span = ⟨maxWord, 0⟩ := by decide +kernel

end Expiry

end NamedCaches
