import NamedCaches.Proofs.Engine.MapLike
import NamedCaches.Proofs.Expiry.Span
set_option autoImplicit false
/-!
# The engine's expiry limit

A new engine (`Engine.create`) takes its capacity from the settings' largest number of entries,
its time to idle from the ACCESSED expiry and its time to live from the MODIFIED expiry. It takes
an expiry only up to `engineLimit`, 1000 years of 365 days: a longer one, like an amount of zero,
leaves that knob unset, and entries then never expire on its count.

The limit is checked on the expiry's length (`Expiry.span`), whose whole seconds saturate at the
largest 64-bit count. That count is itself beyond the limit, so saturation never brings a length
back under it, and the check decides as one on the exact count of nanoseconds would
(`exceeds_span_iff`). An expiry is taken exactly when its amount is not zero and its amount times
the unit's nanoseconds is at most the limit, and it is then taken at that exact length
(`engineSpan_eq`). The main statement is `create_takes_expiries_within_limit`.
-/

namespace NamedCaches

namespace Span

/-- A count of nanoseconds exceeds a number of whole seconds exactly when it is more than their
nanoseconds. -/
theorem exceeds_ofNanos_iff (n secs : Nat) :
    (ofNanos n).exceeds secs = true ↔ secs * 1000000000 < n := by
  simp only [exceeds, ofNanos_secs, ofNanos_nanos, Bool.or_eq_true, Bool.and_eq_true, gt_iff_lt,
    decide_eq_true_eq, beq_iff_eq]
  omega

end Span

theorem engineLimit_lt_maxWord : engineLimit < maxWord := by
  rw [maxWord_eq]
  decide

namespace Expiry

/-- An expiry within the engine's limit fits in 64-bit seconds, so its length is exact. -/
theorem fits_of_within {x : Expiry} (h : x.exactNanos ≤ engineLimit * 1000000000) : x.Fits :=
  Nat.le_trans h (Nat.mul_le_mul_right _ engineLimit_lt_maxWord.le)

/-- The limit is checked on the saturated length, and it decides as a check on the exact count
of nanoseconds would: the largest 64-bit count of seconds is itself beyond the limit. -/
theorem exceeds_span_iff (x : Expiry) :
    x.span.exceeds engineLimit = true ↔ engineLimit * 1000000000 < x.exactNanos := by
  have hl := engineLimit_lt_maxWord
  rw [span_eq_ofNanos, Span.exceeds_ofNanos_iff]
  omega

/-- The engine takes an expiry exactly when its amount is not zero and its exact length is within
the limit, and then at that exact length. -/
theorem engineSpan_eq (x : Expiry) :
    x.engineSpan =
      if x.amount ≠ 0 ∧ x.exactNanos ≤ engineLimit * 1000000000 then
        some (Span.ofNanos x.exactNanos)
      else none := by
  unfold engineSpan
  rw [span?_eq]
  by_cases h0 : x.amount = 0
  · simp [h0]
  · rw [if_neg h0]
    dsimp only
    by_cases hw : x.exactNanos ≤ engineLimit * 1000000000
    · have hn : ¬ x.span.exceeds engineLimit = true := by
        rw [exceeds_span_iff]
        omega
      rw [if_neg hn, if_pos ⟨h0, hw⟩, span_of_fits (fits_of_within hw)]
    · rw [if_pos ((exceeds_span_iff x).2 (by omega)), if_neg fun h => hw h.2]

end Expiry

namespace Engine

/-- A new engine is named for its cache and has the settings' capacity and the expiries the
engine takes; it holds nothing yet. -/
theorem create_run {W : Type} [Journal W] (s : Settings) (w : W) :
    ((create s).run w).1 =
      { name := s.name, capacity := s.maxEntries.toNat, idle := (s.expiry .accessed).engineSpan,
        live := (s.expiry .modified).engineSpan } := by
  have hrun : ((create s).run w).1 =
      { name := s.name, capacity := s.maxEntries.toNat, idle := ((expiryFor s .accessed).run w).1,
        live := ((expiryFor s .modified).run ((expiryFor s .accessed).run w).2).1 } := rfl
  rw [hrun, expiryFor_run, expiryFor_run]

/-- A new engine has the settings' capacity, its time to idle from the ACCESSED expiry and its
time to live from the MODIFIED one. Each is the expiry's length when its amount is not zero and
its exact length, the amount times the unit's nanoseconds, is within the limit, and unset
otherwise; that length is then exact. Checking the saturated length against the limit decides
as checking the exact count would, for every unit and amount. -/
theorem create_takes_expiries_within_limit {W : Type} [Journal W] (s : Settings) (w : W) :
    ((create s).run w).1.capacity = s.maxEntries.toNat ∧
      ((create s).run w).1.idle = (s.expiry .accessed).engineSpan ∧
      ((create s).run w).1.live = (s.expiry .modified).engineSpan ∧
      ∀ x : Expiry,
        x.engineSpan =
          (if x.amount ≠ 0 ∧ x.exactNanos ≤ engineLimit * 1000000000 then
            some (Span.ofNanos x.exactNanos)
          else none) ∧
        (x.span.exceeds engineLimit = true ↔ engineLimit * 1000000000 < x.exactNanos) := by
  rw [create_run]
  exact ⟨rfl, rfl, rfl, fun x => ⟨x.engineSpan_eq, x.exceeds_span_iff⟩⟩

/-- 365000 days is exactly the limit and is taken. -/
example : (Expiry.mk .days 365000).engineSpan = some ⟨engineLimit, 0⟩ := by decide +kernel

/-- One microsecond beyond the limit is not taken. -/
example : (Expiry.mk .microseconds 31536000000000001).engineSpan = none := by decide

/-- The longest count of days saturates, and stays beyond the limit. -/
example : (Expiry.mk .days 18446744073709551615).engineSpan = none := by decide +kernel

end Engine

end NamedCaches
