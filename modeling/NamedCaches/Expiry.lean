set_option autoImplicit false
/-!
# Expiry durations

An expiry is an amount of a time unit, kept exactly as configured so that it can be reported
back. What it means is its `span`: sub-second units are exact, and minutes, hours and days are
first counted in whole seconds saturated at the largest 64-bit count. Two expiries are the same
when they have the same whole seconds (`Expiry.secs`), so `(MINUTES, 6)` and `(SECONDS, 360)`
agree, and so do `(NANOSECONDS, 999999999)` and `(DAYS, 0)`. An amount of zero, of any unit,
means the entry never expires.
-/

namespace NamedCaches

/-- The largest unsigned 64-bit integer. -/
def maxWord : Nat := Nat.pow 2 64 - 1

/-- The unit an expiry's amount counts. -/
inductive TimeUnit where
  | nanoseconds
  | microseconds
  | milliseconds
  | seconds
  | minutes
  | hours
  | days
  deriving DecidableEq, Repr, Inhabited

namespace TimeUnit

/-- Every unit, smallest first. -/
def all : List TimeUnit :=
  [.nanoseconds, .microseconds, .milliseconds, .seconds, .minutes, .hours, .days]

/-- The unit's name in configuration documents. -/
def name : TimeUnit → String
  | .nanoseconds => "NANOSECONDS"
  | .microseconds => "MICROSECONDS"
  | .milliseconds => "MILLISECONDS"
  | .seconds => "SECONDS"
  | .minutes => "MINUTES"
  | .hours => "HOURS"
  | .days => "DAYS"

/-- The unit's name in running text. -/
def title : TimeUnit → String
  | .nanoseconds => "Nanoseconds"
  | .microseconds => "Microseconds"
  | .milliseconds => "Milliseconds"
  | .seconds => "Seconds"
  | .minutes => "Minutes"
  | .hours => "Hours"
  | .days => "Days"

/-- Nanoseconds in one unit. -/
def nanos : TimeUnit → Nat
  | .nanoseconds => 1
  | .microseconds => 1000
  | .milliseconds => 1000000
  | .seconds => 1000000000
  | .minutes => 60000000000
  | .hours => 3600000000000
  | .days => 86400000000000

/-- The unit with this configuration name. -/
def ofName? (s : String) : Option TimeUnit :=
  all.find? fun u => u.name == s

end TimeUnit

/-- A length of time: whole seconds and the nanoseconds beyond them (below `10^9`). -/
structure Span where
  secs : Nat
  nanos : Nat
  deriving DecidableEq, Repr, Inhabited

namespace Span

/-- The digits of a fraction below one unit, `frac / 10^width`, without trailing zeros. -/
def fractionDigits (frac width : Nat) : String :=
  let padded := String.ofList (List.replicate (width - (toString frac).length) '0') ++ toString frac
  String.ofList ((padded.toList.reverse.dropWhile (· == '0')).reverse)

/-- A whole part and a fraction of `width` digits: `1.5`, `12`. -/
def decimal (whole frac width : Nat) : String :=
  if frac == 0 then toString whole else toString whole ++ "." ++ fractionDigits frac width

/-- The span in the largest unit that keeps a whole part: `1.5s`, `250ms`, `7ns`. -/
def text (s : Span) : String :=
  if s.secs > 0 then decimal s.secs s.nanos 9 ++ "s"
  else if s.nanos ≥ 1000000 then decimal (s.nanos / 1000000) (s.nanos % 1000000) 6 ++ "ms"
  else if s.nanos ≥ 1000 then decimal (s.nanos / 1000) (s.nanos % 1000) 3 ++ "µs"
  else toString s.nanos ++ "ns"

/-- Whether the span is longer than a number of whole seconds. -/
def exceeds (s : Span) (secs : Nat) : Bool :=
  s.secs > secs || (s.secs == secs && s.nanos > 0)

end Span

/-- An amount of a time unit. -/
structure Expiry where
  unit : TimeUnit
  amount : UInt64
  deriving DecidableEq, Repr, Inhabited

namespace Expiry

/-- Never expire: zero seconds. -/
def eternal : Expiry := ⟨.seconds, 0⟩

/-- An amount of seconds. -/
def seconds (n : UInt64) : Expiry := ⟨.seconds, n⟩

/-- An amount of zero never expires. -/
def isEternal (e : Expiry) : Bool := e.amount == 0

/-- The length of time: exact below a second, and in whole seconds saturated at `maxWord` for
minutes, hours and days. -/
def span (e : Expiry) : Span :=
  let a := e.amount.toNat
  match e.unit with
  | .nanoseconds => ⟨a / 1000000000, a % 1000000000⟩
  | .microseconds => ⟨a / 1000000, a % 1000000 * 1000⟩
  | .milliseconds => ⟨a / 1000, a % 1000 * 1000000⟩
  | .seconds => ⟨a, 0⟩
  | .minutes => ⟨min maxWord (a * 60), 0⟩
  | .hours => ⟨min maxWord (a * 3600), 0⟩
  | .days => ⟨min maxWord (a * 86400), 0⟩

/-- Whole seconds, truncated. -/
def secs (e : Expiry) : Nat := e.span.secs

/-- The length of time, or `none` for an expiry that never comes. -/
def span? (e : Expiry) : Option Span := if e.isEternal then none else some e.span

/-- Two expiries are the same when their whole seconds are. -/
def same (a b : Expiry) : Bool := a.secs == b.secs

/-- Hashing an expiry hashes its whole seconds, all that sameness looks at. -/
instance : Hashable Expiry := ⟨fun e => hash e.secs⟩

/-- The expiry in running text: `360 Seconds`. -/
def display (e : Expiry) : String := toString e.amount.toNat ++ " " ++ e.unit.title

/-- The expiry as a record in log lines. -/
def describe (e : Expiry) : String :=
  "ExpiryDuration \x7b unit: " ++ e.unit.title ++ ", amount: " ++ toString e.amount.toNat ++ " \x7d"

end Expiry

/-- What an expiry is measured from: the last read or write, or the last write. -/
inductive ExpiryKind where
  | accessed
  | modified
  deriving DecidableEq, Repr, Inhabited

namespace ExpiryKind

/-- Both kinds, in order. -/
def all : List ExpiryKind := [.accessed, .modified]

/-- The kind's name in configuration documents. -/
def name : ExpiryKind → String
  | .accessed => "ACCESSED"
  | .modified => "MODIFIED"

/-- The kind with this configuration name. -/
def ofName? (s : String) : Option ExpiryKind :=
  all.find? fun k => k.name == s

end ExpiryKind

end NamedCaches
