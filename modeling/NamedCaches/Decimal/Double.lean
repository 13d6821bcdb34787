set_option autoImplicit false
/-!
# Doubles as integers

A finite double is `± mantissa * 2^exponent` with a mantissa below `2^53`. This module splits a
double into those parts, rounds a natural number to the nearest double (a tie goes to the even
mantissa), and tabulates the doubles nearest to the powers of ten that a decimal reader scales by.
-/

namespace NamedCaches.Decimal

/-- A finite double as integers: its value is `± mantissa * 2^exponent`. `narrowBelow` says the
gap to the next smaller double is half the gap to the next larger one, which happens exactly at
a power of two above the smallest normal double. -/
structure Parts where
  negative : Bool
  mantissa : Nat
  exponent : Int
  narrowBelow : Bool

/-- The parts of a finite double, read off its bits. -/
def Parts.ofFloat (x : Float) : Parts :=
  let bits : Nat := x.toBits.toNat
  let biased : Nat := (bits / Nat.pow 2 52) % 2048
  let fraction : Nat := bits % Nat.pow 2 52
  if biased = 0 then ⟨bits ≥ Nat.pow 2 63, fraction, -1074, false⟩
  else ⟨bits ≥ Nat.pow 2 63, fraction + Nat.pow 2 52, Int.ofNat biased - 1075, fraction = 0 && biased > 1⟩

/-- Positive infinity. -/
def infinity : Float := Float.ofBits 0x7FF0000000000000

/-- The double with mantissa `m` (in `[2^52, 2^53)`) times `2^shift`, or infinity when it is too
large to be a double. -/
def ofNormal (m : Nat) (shift : Int) : Float :=
  let biased := shift + 1075
  if biased ≥ 2047 then infinity
  else Float.ofBits (biased.toNat * Nat.pow 2 52 + (m - Nat.pow 2 52)).toUInt64

/-- The double nearest to a natural number; of two equally near, the one with an even mantissa.
Numbers from `2^1024` on round to infinity. -/
def nearest (n : Nat) : Float :=
  if n = 0 then 0 else
  let len := n.log2 + 1
  if len ≤ 53 then ofNormal (n * Nat.pow 2 (53 - len)) ((len : Int) - 53)
  else
    let shift := len - 53
    let m := n / Nat.pow 2 shift
    let rest := n % Nat.pow 2 shift
    let half := Nat.pow 2 (shift - 1)
    let up := rest > half || (rest = half && m % 2 = 1)
    let m := if up then m + 1 else m
    if m = Nat.pow 2 53 then ofNormal (Nat.pow 2 52) ((shift : Int) + 1) else ofNormal m shift

/-- The doubles nearest to `10^0, …, 10^308`. -/
def powersOfTen : Array Float :=
  ((List.range 309).map fun k => nearest (Nat.pow 10 k)).toArray

end NamedCaches.Decimal
