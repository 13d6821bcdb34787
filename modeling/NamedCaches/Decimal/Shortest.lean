import NamedCaches.Decimal.Double
set_option autoImplicit false
/-!
# Shortest decimal of a double

Every finite double `x` is the nearest double to each real in an interval around it: half the
gap to each neighbour on either side, ends included exactly when the mantissa is even (a tie
reads back to the even mantissa). `Shortest.digits` finds the decimal `t * 10^k` in that interval
with the fewest digits; of two such with the same number of digits it takes the one nearer to
`x`, and of two equally near the one with an even last digit.

The search runs over the grids `10^k` from coarse to fine. On a grid, only the two grid points
around `x` can be the answer: if any grid point lies in the interval, the one next to `x` on the
same side does too. Seventeen significant digits always suffice for a double.
-/

namespace NamedCaches.Decimal.Shortest

/-- `x * 2^p` scaled against `t * 10^k`: both sides multiplied by `2^(-p) * 10^(-k)` where
those are whole, so that comparing the two results compares the two reals. -/
def scaleLeft (x : Nat) (p k : Int) : Nat := x * Nat.pow 2 p.toNat * Nat.pow 10 (-k).toNat

/-- The other side of the comparison `scaleLeft` sets up. -/
def scaleRight (t : Nat) (p k : Int) : Nat := t * Nat.pow 10 k.toNat * Nat.pow 2 (-p).toNat

/-- The rounding interval of `m * 2^e` in units of `2^(e-2)`: its lower end, centre and upper
end. -/
structure Interval where
  low : Nat
  mid : Nat
  high : Nat
  /-- Binary exponent of the unit, `e - 2`. -/
  unit : Int
  /-- Whether the ends read back to the double. -/
  inclusive : Bool

/-- The rounding interval of a positive finite double given by its parts. -/
def Interval.ofParts (x : Parts) : Interval :=
  { low := 4 * x.mantissa - (if x.narrowBelow then 1 else 2)
    mid := 4 * x.mantissa
    high := 4 * x.mantissa + 2
    unit := x.exponent - 2
    inclusive := x.mantissa % 2 = 0 }

/-- Whether `t * 10^k` lies in the interval. -/
def Interval.holds (i : Interval) (t : Nat) (k : Int) : Bool :=
  let v := scaleRight t i.unit k
  let lo := scaleLeft i.low i.unit k
  let hi := scaleLeft i.high i.unit k
  (lo < v || (i.inclusive && lo == v)) && (v < hi || (i.inclusive && v == hi))

/-- The largest `t` with `t * 10^k` at most the centre. -/
def Interval.below (i : Interval) (k : Int) : Nat :=
  scaleLeft i.mid i.unit k / scaleRight 1 i.unit k

/-- The least `j ≥ 1` (searching at most `fuel` steps) with `n * 10^j ≥ d`. -/
def shiftsToReach (n d : Nat) : Nat → Nat → Nat
  | 0, j => j
  | fuel + 1, j => if n * Nat.pow 10 j ≥ d then j else shiftsToReach n d fuel (j + 1)

/-- `⌊log10 c⌋` of the centre `c` of the interval. -/
def Interval.magnitude (i : Interval) : Int :=
  let n := i.mid * Nat.pow 2 i.unit.toNat
  let d := Nat.pow 2 (-i.unit).toNat
  if n ≥ d then ((Nat.toDigits 10 (n / d)).length : Int) - 1
  else -((shiftsToReach n d 400 1 : Nat) : Int)

/-- Of the two grid points around the centre, the one in the interval that is nearer to the
centre; of two equally near, the even one. -/
def Interval.pick (i : Interval) (k : Int) : Option Nat :=
  let t := i.below k
  let lowOk := i.holds t k
  let highOk := i.holds (t + 1) k
  if lowOk && highOk then
    let twice := scaleLeft (2 * i.mid) i.unit k
    let between := scaleRight (2 * t + 1) i.unit k
    if twice < between then some t
    else if between < twice then some (t + 1)
    else if t % 2 = 0 then some t else some (t + 1)
  else if lowOk then some t
  else if highOk then some (t + 1)
  else none

/-- Removes trailing zero digits of `t`, raising the exponent to match. -/
def trimZeros : Nat → Nat → Int → Nat × Int
  | 0, t, k => (t, k)
  | fuel + 1, t, k => if t ≠ 0 && t % 10 = 0 then trimZeros fuel (t / 10) (k + 1) else (t, k)

/-- Tries grids for `n, n+1, …` significant digits, at most `fuel` of them. -/
def search (i : Interval) (top : Int) : Nat → Nat → Option (Nat × Int)
  | 0, _ => none
  | fuel + 1, n =>
    let k := top + 1 - n
    match i.pick k with
    | some t => some (trimZeros 20 t k)
    | none => search i top fuel (n + 1)

/-- The shortest decimal `(t, k)`, meaning `t * 10^k`, that reads back to the positive finite
double with these parts. -/
def digits (x : Parts) : Nat × Int :=
  let i := Interval.ofParts x
  match search i i.magnitude 17 1 with
  | some r => r
  | none => (i.below 0, 0)

end NamedCaches.Decimal.Shortest
