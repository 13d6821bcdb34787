import NamedCaches.Decimal.Shortest
set_option autoImplicit false
/-!
# Writing a double

A double is written with the fewest significant digits that read back to it
(`Shortest.digits`). With `kk` the position of the decimal point after the first digit, the
text is positional when `-5 < kk ≤ 16`, with `.0` after a whole number; otherwise it is
scientific, `d.ddde+x` or `de-x`, the exponent always signed. Zero is `0.0` or `-0.0`.
-/

namespace NamedCaches.Decimal

/-- A run of `n` zero digits. -/
def zeros (n : Nat) : String := String.ofList (List.replicate n '0')

/-- The exponent part of scientific notation: `e`, a sign, and the digits. -/
def exponentText (e : Int) : String :=
  "e" ++ (if e < 0 then "-" else "+") ++ toString e.natAbs

/-- Places the digits `ds` of `t` around a decimal point for the value `t * 10^k`. -/
def place (ds : String) (k : Int) : String :=
  let len : Int := ds.length
  let kk := len + k
  if 0 ≤ k && kk ≤ 16 then ds ++ zeros k.toNat ++ ".0"
  else if 0 < kk && kk ≤ 16 then
    String.ofList (ds.toList.take kk.toNat) ++ "." ++ String.ofList (ds.toList.drop kk.toNat)
  else if -5 < kk && kk ≤ 0 then "0." ++ zeros (-kk).toNat ++ ds
  else if len = 1 then ds ++ exponentText (kk - 1)
  else
    String.ofList (ds.toList.take 1) ++ "." ++ String.ofList (ds.toList.drop 1) ++
      exponentText (kk - 1)

/-- The text of a finite double. -/
def render (x : Float) : String :=
  let p := Parts.ofFloat x
  let sign := if p.negative then "-" else ""
  if p.mantissa = 0 then sign ++ "0.0"
  else
    let (t, k) := Shortest.digits p
    sign ++ place (toString t) k

end NamedCaches.Decimal
