/-!
Rounding to 53 significant binary digits.

`round53 q` is the number nearest to `q` among those of the form `m * 2 ^ e` with `m` of at most 53
binary digits; of two nearest numbers it is the one with the even `m`.
-/

namespace NodeFleet.Number

/-- The integer nearest to `n / d`, and the even one of two nearest. -/
def nearestQuotient (n d : Nat) : Nat :=
  let q := n / d
  let r := n % d
  if 2 * r < d then q
  else if d < 2 * r then q + 1
  else if q % 2 = 0 then q
  else q + 1

/-- The binary places that `n / d` is moved left to lie between `2 ^ 52` and `2 ^ 53`. -/
def placesOf (n d : Nat) : Int :=
  let places : Int := 53 - (n.log2 - d.log2 : Int)
  if Nat.pow 2 53 ≤ n * Nat.pow 2 places.toNat / (d * Nat.pow 2 (-places).toNat) then places - 1
  else places

/-- The rounded value of `n / d`. -/
def roundQuotient (n d : Nat) : Rat :=
  let places := placesOf n d
  let m := nearestQuotient (n * Nat.pow 2 places.toNat) (d * Nat.pow 2 (-places).toNat)
  (m * Nat.pow 2 (-places).toNat : Nat) / (Nat.pow 2 places.toNat : Nat)

/-- The rounded value of a number. -/
def round53 (q : Rat) : Rat :=
  if q.num = 0 then 0
  else if q.num < 0 then -roundQuotient q.num.natAbs q.den
  else roundQuotient q.num.natAbs q.den

end NodeFleet.Number
