/-!
# Shares in percent

A share is written in percent with one decimal.  It is computed in double precision: the quotient is
rounded to a double, a hundred times that is rounded to a double, and the result is rounded to one
decimal.  Every rounding goes to the nearest value, and to the even one of two that are equally near.

A double is given as a quotient of natural numbers here.  Shares are neither too large nor too small
for double precision, so only the number of binary digits is bounded.
-/

namespace ChartLint

/-- The nearest natural number to a quotient, the even one of two. -/
def roundDiv (n d : Nat) : Nat :=
  let q := n / d
  let r := n % d
  if 2 * r < d then q
  else if d < 2 * r then q + 1
  else q + q % 2

/-- How far a quotient has to be shifted to the left so that its whole part has fifty-three binary
digits. -/
def doubleShift (n d : Nat) : Int :=
  let shift : Int := 52 + Nat.log2 d - Nat.log2 n
  if n <<< shift.toNat < d <<< (-shift).toNat <<< 52 then shift + 1 else shift

/-- The double nearest to a quotient, as a quotient. -/
def nearestDouble (n d : Nat) : Nat × Nat :=
  let shift := doubleShift n d
  let mantissa := roundDiv (n <<< shift.toNat) (d <<< (-shift).toNat)
  (mantissa <<< (-shift).toNat, 1 <<< shift.toNat)

/-- A share in tenths of a percent. -/
def shareTenths (part total : Nat) : Nat :=
  let (n, d) := nearestDouble part total
  let (n, d) := nearestDouble (100 * n) d
  roundDiv (10 * n) d

/-- A share in percent with one decimal. -/
def shareText (part total : Nat) : String :=
  if total = 0 then "0%"
  else
    let tenths := shareTenths part total
    toString (tenths / 10) ++ "." ++ toString (tenths % 10) ++ "%"

end ChartLint
