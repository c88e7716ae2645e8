/-!
# Binary floating point with 53 bits of precision

A nonnegative finite number of the binary64 format is `mantissa · 2 ^ exponent`. Reading a decimal
gives the nearest such number, a tie going to the even mantissa.
-/

namespace ShardCheck.Decimal

/-- The number `mantissa · 2 ^ exponent`. -/
structure Binary64 where
  mantissa : Nat
  exponent : Int
  deriving Repr, DecidableEq

namespace Binary64

/-- The exponent of the numbers nearest to zero. -/
def minExponent : Int := -1074

/-- The largest exponent of a finite number. -/
def maxExponent : Int := 971

/-- The integer nearest to `num / den`, a tie going to the even one. -/
def roundDiv (num den : Nat) : Nat :=
  let quotient := num / den
  let rest := num % den
  if 2 * rest < den then quotient
  else if den < 2 * rest then quotient + 1
  else quotient + quotient % 2

/-- The fraction `num / (den · 2 ^ q)` as numerator and denominator. -/
def unscale (num den : Nat) (q : Int) : Nat × Nat :=
  (num * Nat.pow 2 (-q).toNat, den * Nat.pow 2 q.toNat)

/-- The number nearest to `num / den`, or nothing where that is beyond the finite numbers. -/
def nearest (num den : Nat) : Option Binary64 :=
  if num == 0 then some ⟨0, minExponent⟩
  else
    let guess : Int := (num.log2 : Int) - den.log2 - 53
    let (n, d) := unscale num den guess
    let q := max (if n / d < Nat.pow 2 53 then guess else guess + 1) minExponent
    let (n, d) := unscale num den q
    let m := roundDiv n d
    let (m, q) := if m == Nat.pow 2 53 then (Nat.pow 2 52, q + 1) else (m, q)
    if q ≤ maxExponent then some ⟨m, q⟩ else none

/-- The number nearest to `digits · 10 ^ e`, or nothing where that is beyond the finite numbers.
The two guards spare the computation of powers that cannot matter. -/
def ofDecimal (digits : Nat) (e : Int) : Option Binary64 :=
  let size : Int := (Nat.toDigits 10 digits).length + e
  if digits == 0 || size < -400 then some ⟨0, minExponent⟩
  else if 400 < size then none
  else nearest (digits * Nat.pow 10 e.toNat) (Nat.pow 10 (-e).toNat)

end Binary64

end ShardCheck.Decimal
