import ShardCheck.Decimal.Binary64

/-!
# The shortest decimal that reads back

A binary64 number is written with the fewest digits that read back as the same number; of two such
decimals the nearer one. The text is positional, whatever the magnitude.
-/

namespace ShardCheck.Decimal

namespace Binary64

/-- Compares `c · 10 ^ s` with `x · 2 ^ q`. -/
def compareScaled (c : Nat) (s : Int) (x : Nat) (q : Int) : Ordering :=
  compare (c * Nat.pow 10 s.toNat * Nat.pow 2 (-q).toNat)
    (x * Nat.pow 2 q.toNat * Nat.pow 10 (-s).toNat)

/-- The decimal `c · 10 ^ s` rounds to the number. The lower neighbour of a power of two lies at
half the distance of the upper one, and the ends of the interval belong to it when the mantissa is
even. -/
def readsBack (x : Binary64) (c : Nat) (s : Int) : Bool :=
  let below := if x.mantissa == Nat.pow 2 52 && x.exponent != minExponent then 1 else 2
  let low := compareScaled c s (4 * x.mantissa - below) (x.exponent - 2)
  let high := compareScaled c s (4 * x.mantissa + 2) (x.exponent - 2)
  if x.mantissa % 2 == 0 then low != .lt && high != .gt else low == .gt && high == .lt

/-- The least `k` with `num / den < 10 ^ k`. -/
def magnitude (num den : Nat) : Int :=
  if den ≤ num then (Nat.toDigits 10 (num / den)).length
  else 1 - (Nat.toDigits 10 ((den + num - 1) / num - 1)).length

/-- The neighbour of the number on the grid of multiples of `10 ^ s` that reads back, if any. -/
def onGrid (x : Binary64) (num den : Nat) (s : Int) : Option Nat :=
  let n := num * Nat.pow 10 (-s).toNat
  let d := den * Nat.pow 10 s.toNat
  let low := n / d
  match x.readsBack low s, x.readsBack (low + 1) s with
  | true, true => some (if 2 * (n % d) ≤ d then low else low + 1)
  | true, false => some low
  | false, true => some (low + 1)
  | false, false => none

/-- The shortest decimal of a positive number: its digits and the power of ten they count. The upper
neighbour can be the next power of ten, which has a single digit. -/
def shortest (x : Binary64) : Nat × Int :=
  let num := x.mantissa * Nat.pow 2 x.exponent.toNat
  let den := Nat.pow 2 (-x.exponent).toNat
  let k := magnitude num den
  let found := (List.range 18).findSome? fun n =>
    let s := k - ((n + 1 : Nat) : Int)
    (x.onGrid num den s).map fun c => if c == Nat.pow 10 (n + 1) then (1, k) else (c, s)
  found.getD (num / den, 0)

/-- Positional text of `digits · 10 ^ e`, always with a decimal point. -/
def positional (digits : Nat) (e : Int) : List Char :=
  let ds := Nat.toDigits 10 digits
  let point : Int := ds.length + e
  if 0 ≤ e then ds ++ List.replicate e.toNat '0' ++ ['.', '0']
  else if 0 < point then ds.take point.toNat ++ ['.'] ++ ds.drop point.toNat
  else ['0', '.'] ++ List.replicate (-point).toNat '0' ++ ds

def text (x : Binary64) : List Char :=
  if x.mantissa == 0 then ['0', '.', '0']
  else
    let (digits, e) := x.shortest
    positional digits e

end Binary64

end ShardCheck.Decimal
