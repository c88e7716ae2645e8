/-!
# Similarity of words

How much two words resemble each other, between zero and one. Characters agree if they are equal
and not too far apart; the similarity is the mean of the parts of both words that agree and of the
part of the agreeing characters that stand in order.
-/

namespace ShardCheck.Similarity

/-- How far apart two characters that agree may stand, in words of the given lengths. -/
def range (a b : Nat) : Nat := max a b / 2 - 1

/-- The position of the first free character of a word that equals the given one and lies between
the given positions. -/
def findFree (c : Char) (low high : Nat) : Nat → List (Char × Bool) → Option Nat
  | _, [] => none
  | j, (d, used) :: rest =>
    if low ≤ j && j < high && c == d && !used then some j else findFree c low high (j + 1) rest

def use : Nat → List (Char × Bool) → List (Char × Bool)
  | _, [] => []
  | 0, (d, _) :: rest => (d, true) :: rest
  | j + 1, x :: rest => x :: use j rest

/-- The characters of the first word that agree with one of the second, each with its own, and the
second word with those marked. -/
def agreeing (reach : Nat) : Nat → List Char → List (Char × Bool) → List Char × List (Char × Bool)
  | _, [], b => ([], b)
  | i, c :: rest, b =>
    match findFree c (i - reach) (i + reach + 1) 0 b with
    | some j =>
      let (cs, b) := agreeing reach (i + 1) rest (use j b)
      (c :: cs, b)
    | none => agreeing reach (i + 1) rest b

/-- The similarity of two words as a numerator and a denominator. -/
def ratio (a b : List Char) : Nat × Nat :=
  if a.isEmpty && b.isEmpty then (1, 1)
  else
    let (left, marked) := agreeing (range a.length b.length) 0 a (b.map (·, false))
    let right := (marked.filter (·.2)).map (·.1)
    let m := left.length
    let t := ((left.zip right).filter fun (c, d) => c != d).length / 2
    if m == 0 then (0, 1)
    else
      (m * m * b.length + m * m * a.length + (m - t) * a.length * b.length,
        3 * m * a.length * b.length)

def le (x y : Nat × Nat) : Bool := x.1 * y.2 ≤ y.1 * x.2

/-- The word that resembles the given one most, if its similarity is at least seven tenths; of
equals the last. -/
def closest? (word : List Char) (candidates : List (List Char)) : Option (List Char) :=
  (candidates.foldl (fun best c =>
    let r := ratio word c
    if !le (7, 10) r then best
    else
      match best with
      | some (_, r') => if le r' r then some (c, r) else best
      | none => some (c, r)) none).map (·.1)

end ShardCheck.Similarity
