import ShardCheck.Text.CaseFold

/-!
# Sets of characters

A set of characters is a list of ranges of code points, in order and apart from each other, so that
equal sets are equal lists.
-/

namespace ShardCheck.Glob

/-- A set of characters. -/
structure CharSet where
  /-- The first and the last code point of each range. -/
  ranges : List (Nat × Nat)
  deriving Repr, DecidableEq

namespace CharSet

def containsCode (s : CharSet) (n : Nat) : Bool := s.ranges.any fun (a, b) => a ≤ n && n ≤ b

def contains (s : CharSet) (c : Char) : Bool := s.containsCode c.toNat

def empty : CharSet := ⟨[]⟩

def single (c : Char) : CharSet := ⟨[(c.toNat, c.toNat)]⟩

def maxCode : Nat := 0x10ffff

/-- Joins ranges that touch or overlap. The ranges are in the order of their first code points. -/
def join : List (Nat × Nat) → List (Nat × Nat)
  | [] => []
  | (a, b) :: rs =>
    match join rs with
    | [] => [(a, b)]
    | (c, d) :: rest => if c ≤ b + 1 then (a, max b d) :: rest else (a, b) :: (c, d) :: rest

def ofRanges (rs : List (Nat × Nat)) : CharSet :=
  ⟨join ((rs.filter fun (a, b) => a ≤ b).mergeSort fun r s => r.1 ≤ s.1)⟩

/-- The gaps between the ranges, from a code point on. -/
def gaps (start : Nat) : List (Nat × Nat) → List (Nat × Nat)
  | [] => if start ≤ maxCode then [(start, maxCode)] else []
  | (a, b) :: rs => (if start < a then [(start, a - 1)] else []) ++ gaps (b + 1) rs

def complement (s : CharSet) : CharSet := ⟨gaps 0 s.ranges⟩

def union (s t : CharSet) : CharSet := ofRanges (s.ranges ++ t.ranges)

def inter (s t : CharSet) : CharSet := (s.complement.union t.complement).complement

/-- The code points of the case folding table with what they fold to. -/
def foldPairs : List (Nat × Nat) :=
  Text.foldRuns.flatMap fun r =>
    (List.range ((r.last - r.first) / r.step + 1)).map fun i =>
      (r.first + i * r.step, (((r.first + i * r.step : Nat) : Int) + r.offset).toNat)

/-- The set with all case variants of its characters. -/
def anyCase (s : CharSet) : CharSet :=
  let folded := s.union (ofRanges
    (foldPairs.filterMap fun (n, m) => if s.containsCode n then some (m, m) else none))
  folded.union (ofRanges
    (foldPairs.filterMap fun (n, m) => if folded.containsCode m then some (n, n) else none))

/-- A character in any case. -/
def variants (c : Char) : CharSet := ofRanges ((Text.caseVariants c.toNat).map fun n => (n, n))

/-- All characters of a component. -/
def notSeparator : CharSet := (single '/').complement

def notNewline : CharSet := (single '\n').complement

end CharSet

end ShardCheck.Glob
