import ShardCheck.Glob.Token

/-!
# Limits of patterns

How far groups may be nested, and the greatest bound of a repetition. No rule keeps a pattern within
these limits; one that is beyond them stops the program.
-/

namespace ShardCheck.Glob

/-! ### Bounds -/

def maxBound : Nat := 0xFFFFFFFF

mutual

/-- The greatest bound of the repetitions in a token. -/
def Token.greatestBound : Token → Nat
  | .atom _ => 0
  | .alternatives branches => branchesGreatestBound branches
  | .repetition body lower upper => max (max lower (upper.getD 0)) (listGreatestBound body)

def branchesGreatestBound : List (List Token) → Nat
  | [] => 0
  | b :: bs => max (listGreatestBound b) (branchesGreatestBound bs)

def listGreatestBound : List Token → Nat
  | [] => 0
  | t :: ts => max t.greatestBound (listGreatestBound ts)

end

/-! ### Nesting -/

def maxNesting : Nat := 250

/-- The depth of the expression for an atom. -/
def Atom.nesting : Atom → Nat
  | .literal _ _ | .separator => 0
  | .one => 2
  | .many => 3
  | .tree _ => 5
  | .oneOf _ ranges => if ranges.length == 1 then 4 else 5

/-- Whether a list of tokens is one level deeper than its tokens: it is unless it is a single token
that is no literal. -/
def isNestedList : List Token → Bool
  | [] => false
  | [t] => t.isAtom fun | .literal _ _ => true | _ => false
  | _ => true

mutual

def Token.nesting : Token → Nat
  | .atom a => a.nesting
  | .alternatives branches =>
    (if branches.length == 1 then 2 else 3) + branchesNesting branches
  | .repetition body _ _ => (if isNestedList body then 4 else 3) + listNesting body

def branchesNesting : List (List Token) → Nat
  | [] => 0
  | b :: bs => max ((if isNestedList b then 1 else 0) + listNesting b) (branchesNesting bs)

def listNesting : List Token → Nat
  | [] => 0
  | t :: ts => max t.nesting (listNesting ts)

end

def withinLimits (p : List Token) : Bool :=
  listGreatestBound p ≤ maxBound && listNesting p < maxNesting

end ShardCheck.Glob
