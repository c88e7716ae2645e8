import ShardCheck.Glob.Pattern

/-!
# Rules for patterns

A pattern that can be read may still be refused. The rules are tried one after the other, each on
the whole pattern.
-/

namespace ShardCheck.Glob

/-- A rule that a pattern breaks. -/
inductive Violation where
  /-- Two separators or trees next to each other. -/
  | adjacentBoundary
  /-- Repetition bounds that no count meets, or only zero. -/
  | incompatibleBounds
  /-- A group of nothing but a tree. -/
  | singularTree
  /-- Two wildcards for any text next to each other. -/
  | adjacentMany
  /-- A group at the start of the glob that may or may not start with a slash. -/
  | rootedGroup
  /-- A repetition of nothing but a wildcard for any text. -/
  | singularMany
  /-- A fixed text that is too long. -/
  | oversizedText
  deriving Repr, DecidableEq

def Violation.text : Violation → String
  | .adjacentBoundary => "adjacent component boundaries `/` or `**`"
  | .incompatibleBounds => "incompatible repetition bounds"
  | .singularTree => "singular tree wildcard `**` in group"
  | .adjacentMany => "adjacent zero-or-more wildcards `*` or `$`"
  | .rootedGroup => "rooted sub-glob in group"
  | .singularMany => "singular zero-or-more wildcard `*` or `$` in group"
  | .oversizedText => "oversized invariant expression"

/-! ### What tokens start and end with -/

mutual

/-- The atoms that a token may start with. -/
def Token.starts : Token → List Atom
  | .atom a => [a]
  | .alternatives branches => branchStarts branches
  | .repetition body _ _ => firstStarts body

def branchStarts : List (List Token) → List Atom
  | [] => []
  | b :: bs => firstStarts b ++ branchStarts bs

def firstStarts : List Token → List Atom
  | [] => []
  | t :: _ => t.starts

end

mutual

/-- The atoms that a token may end with. -/
def Token.ends : Token → List Atom
  | .atom a => [a]
  | .alternatives branches => branchEnds branches
  | .repetition body _ _ => lastEnds body

def branchEnds : List (List Token) → List Atom
  | [] => []
  | b :: bs => lastEnds b ++ branchEnds bs

def lastEnds : List Token → List Atom
  | [] => []
  | t :: ts => if ts.isEmpty then t.ends else lastEnds ts

end

/-! ### Boundaries -/

mutual

/-- Two boundaries are next to each other inside a token. -/
def Token.hasAdjacentBoundaries : Token → Bool
  | .atom _ => false
  | .alternatives branches => branchesHaveAdjacentBoundaries branches
  | .repetition body _ _ => listHasAdjacentBoundaries false body

def branchesHaveAdjacentBoundaries : List (List Token) → Bool
  | [] => false
  | b :: bs => listHasAdjacentBoundaries false b || branchesHaveAdjacentBoundaries bs

/-- Two boundaries are next to each other in a list, or inside one of its tokens. `after` says
that a boundary stands before the list. -/
def listHasAdjacentBoundaries (after : Bool) : List Token → Bool
  | [] => false
  | t :: ts =>
    (after && t.isAtom Atom.isBoundary) || t.hasAdjacentBoundaries ||
      listHasAdjacentBoundaries (t.isAtom Atom.isBoundary) ts

end

/-! ### Bounds -/

/-- No count is in the bounds, or only zero. -/
def boundsIncompatible (lower : Nat) (upper : Option Nat) : Bool :=
  upper.any fun u => u < lower || u == 0

mutual

/-- A repetition inside the token has incompatible bounds. -/
def Token.hasIncompatibleBounds : Token → Bool
  | .atom _ => false
  | .alternatives branches => branchesHaveIncompatibleBounds branches
  | .repetition body lower upper =>
    boundsIncompatible lower upper || listHasIncompatibleBounds body

def branchesHaveIncompatibleBounds : List (List Token) → Bool
  | [] => false
  | b :: bs => listHasIncompatibleBounds b || branchesHaveIncompatibleBounds bs

def listHasIncompatibleBounds : List Token → Bool
  | [] => false
  | t :: ts => t.hasIncompatibleBounds || listHasIncompatibleBounds ts

end

/-! ### Groups -/

/-- The tokens on both sides of a group. A group at an end of another one has that group's
neighbour. -/
structure Neighbours where
  left : Option Token
  right : Option Token

/-- What stands on the left may end with such an atom. -/
def Neighbours.endsLeft (n : Neighbours) (p : Atom → Bool) : Bool :=
  n.left.any fun t => t.ends.any p

def Neighbours.startsRight (n : Neighbours) (p : Atom → Bool) : Bool :=
  n.right.any fun t => t.starts.any p

/-- The first of the rules that is broken. -/
def firstBroken (rules : List (Bool × Violation)) : Option Violation :=
  (rules.find? (·.1)).map (·.2)

def startsWith (p : Atom → Bool) (ts : List Token) : Bool := ts.head?.any (·.isAtom p)

def endsWith (p : Atom → Bool) (ts : List Token) : Bool := ts.getLast?.any (·.isAtom p)

/-- The rules for each part of a group between its neighbours. -/
def partViolation (n : Neighbours) (part : List Token) : Option Violation :=
  firstBroken
    [(startsWith (· == .separator) part && n.endsLeft Atom.isBoundary, .adjacentBoundary),
      (endsWith (· == .separator) part && n.startsRight Atom.isBoundary, .adjacentBoundary),
      (part.length == 1 && startsWith Atom.isTree part, .singularTree),
      (startsWith Atom.isTree part && n.endsLeft Atom.isBoundary, .adjacentBoundary),
      (endsWith Atom.isTree part && n.startsRight Atom.isBoundary, .adjacentBoundary),
      (startsWith (· == .many) part && n.endsLeft (· == .many), .adjacentMany),
      (endsWith (· == .many) part && n.startsRight (· == .many), .adjacentMany)]

def branchViolation (n : Neighbours) (branch : List Token) : Option Violation :=
  partViolation n branch <|>
    firstBroken [(n.left.isNone && startsWith Atom.isRooted branch, .rootedGroup)]

def bodyViolation (n : Neighbours) (body : List Token) (lower : Nat) : Option Violation :=
  partViolation n body <|>
    firstBroken
      [(n.left.isNone && lower == 0 && startsWith Atom.isRooted body, .rootedGroup),
        (startsWith Atom.isBoundary body && endsWith Atom.isBoundary body, .adjacentBoundary),
        (body.length == 1 && startsWith (· == .many) body, .singularMany)]

mutual

/-- The first rule for groups that a token breaks. -/
def Token.groupViolation (n : Neighbours) : Token → Option Violation
  | .atom _ => none
  | .alternatives branches => branchesGroupViolation n branches
  | .repetition body lower _ => bodyViolation n body lower <|> listGroupViolation n none body

def branchesGroupViolation (n : Neighbours) : List (List Token) → Option Violation
  | [] => none
  | b :: bs =>
    branchViolation n b <|> listGroupViolation n none b <|> branchesGroupViolation n bs

/-- The first rule for groups that a list breaks. `before` is the token before the list and
`outer` holds the neighbours of the group that the list is in. -/
def listGroupViolation (outer : Neighbours) (before : Option Token) :
    List Token → Option Violation
  | [] => none
  | t :: ts =>
    t.groupViolation ⟨before <|> outer.left, ts.head? <|> outer.right⟩ <|>
      listGroupViolation outer (some t) ts

end

/-! ### Size of fixed text -/

/-- Fixed text has to have fewer bytes. -/
def fixedTextLimit : Nat := 0x10000

/-- The number of bytes of an atom, if it is the same for all that the atom matches. A character
listed in a class counts four bytes, and the size of one out of a range is not fixed. -/
def Atom.fixedSize? : Atom → Option Nat
  | .literal c _ => some c.utf8Size
  | .separator => some 1
  | .oneOf false ranges => if ranges.all fun r => r.first == r.last then some 4 else none
  | _ => none

mutual

def Token.fixedSize? : Token → Option Nat
  | .atom a => a.fixedSize?
  | .alternatives branches => branchesFixedSize? branches
  | .repetition body lower upper =>
    if upper == some lower then (listFixedSize? body).map (lower * ·) else none

def branchesFixedSize? : List (List Token) → Option Nat
  | [] => none
  | b :: bs =>
    if bs.isEmpty then listFixedSize? b
    else do
      let n ← listFixedSize? b
      let m ← branchesFixedSize? bs
      if n == m then some n else none

def listFixedSize? : List Token → Option Nat
  | [] => some 0
  | t :: ts => do return (← t.fixedSize?) + (← listFixedSize? ts)

end

/-- The number of bytes of the literal text that ends with this token, if `before` bytes in the
same case stand before it. -/
def literalRun (before : Nat × Bool) : Token → Nat × Bool
  | .atom (.literal c anyCase) =>
    (if before.2 == anyCase then before.1 + c.utf8Size else c.utf8Size, anyCase)
  | _ => (0, before.2)

mutual

def Token.hasOversizedText : Token → Bool
  | .atom _ => false
  | .alternatives branches =>
    (branchesFixedSize? branches).any (fixedTextLimit ≤ ·) || branchesHaveOversizedText branches
  | .repetition body lower upper =>
    (Token.fixedSize? (.repetition body lower upper)).any (fixedTextLimit ≤ ·) ||
      listHasOversizedText (0, false) body

def branchesHaveOversizedText : List (List Token) → Bool
  | [] => false
  | b :: bs => listHasOversizedText (0, false) b || branchesHaveOversizedText bs

/-- A fixed text in the list is too long, with the literal text before the list. -/
def listHasOversizedText (before : Nat × Bool) : List Token → Bool
  | [] => false
  | t :: ts =>
    let run := literalRun before t
    fixedTextLimit ≤ run.1 || t.hasOversizedText || listHasOversizedText run ts

end

/-! ### All rules -/

def Pattern.violation? (p : Pattern) : Option Violation :=
  (if listHasAdjacentBoundaries false p then some .adjacentBoundary else none) <|>
    (if listHasIncompatibleBounds p then some .incompatibleBounds else none) <|>
    listGroupViolation ⟨none, none⟩ none p <|>
    (if listHasOversizedText (0, false) p then some .oversizedText else none)

end ShardCheck.Glob
