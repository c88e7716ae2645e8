/-!
# Tokens of a glob

A glob is a sequence of tokens. An atom stands for itself; alternatives and repetitions are groups,
which hold globs of their own.
-/

namespace ShardCheck.Glob

/-- The characters from `first` to `last`. -/
structure CharRange where
  first : Char
  last : Char
  deriving Repr, DecidableEq

/-- A token that holds no other. -/
inductive Atom where
  /-- A character, perhaps in any case. -/
  | literal (c : Char) (anyCase : Bool)
  /-- A slash. -/
  | separator
  /-- One character of a component. -/
  | one
  /-- Any text within a component. -/
  | many
  /-- Any number of components. A rooted tree starts with a slash of its own. -/
  | tree (rooted : Bool)
  /-- One character in one of the ranges, or in none of them. -/
  | oneOf (negated : Bool) (ranges : List CharRange)
  deriving Repr, DecidableEq

/-- A token. -/
inductive Token where
  | atom (a : Atom)
  /-- Any one of the branches. -/
  | alternatives (branches : List (List Token))
  /-- The body as often as the bounds allow. -/
  | repetition (body : List Token) (lower : Nat) (upper : Option Nat)
  deriving Repr

namespace Atom

/-- An atom at which a component ends: a separator or a tree. -/
def isBoundary : Atom → Bool
  | .separator | .tree _ => true
  | _ => false

def isTree : Atom → Bool
  | .tree _ => true
  | _ => false

/-- An atom that starts with a slash of its own. -/
def isRooted : Atom → Bool
  | .separator | .tree true => true
  | _ => false

end Atom

def Token.isAtom (p : Atom → Bool) : Token → Bool
  | .atom a => p a
  | _ => false

end ShardCheck.Glob
