import ShardCheck.Glob.CharSet

/-!
# Regular expressions

Regular expressions over sets of characters, with counted repetition. A text is matched by partial
derivatives: after each character the expressions are kept that the rest of the text may match. A
counter stays a number, so the size of an expression does not depend on it.
-/

namespace ShardCheck.Glob

/-- A regular expression. -/
inductive Regex where
  /-- The empty text. -/
  | empty
  /-- One character of the set. -/
  | chars (s : CharSet)
  /-- One after the other. -/
  | seq (r s : Regex)
  /-- Either. -/
  | alt (r s : Regex)
  /-- Again and again, as often as the bounds allow. -/
  | rep (r : Regex) (lower : Nat) (upper : Option Nat)
  deriving Repr, DecidableEq

namespace Regex

/-! ### Building -/

/-- One after the other, without empty parts. -/
def append : Regex → Regex → Regex
  | .empty, s => s
  | r, .empty => r
  | r, s => .seq r s

/-- The set of an expression for one character. -/
def charSet? : Regex → Option CharSet
  | .chars s => some s
  | _ => none

/-- Either of some expressions, of which there is at least one. -/
def anyOf : Regex → List Regex → Regex
  | r, [] => r
  | r, s :: rs => .alt r (anyOf s rs)

/-- Any one of a list. Expressions for one character are joined if there are no others. -/
def any (rs : List Regex) : Regex :=
  match rs.mapM charSet?, rs with
  | some sets, _ => .chars (sets.foldl CharSet.union .empty)
  | none, [] => .chars .empty
  | none, r :: rs => anyOf r rs

def star (r : Regex) : Regex := .rep r 0 none

def optional (r : Regex) : Regex := .rep r 0 (some 1)

/-! ### Matching -/

def nullable : Regex → Bool
  | .empty => true
  | .chars _ => false
  | .seq r s => r.nullable && s.nullable
  | .alt r s => r.nullable || s.nullable
  | .rep r lower _ => lower == 0 || r.nullable

/-- What may follow a character in the texts that an expression matches. -/
def after (c : Char) : Regex → List Regex
  | .empty => []
  | .chars s => if s.contains c then [.empty] else []
  | .seq r s => (r.after c).map (·.append s) ++ if r.nullable then s.after c else []
  | .alt r s => r.after c ++ s.after c
  | .rep r lower upper =>
    if upper == some 0 then []
    else (r.after c).map (·.append (.rep r (lower - 1) (upper.map (· - 1))))

/-- A repetition of at most `v` times is one of at most `u` times. -/
def upperCovers (u v : Option Nat) : Bool :=
  match u, v with
  | none, _ => true
  | some _, none => false
  | some m, some n => n ≤ m

/-- The form of two expressions shows that the first matches all that the second one matches: they
are equal, or may only differ in how often they go on with a repetition at most. -/
def covers : Regex → Regex → Bool
  | .rep r 0 u, .rep s 0 v => r == s && upperCovers u v
  | .seq r₁ r₂, .seq s₁ s₂ => r₁.covers s₁ && r₂ == s₂
  | r, s => r == s

/-- The expressions with one more, without those that others cover. -/
def addUncovered (rs : List Regex) (s : Regex) : List Regex :=
  if rs.any (·.covers s) then rs else s :: rs.filter (!s.covers ·)

def anyAccepts : List Regex → List Char → Bool
  | rs, [] => rs.any nullable
  | rs, c :: cs => anyAccepts ((rs.flatMap (after c)).foldl addUncovered []) cs

/-- The expression matches the whole text. -/
def accepts (r : Regex) (cs : List Char) : Bool := anyAccepts [r] cs

end Regex

end ShardCheck.Glob
