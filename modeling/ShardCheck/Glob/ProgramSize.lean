import ShardCheck.Glob.Regex
import ShardCheck.Text.Basic

/-!
# The size of the program of an expression

Patterns are limited by the memory of the byte automaton that would match them: 32 bytes for each
state, 8 for each transition of a state with several, and 4 for each way on from a branch. There are
two automata, one that reads forwards and one that reads backwards, and both have to be below the
limit. Counted repetition copies its body.
-/

namespace ShardCheck.Glob

/-- The direction in which an automaton reads. -/
inductive Direction where
  | forward
  | backward
  deriving Repr, DecidableEq

namespace CharSet

/-- The different first elements of a list of lists. -/
def heads {α : Type} [BEq α] (ls : List (List α)) : List α := (ls.filterMap List.head?).eraseDups

/-- All beginnings of a list but the empty one. -/
def beginnings {α : Type} : List α → List (List α)
  | [] => []
  | a :: l => [a] :: (beginnings l).map (a :: ·)

/-- What follows a beginning in some lists. -/
def following {α : Type} [BEq α] (ls : List (List α)) (start : List α) : List (List α) :=
  (ls.filter fun l => start.isPrefixOf l && start.length < l.length).map (·.drop start.length)

/-- The memory for one character of a set that is not all of ASCII. Forwards, equal states are
shared. Backwards, the ways are shared as far as their first bytes agree. -/
def wideSize (s : CharSet) : Direction → Nat
  | .forward =>
    let ways := s.ranges.flatMap fun (a, b) => Text.utf8Ranges a b
    let states := (([] :: ways.flatMap beginnings).map (following ways)).eraseDups.filter
      (!·.isEmpty)
    32 * (states.length + 1) + 8 * states.foldr (fun ls n => (heads ls).length + n) 0
  | .backward =>
    let ways := s.ranges.flatMap fun (a, b) => Text.utf8Ranges a b
    32 * ((ways.flatMap beginnings).eraseDups.length + 2) + 4 * ways.length

def programSize (s : CharSet) (d : Direction) : Nat :=
  match s.ranges with
  | [] => 32
  | [(a, b)] =>
    if a == b then 32 * (Text.utf8Bytes a).length
    else if b < 0x80 then 64 + 8
    else s.wideSize d
  | rs => if rs.all (·.2 < 0x80) then 64 + 8 * rs.length else s.wideSize d

end CharSet

namespace Regex

/-- The memory for a repetition of a body of the given size. -/
def repSize (size : Nat) (nullable : Bool) (lower : Nat) : Option Nat → Nat
  | some 0 => 32
  | some 1 => if lower == 0 then size + 72 else size
  | some upper =>
    if lower == upper then lower * size
    else (if lower == 0 then 32 else lower * size) + (upper - lower) * (size + 40) + 32
  | none =>
    if lower == 0 then (if nullable then size + 112 else size + 40)
    else lower * size + 40

mutual

def programSize (d : Direction) : Regex → Nat
  | .empty => 32
  | .chars s => s.programSize d
  | .seq r s => r.programSize d + s.programSize d
  | .alt r s => 64 + r.branchSize d + s.branchSize d
  | .rep r lower upper => repSize (r.programSize d) r.nullable lower upper

/-- The memory for an expression as a branch. Branches of branches are branches of their own. -/
def branchSize (d : Direction) : Regex → Nat
  | .empty => 36
  | .chars s => 4 + s.programSize d
  | .seq r s => 4 + r.programSize d + s.programSize d
  | .alt r s => r.branchSize d + s.branchSize d
  | .rep r lower upper => 4 + repSize (r.programSize d) r.nullable lower upper

end

/-- The most memory that an automaton may take. -/
def programLimit : Nat := 10 * Nat.pow 2 20

def fits (r : Regex) : Bool :=
  r.programSize .forward ≤ programLimit && r.programSize .backward ≤ programLimit

end Regex

end ShardCheck.Glob
