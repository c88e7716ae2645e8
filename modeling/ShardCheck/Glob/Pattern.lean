import ShardCheck.Glob.Lexeme

/-!
# Patterns

A pattern is the list of tokens of a glob. It is built from the lexemes with a stack of the groups
that are open. No group and no branch is empty, but the pattern as a whole may be.
-/

namespace ShardCheck.Glob

/-- The tokens of a glob. -/
abbrev Pattern := List Token

/-- A group that is open, with what stands before it, the last first. -/
inductive OpenGroup where
  /-- Alternatives and their finished branches, the last first. -/
  | alternatives (before : Pattern) (branches : List Pattern)
  | repetition (before : Pattern)
  deriving Repr

namespace Pattern

/-- Builds the rest of a pattern inside the open groups. `current` holds the tokens of the innermost
group so far, the last first. -/
def build? (groups : List OpenGroup) (current : Pattern) : List Lexeme → Option Pattern
  | [] => if groups.isEmpty then some current.reverse else none
  | .atom a :: ls => build? groups (.atom a :: current) ls
  | .openAlternatives :: ls => build? (.alternatives current [] :: groups) [] ls
  | .openRepetition :: ls => build? (.repetition current :: groups) [] ls
  | .nextAlternative :: ls =>
    match groups with
    | .alternatives before branches :: groups =>
      if current.isEmpty then none
      else build? (.alternatives before (current.reverse :: branches) :: groups) [] ls
    | _ => none
  | .closeAlternatives :: ls =>
    match groups with
    | .alternatives before branches :: groups =>
      if current.isEmpty then none
      else build? groups (.alternatives (current.reverse :: branches).reverse :: before) ls
    | _ => none
  | .closeRepetition lower upper :: ls =>
    match groups with
    | .repetition before :: groups =>
      if current.isEmpty then none
      else build? groups (.repetition current.reverse lower upper :: before) ls
    | _ => none

def ofLexemes? (ls : List Lexeme) : Option Pattern := build? [] [] ls

def parse? (text : String) : Option Pattern :=
  (Lexeme.scan true false text.toList).bind ofLexemes?

end Pattern

end ShardCheck.Glob
