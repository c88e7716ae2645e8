import ShardCheck.Glob.Pattern
import ShardCheck.Glob.Regex

/-!
# The meaning of a pattern

The regular expression that a pattern stands for. A path is matched as a whole.

What a tree matches depends on where it stands: the slashes that it took with it are optional at the
ends of the pattern, and between other tokens it is one slash or two with any text between them. In
a group the place of the group counts as well. A class is read in any case if the literal before it
in its glob is.
-/

namespace ShardCheck.Glob

/-- A place in a list. -/
inductive Place where
  | only
  | first
  | middle
  | last
  deriving Repr, DecidableEq

/-- The place of a token with or without others before and after it. -/
def Place.of (hasBefore hasAfter : Bool) : Place :=
  match hasBefore, hasAfter with
  | false, false => .only
  | false, true => .first
  | true, true => .middle
  | true, false => .last

namespace Regex

def slash : Regex := .chars (.single '/')

/-- Any text without line feed. -/
def anyText : Regex := .star (.chars .notNewline)

/-- A slash, or two with any text between them. -/
def between : Regex := .alt slash (.seq slash (.seq anyText slash))

/-- A tree at a place of its list, where `outer` is the place of the outermost group around it. -/
def tree (rooted : Bool) (outer : Option Place) : Place → Regex
  | .only => anyText
  | .middle => between
  | .first =>
    if outer == some .middle || outer == some .last then between
    else if rooted then .seq slash (.seq anyText (.optional slash))
    else .alt (.optional slash) (.seq anyText slash)
  | .last =>
    if outer == some .first || outer == some .middle then between
    else .alt (.optional slash) (.seq slash anyText)

/-- One character of a class. A class never matches a slash, and one with a range that ends before
it starts matches nothing. -/
def ofClass (anyCase negated : Bool) (ranges : List CharRange) : Regex :=
  if ranges.all fun r => r.first ≤ r.last then
    let listed := CharSet.ofRanges (ranges.map fun r => (r.first.toNat, r.last.toNat))
    let listed := if anyCase then listed.anyCase else listed
    .chars ((if negated then listed.complement else listed).inter .notSeparator)
  else .chars .empty

end Regex

/-- The expression for an atom. `anyCase` is the case of the literal before it. -/
def Atom.regex (outer : Option Place) (place : Place) (anyCase : Bool) : Atom → Regex
  | .literal c true => .chars (.variants c)
  | .literal c false => .chars (.single c)
  | .separator => .slash
  | .one => .chars .notSeparator
  | .many => .star (.chars .notSeparator)
  | .tree rooted => .tree rooted outer place
  | .oneOf negated ranges => .ofClass anyCase negated ranges

/-- The case of the literals after a token. -/
def Token.caseAfter (before : Bool) : Token → Bool
  | .atom (.literal _ anyCase) => anyCase
  | _ => before

mutual

def Token.regex (outer : Option Place) (place : Place) (anyCase : Bool) : Token → Regex
  | .atom a => a.regex outer place anyCase
  | .alternatives branches => .any (branchRegexes (outer <|> some place) anyCase branches)
  | .repetition body lower upper =>
    .rep (listRegex (outer <|> some place) false anyCase body) lower upper

def branchRegexes (outer : Option Place) (anyCase : Bool) : List (List Token) → List Regex
  | [] => []
  | b :: bs => listRegex outer false anyCase b :: branchRegexes outer anyCase bs

/-- The expression for a list of tokens, which may have others before it. -/
def listRegex (outer : Option Place) (hasBefore anyCase : Bool) : List Token → Regex
  | [] => .empty
  | t :: ts =>
    (t.regex outer (.of hasBefore !ts.isEmpty) anyCase).append
      (listRegex outer true (t.caseAfter anyCase) ts)

end

def Pattern.regex (p : Pattern) : Regex := listRegex none false false p

end ShardCheck.Glob
