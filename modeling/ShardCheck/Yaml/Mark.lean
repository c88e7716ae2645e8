/-!
# Positions in a document

A mark is a position between two characters. Lines and columns count from zero and are shown from
one; `index` counts characters from the start of the text.
-/

namespace ShardCheck.Yaml

/-- A position in the text. -/
structure Mark where
  index : Nat
  line : Nat
  column : Nat
  deriving Repr, DecidableEq, Inhabited

namespace Mark

def start : Mark := ⟨0, 0, 0⟩

def next (m : Mark) : Mark := ⟨m.index + 1, m.line, m.column + 1⟩

/-- The start of the next line, after a break of `width` characters. -/
def nextLine (m : Mark) (width : Nat) : Mark := ⟨m.index + width, m.line + 1, 0⟩

/-- The mark is at the first column of the first line; messages leave such a position out. -/
def isOrigin (m : Mark) : Bool := m.line == 0 && m.column == 0

def samePlace (m n : Mark) : Bool := m.line == n.line && m.column == n.column

def text (m : Mark) : String :=
  "line " ++ toString (m.line + 1) ++ " column " ++ toString (m.column + 1)

/-- The position as the end of a message, empty at the origin. -/
def suffixText (m : Mark) : String :=
  if m.isOrigin then "" else " at " ++ m.text

end Mark

end ShardCheck.Yaml
