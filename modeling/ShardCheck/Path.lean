/-!
# Paths

A path is a text whose segments are separated by slashes. Its components are the root, a point at
its very start, and the segments that are neither empty nor a point; two points name the parent.
Operations go by components, but what is left of a path keeps its own spelling.
-/

namespace ShardCheck.Path

/-! ### Segments -/

/-- Splits a text at its slashes. -/
def segmentsOf : List Char → List (List Char)
  | [] => [[]]
  | c :: r =>
    if c == '/' then [] :: segmentsOf r
    else
      match segmentsOf r with
      | s :: ss => (c :: s) :: ss
      | [] => [[c]]

def joinSegments : List (List Char) → List Char
  | [] => []
  | [s] => s
  | s :: ss => s ++ '/' :: joinSegments ss

theorem segmentsOf_ne_nil (s : List Char) : segmentsOf s ≠ [] := by
  cases s with
  | nil => simp [segmentsOf]
  | cons c r =>
    simp only [segmentsOf]
    split
    · simp
    · split <;> simp

@[simp] theorem joinSegments_segmentsOf (s : List Char) : joinSegments (segmentsOf s) = s := by
  induction s with
  | nil => rfl
  | cons c r ih =>
    simp only [segmentsOf]
    split
    · rename_i hc
      cases h : segmentsOf r with
      | nil => exact absurd h (segmentsOf_ne_nil r)
      | cons t ts => simp_all [joinSegments]
    · cases h : segmentsOf r with
      | nil => exact absurd h (segmentsOf_ne_nil r)
      | cons t ts =>
        rw [h] at ih
        cases ts with
        | nil => simp_all [joinSegments]
        | cons u us => simp_all [joinSegments]

def segments (p : String) : List String :=
  (segmentsOf p.toList).map String.ofList

/-- The segment names something. -/
def isName (s : String) : Bool := s != "" && s != "."

/-! ### Components -/

/-- A component of a path. -/
inductive Component where
  | root
  | current
  | parent
  | normal (name : String)
  deriving Repr, DecidableEq

/-- The component that a segment names after the start of a path. -/
def Component.ofSegment (s : String) : Component :=
  if s == ".." then .parent else .normal s

/-- The name of a component, unless it is the root or a point. -/
def Component.name? : Component → Option String
  | .normal s => some s
  | _ => none

/-- The component at the start of a path that is no segment with a name, and the segments after
it. -/
def start (p : String) : Option Component × List String :=
  match segments p with
  | s :: ss =>
    if s == "" && !ss.isEmpty then (some .root, ss)
    else if s == "." then (some .current, ss)
    else (none, s :: ss)
  | [] => (none, [])

def components (p : String) : List Component :=
  let (first, ss) := start p
  first.toList ++ (ss.filter isName).map .ofSegment

/-- The last component, if it is a name. -/
def fileName? (p : String) : Option String :=
  (components p).getLast?.bind Component.name?

def names (p : String) : List String :=
  (components p).filterMap Component.name?

/-- The text behind the last point of a file name. A point at the very start does not count. -/
def extensionOf (name : List Char) : Option (List Char) :=
  let after := (name.reverse.takeWhile (· != '.')).reverse
  if after.length + 1 < name.length then some after else none

def extension? (p : String) : Option String := do
  let name ← fileName? p
  return String.ofList (← extensionOf name.toList)

/-! ### Joining and stripping -/

def isAbsolute (p : String) : Bool := p.toList.head? == some '/'

/-- A path as seen from a base; an absolute path stays as it is. -/
def join (base p : String) : String :=
  if isAbsolute p then p
  else if base == "" || base.toList.getLast? == some '/' then base ++ p
  else base ++ "/" ++ p

/-- The segments without the nameless ones at the end. -/
def trimEnd (ss : List String) : List String :=
  (ss.reverse.dropWhile (!isName ·)).reverse

/-- Drops segments up to and with the `n`-th that has a name, and the nameless ones after it. -/
def dropNames : Nat → List String → List String
  | 0, ss => ss.dropWhile (!isName ·)
  | _ + 1, [] => []
  | n + 1, s :: ss => if isName s then dropNames n ss else dropNames (n + 1) ss

def ofSegments (ss : List String) : String :=
  String.ofList (joinSegments (ss.map String.toList))

/-- The path without its first `n` components, from name to name in its own spelling. -/
def dropComponents (p : String) (n : Nat) : String :=
  let (first, ss) := start p
  match n, first with
  | 0, some .root => "/" ++ ofSegments (trimEnd ss)
  | 0, some _ => ofSegments ("." :: trimEnd ss)
  | 0, none => ofSegments (trimEnd ss)
  | n + 1, some _ => ofSegments (trimEnd (dropNames n ss))
  | n + 1, none => ofSegments (trimEnd (dropNames (n + 1) ss))

/-- The path as seen from a base, if the base is the start of it. -/
def strip? (base p : String) : Option String :=
  let bs := components base
  if bs.isPrefixOf (components p) then some (dropComponents p bs.length) else none

def forwardSlashes (p : String) : String :=
  String.ofList (p.toList.map fun c => if c == '\\' then '/' else c)

/-- The path as seen from a root, if it is under it, with forward slashes. -/
def relativeTo (root p : String) : String :=
  forwardSlashes ((strip? root p).getD p)

end ShardCheck.Path
