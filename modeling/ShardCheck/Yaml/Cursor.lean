import ShardCheck.Yaml.Mark

/-!
# Reading position

A cursor is the rest of the text together with the mark of its first character. Line breaks are
carriage return, line feed, both in that order, next line, and the line and paragraph separators.
-/

namespace ShardCheck.Yaml

/-! ### Classes of characters -/

/-- A space or a tab. -/
def isBlank (c : Char) : Bool := c == ' ' || c == '\t'

def isBreak (c : Char) : Bool :=
  c == '\n' || c == '\r' || c == '\u0085' || c == '\u2028' || c == '\u2029'

def isSpacing (c : Char) : Bool := isBlank c || isBreak c

/-- A character of anchors, tag handles and directive names. -/
def isWord (c : Char) : Bool :=
  c.isAlphanum || c == '_' || c == '-'

def hexValue? (c : Char) : Option Nat :=
  if c.isDigit then some (c.toNat - '0'.toNat)
  else if 'a' ≤ c && c ≤ 'f' then some (c.toNat - 'a'.toNat + 10)
  else if 'A' ≤ c && c ≤ 'F' then some (c.toNat - 'A'.toNat + 10)
  else none

/-- The text is over or starts with a blank or a line break. -/
def atSpacing : List Char → Bool
  | [] => true
  | c :: _ => isSpacing c

/-- The text is over or starts with a line break. -/
def atLineEnd : List Char → Bool
  | [] => true
  | c :: _ => isBreak c

/-! ### Cursors -/

/-- The rest of the text and the mark of its first character. -/
structure Cursor where
  rest : List Char
  mark : Mark
  deriving Repr, DecidableEq

namespace Cursor

def ofText (s : List Char) : Cursor := ⟨s, Mark.start⟩

/-- Moves over one character that is no line break. -/
def skip (c : Cursor) : Cursor := ⟨c.rest.tail, c.mark.next⟩

def skipMany : Nat → Cursor → Cursor
  | 0, c => c
  | n + 1, c => skipMany n c.skip

/-- The characters up to the first one outside the class, and the cursor there. -/
def span (p : Char → Bool) : List Char → Mark → List Char × Cursor
  | [], m => ([], ⟨[], m⟩)
  | c :: r, m =>
    if p c then
      let (taken, after) := span p r m.next
      (c :: taken, after)
    else ([], ⟨c :: r, m⟩)

def skipWhile (p : Char → Bool) (c : Cursor) : Cursor := (span p c.rest c.mark).2

def takeWhile (p : Char → Bool) (c : Cursor) : List Char × Cursor := span p c.rest c.mark

/-- Moves over one line break and gives the text it stands for: a line feed, or the separator
itself. At any other character nothing happens. -/
def takeBreak (c : Cursor) : List Char × Cursor :=
  match c.rest with
  | '\r' :: '\n' :: r => (['\n'], ⟨r, c.mark.nextLine 2⟩)
  | x :: r =>
    if x == '\u2028' || x == '\u2029' then ([x], ⟨r, c.mark.nextLine 1⟩)
    else if isBreak x then (['\n'], ⟨r, c.mark.nextLine 1⟩)
    else ([], c)
  | [] => ([], c)

def skipBreak (c : Cursor) : Cursor := c.takeBreak.2

/-- Moves over a comment up to the end of its line. -/
def skipComment (c : Cursor) : Cursor :=
  match c.rest with
  | '#' :: _ => c.skipWhile fun x => !isBreak x
  | _ => c

/-- At the start of a line stand three times the given character, and nothing but spacing
follows. -/
def atDocumentMark (c : Cursor) (x : Char) : Bool :=
  c.mark.column == 0 &&
    match c.rest with
    | x₁ :: x₂ :: x₃ :: r => x₁ == x && x₂ == x && x₃ == x && atSpacing r
    | _ => false

def atDocumentBoundary (c : Cursor) : Bool :=
  c.atDocumentMark '-' || c.atDocumentMark '.'

end Cursor

end ShardCheck.Yaml
