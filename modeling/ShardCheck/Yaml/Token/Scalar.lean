import ShardCheck.Yaml.Cursor
import ShardCheck.Yaml.Fault
import ShardCheck.Yaml.Token

/-!
# Scalar tokens

Reading of plain, quoted and block scalars. Inside a scalar that spans lines, a single line break
becomes a space and further ones are kept.
-/

namespace ShardCheck.Yaml

/-! ### Gaps between words -/

/-- The spacing between two words of a scalar: the blanks of a gap within one line, or the first
line break and those after it. -/
structure Gap where
  blanks : List Char
  broken : Bool
  firstBreak : List Char
  moreBreaks : List Char
  deriving Repr, DecidableEq

namespace Gap

def none : Gap := ⟨[], false, [], []⟩

/-- The gap that an escaped line break opens. -/
def escaped : Gap := ⟨[], true, [], []⟩

/-- The text that stands for the gap in the scalar. -/
def fold (g : Gap) : List Char :=
  if !g.broken then g.blanks
  else if g.firstBreak == ['\n'] then
    if g.moreBreaks.isEmpty then [' '] else g.moreBreaks
  else g.firstBreak ++ g.moreBreaks

/-- The gap with one blank more. The blanks before a break and after it do not count. -/
def addBlank (g : Gap) (c : Char) : Gap :=
  if g.broken then g else { g with blanks := g.blanks ++ [c] }

def addBreak (g : Gap) (b : List Char) : Gap :=
  if g.broken then { g with moreBreaks := g.moreBreaks ++ b }
  else { g with blanks := [], broken := true, firstBreak := b }

/-- Reads the spacing at a position. After a line break, a tab left of column `indent` is an
error, given by its mark. -/
def read (indent : Nat) : Gap → List Char → Mark → Except Mark (Gap × Cursor)
  | g, '\r' :: '\n' :: r, m => read indent (g.addBreak ['\n']) r (m.nextLine 2)
  | g, c :: r, m =>
    if isBlank c then
      if g.broken && m.column < indent && c == '\t' then .error m
      else read indent (g.addBlank c) r m.next
    else if isBreak c then
      let b := if c == '\u2028' || c == '\u2029' then [c] else ['\n']
      read indent (g.addBreak b) r (m.nextLine 1)
    else .ok (g, ⟨c :: r, m⟩)
  | g, [], m => .ok (g, ⟨[], m⟩)

end Gap

/-! ### Plain scalars -/

/-- The characters that separate nodes inside flow collections. -/
def isFlowIndicator (c : Char) : Bool :=
  c == ',' || c == '[' || c == ']' || c == '\x7b' || c == '\x7d'

/-- The text starts with a flow indicator or a question mark. -/
def atFlowStop : List Char → Bool
  | c :: _ => isFlowIndicator c || c == '?'
  | [] => false

/-- One word of a plain scalar: it ends at spacing, at a colon before spacing, and in a flow
collection at a flow indicator. The error is a colon before a flow indicator. -/
def plainWord (flow : Bool) : List Char → Mark → Except Mark (List Char × Cursor)
  | [], m => .ok ([], ⟨[], m⟩)
  | c :: r, m =>
    if isSpacing c then .ok ([], ⟨c :: r, m⟩)
    else if flow && c == ':' && atFlowStop r then .error m
    else if (c == ':' && atSpacing r) || (flow && isFlowIndicator c) then .ok ([], ⟨c :: r, m⟩)
    else do
      let (w, after) ← plainWord flow r m.next
      return (c :: w, after)

/-- A plain scalar as read: its text, the mark of its end, whether a line break follows that was
read with it, and the cursor after the spacing. -/
structure PlainScalar where
  text : List Char
  stop : Mark
  broken : Bool
  after : Cursor

/-- Reads the words of a plain scalar and the gaps between them. Outside flow collections a line
that starts left of column `indent` ends the scalar. -/
def plainWords (flow : Bool) (indent : Nat) (start : Mark) :
    Nat → List Char → Gap → Mark → Cursor → Except Fault PlainScalar
  | 0, text, gap, stop, c => .ok ⟨text, stop, gap.broken, c⟩
  | fuel + 1, text, gap, stop, c =>
    if c.atDocumentBoundary || c.rest.head? == some '#' then .ok ⟨text, stop, gap.broken, c⟩
    else
      match plainWord flow c.rest c.mark with
      | .error m => .error ⟨.colonInFlowPlain, m, some (.plainScalar, start), 0⟩
      | .ok (word, afterWord) =>
        let text := if word.isEmpty then text else text ++ gap.fold ++ word
        let stop := if word.isEmpty then stop else afterWord.mark
        let gap := if word.isEmpty then gap else Gap.none
        if afterWord.rest.head?.any isSpacing then
          match Gap.read indent gap afterWord.rest afterWord.mark with
          | .error m => .error ⟨.tabInPlainIndentation, m, some (.plainScalar, start), 0⟩
          | .ok (gap, afterGap) =>
            if !flow && afterGap.mark.column < indent then .ok ⟨text, stop, gap.broken, afterGap⟩
            else plainWords flow indent start fuel text gap stop afterGap
        else .ok ⟨text, stop, gap.broken, afterWord⟩

def readPlain (flow : Bool) (indent : Nat) (c : Cursor) : Except Fault PlainScalar :=
  plainWords flow indent c.mark (c.rest.length + 1) [] Gap.none c.mark c

/-! ### Quoted scalars -/

def escapeLetter? : Char → Option Char
  | '0' => some '\x00'
  | 'a' => some '\x07'
  | 'b' => some '\x08'
  | 't' => some '\t'
  | '\t' => some '\t'
  | 'n' => some '\n'
  | 'v' => some '\x0b'
  | 'f' => some '\x0c'
  | 'r' => some '\r'
  | 'e' => some '\x1b'
  | ' ' => some ' '
  | '"' => some '"'
  | '/' => some '/'
  | '\\' => some '\\'
  | 'N' => some '\u0085'
  | '_' => some '\u00a0'
  | 'L' => some '\u2028'
  | 'P' => some '\u2029'
  | _ => none

/-- The number of hexadecimal digits after an escape letter that takes a code point. -/
def escapeWidth? : Char → Option Nat
  | 'x' => some 2
  | 'u' => some 4
  | 'U' => some 8
  | _ => none

/-- The value of the first `n` characters as hexadecimal digits. -/
def hexNumber? : Nat → List Char → Nat → Option Nat
  | 0, _, acc => some acc
  | n + 1, c :: r, acc => do hexNumber? n r (16 * acc + (← hexValue? c))
  | _ + 1, [], _ => none

def readEscape (start : Mark) (c : Cursor) : Except Fault (Char × Cursor) :=
  let fault (p : Problem) (m : Mark) : Fault := ⟨p, m, some (.quotedEscape, start), 0⟩
  match c.rest with
  | _ :: x :: r =>
    match escapeLetter? x, escapeWidth? x with
    | some y, _ => .ok (y, ⟨r, c.mark.next.next⟩)
    | none, some n =>
      let digits := c.skip.skip
      match hexNumber? n r 0 with
      | none => .error (fault .missingHexDigit digits.mark)
      | some v =>
        if (0xd800 ≤ v && v ≤ 0xdfff) || 0x10ffff < v then
          .error (fault .badEscapeCode digits.mark)
        else .ok (Char.ofNat v, digits.skipMany n)
    | none, none => .error (fault .unknownEscape c.mark)
  | _ => .error (fault .unknownEscape c.mark)

/-- A run of characters of a quoted scalar without spacing, and the gap that it opens when it ends
in an escaped line break. -/
def quotedRun (double : Bool) (start : Mark) :
    Nat → List Char → Cursor → Except Fault (List Char × Gap × Cursor)
  | 0, text, c => .ok (text, Gap.none, c)
  | fuel + 1, text, c =>
    match c.rest with
    | [] => .ok (text, Gap.none, c)
    | x :: r =>
      if isSpacing x then .ok (text, Gap.none, c)
      else if !double && x == '\'' && r.head? == some '\'' then
        quotedRun double start fuel (text ++ ['\'']) c.skip.skip
      else if x == (if double then '"' else '\'') then .ok (text, Gap.none, c)
      else if double && x == '\\' then
        if r.head?.any isBreak then .ok (text, Gap.escaped, c.skip.skipBreak)
        else do
          let (y, after) ← readEscape start c
          quotedRun double start fuel (text ++ [y]) after
      else quotedRun double start fuel (text ++ [x]) c.skip

/-- Reads the runs of a quoted scalar and the gaps between them up to the closing quote. -/
def quotedRuns (double : Bool) (start : Mark) :
    Nat → List Char → Cursor → Except Fault (List Char × Cursor)
  | 0, _, c => .error ⟨.endInQuotes, c.mark, some (.quotedScalar, start), 0⟩
  | fuel + 1, text, c =>
    if c.atDocumentBoundary then
      .error ⟨.documentMarkInQuotes, c.mark, some (.quotedScalar, start), 0⟩
    else if c.rest.isEmpty then
      .error ⟨.endInQuotes, c.mark, some (.quotedScalar, start), 0⟩
    else do
      let (text, gap, afterRun) ← quotedRun double start (c.rest.length + 1) text c
      if afterRun.rest.head? == some (if double then '"' else '\'') then
        return (text, afterRun.skip)
      match Gap.read 0 gap afterRun.rest afterRun.mark with
      | .error m => .error ⟨.endInQuotes, m, some (.quotedScalar, start), 0⟩
      | .ok (gap, afterGap) => quotedRuns double start fuel (text ++ gap.fold) afterGap

def readQuoted (double : Bool) (c : Cursor) : Except Fault (List Char × Cursor) :=
  quotedRuns double c.mark (c.rest.length + 1) [] c.skip

/-! ### Block scalars -/

/-- What becomes of the line breaks at the end of a block scalar. -/
inductive Chomping where
  | strip
  | clip
  | keep
  deriving Repr, DecidableEq

def Chomping.ofIndicator? : Char → Option Chomping
  | '+' => some .keep
  | '-' => some .strip
  | _ => none

/-- The header of a block scalar: its chomping, and the indentation it states, if any. -/
structure BlockHeader where
  chomping : Chomping
  increment : Option Nat
  after : Cursor

/-- Reads an indentation indicator, a digit other than zero. -/
def readIndentation (start : Mark) (c : Cursor) : Except Fault (Option Nat × Cursor) :=
  match c.rest with
  | x :: _ =>
    if x == '0' then .error ⟨.zeroIndentation, c.mark, some (.blockScalar, start), 0⟩
    else if x.isDigit then .ok (some (x.toNat - '0'.toNat), c.skip)
    else .ok (none, c)
  | [] => .ok (none, c)

def readChomping (c : Cursor) : Option Chomping × Cursor :=
  match c.rest.head?.bind Chomping.ofIndicator? with
  | some x => (some x, c.skip)
  | none => (none, c)

/-- Reads the two indicators of a block scalar, which may come in either order, and the rest of
their line. -/
def readBlockHeader (start : Mark) (c : Cursor) : Except Fault BlockHeader := do
  let (chomping, c) := readChomping c
  let (increment, c) ← readIndentation start c
  let (chomping, c) :=
    match chomping, increment with
    | none, some _ => readChomping c
    | _, _ => (chomping, c)
  let c := (c.skipWhile isBlank).skipComment
  if !atLineEnd c.rest then
    .error ⟨.missingLineEnd, c.mark, some (.blockScalar, start), 0⟩
  return ⟨chomping.getD .clip, increment, c.skipBreak⟩

/-- Lines without content before a content line: the breaks, the greatest column reached, the end
of the last such line, and the cursor at the content. -/
structure BlankLines where
  breaks : List Char
  width : Nat
  stop : Mark
  after : Cursor

/-- Reads lines without content. Up to column `indent`, or anywhere while that is not known yet,
spaces count as indentation, and a tab is an error. -/
def readBlankLines (indent : Option Nat) (start : Mark) :
    Nat → BlankLines → Except Fault BlankLines
  | 0, b => .ok b
  | fuel + 1, b =>
    let inside (m : Mark) : Bool := indent.all (m.column < ·)
    match b.after.rest with
    | [] => .ok b
    | x :: _ =>
      let c := b.after
      if inside c.mark && x == ' ' then
        readBlankLines indent start fuel
          { b with width := max b.width c.skip.mark.column, after := c.skip }
      else if inside c.mark && x == '\t' then
        .error ⟨.tabInBlockIndentation, c.mark, some (.blockScalar, start), 0⟩
      else if isBreak x then
        let (text, c) := c.takeBreak
        readBlankLines indent start fuel ⟨b.breaks ++ text, b.width, c.mark, c⟩
      else .ok b

def blankLines (indent : Option Nat) (start : Mark) (c : Cursor) : Except Fault BlankLines :=
  readBlankLines indent start (c.rest.length + 1) ⟨[], c.mark.column, c.mark, c⟩

/-- A block scalar as read so far: its text, the break after the last content line, the breaks of
the empty lines after it, whether that line started with a blank, and the end mark. -/
structure BlockText where
  text : List Char
  lastBreak : List Char
  emptyLines : List Char
  startsBlank : Bool
  stop : Mark
  after : Cursor

/-- Reads the content lines of a block scalar, which start exactly at column `indent`. A folded
scalar joins two lines by a space where neither starts with a blank. -/
def blockLines (isFolded : Bool) (indent : Nat) (start : Mark) :
    Nat → BlockText → Except Fault BlockText
  | 0, b => .ok b
  | fuel + 1, b =>
    if b.after.mark.column == indent && !b.after.rest.isEmpty then do
      let blank := b.after.rest.head?.any isBlank
      let joint :=
        if isFolded && b.lastBreak == ['\n'] && !b.startsBlank && !blank then
          if b.emptyLines.isEmpty then [' '] else []
        else b.lastBreak
      let (line, c) := b.after.takeWhile fun x => !isBreak x
      let (lastBreak, c) := c.takeBreak
      let empty ← blankLines (some indent) start c
      blockLines isFolded indent start fuel
        ⟨b.text ++ joint ++ b.emptyLines ++ line, lastBreak, empty.breaks, blank, empty.stop,
          empty.after⟩
    else .ok b

/-- Reads the block scalar at the cursor inside a collection indented by `parent` columns, if
any. -/
def readBlock (isFolded : Bool) (parent : Option Nat) (c : Cursor) :
    Except Fault (List Char × Mark × Cursor) := do
  let start := c.mark
  let header ← readBlockHeader start c.skip
  let stated := header.increment.map (parent.getD 0 + ·)
  let first ← blankLines stated start header.after
  let indent := stated.getD (max first.width (max (parent.elim 0 (· + 1)) 1))
  let b ← blockLines isFolded indent start (c.rest.length + 1)
    ⟨[], [], first.breaks, false, first.stop, first.after⟩
  let tail :=
    match header.chomping with
    | .strip => []
    | .clip => b.lastBreak
    | .keep => b.lastBreak ++ b.emptyLines
  return (b.text ++ tail, b.stop, b.after)

end ShardCheck.Yaml
