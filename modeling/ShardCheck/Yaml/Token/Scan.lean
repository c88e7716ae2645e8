import ShardCheck.Yaml.Token.Property
import ShardCheck.Yaml.Token.Scalar

/-!
# From text to tokens

Tokens are read from left to right. Whether a token starts an implicit key shows only at a later
colon, so tokens from the first one that may start a key wait in a queue; all before it are final.
A fault ends the reading, and the waiting tokens are lost with it.
-/

namespace ShardCheck.Yaml

/-! ### The state of the reading -/

/-- A token that may turn out to start a key: its number in the stream and its mark. Where a block
mapping goes on at this column nothing but a key can stand, and the key is required. -/
structure KeyCandidate where
  number : Nat
  required : Bool
  mark : Mark
  deriving Repr, DecidableEq

/-- The state of the reading: the tokens that wait and the number of those that are final, the key
candidate of each open flow collection and of the block around them (innermost first), the columns
of the open block collections (innermost first), and whether a key may start here. -/
structure Scanner where
  cursor : Cursor
  queue : List Token
  final : Nat
  candidates : List (Option KeyCandidate)
  columns : List Nat
  keyAllowed : Bool

namespace Scanner

/-- Before the first character the start of the stream has been read. -/
def ofText (s : List Char) : Scanner where
  cursor := Cursor.ofText s
  queue := [⟨.streamStart, Mark.start, Mark.start⟩]
  final := 0
  candidates := [none]
  columns := []
  keyAllowed := true

def inFlow (s : Scanner) : Bool := 1 < s.candidates.length

/-- The column of the innermost block collection is left of, at, or right of the given one; with no
collection open it is left of all. -/
def isInside (s : Scanner) (column : Nat) : Bool := s.columns.head?.all (· < column)

/-- The leftmost column at which content of the innermost block collection may go on. -/
def contentColumn (s : Scanner) : Nat := s.columns.head?.elim 0 (· + 1)

def push (s : Scanner) (kind : TokenKind) (start stop : Mark) : Scanner :=
  { s with queue := s.queue ++ [⟨kind, start, stop⟩] }

/-- Appends an indicator of `width` characters at the cursor and moves over it. -/
def pushIndicator (s : Scanner) (kind : TokenKind) (width : Nat) : Scanner :=
  let after := s.cursor.skipMany width
  { s.push kind s.cursor.mark after.mark with cursor := after }

/-- Puts a token without text before the token with the given number. -/
def insert (s : Scanner) (number : Nat) (kind : TokenKind) (m : Mark) : Scanner :=
  let (before, after) := s.queue.splitAt (number - s.final)
  { s with queue := before ++ ⟨kind, m, m⟩ :: after }

/-! ### Candidates for keys -/

def missingColon (s : Scanner) (k : KeyCandidate) : Fault :=
  ⟨.missingKeyColon, s.cursor.mark, some (.simpleKey, k.mark), 0⟩

/-- A candidate is out of date on another line or more than 1024 characters later. -/
def isStale (s : Scanner) (k : KeyCandidate) : Bool :=
  k.mark.line < s.cursor.mark.line || k.mark.index + 1024 < s.cursor.mark.index

def staleRequired? (s : Scanner) : Option KeyCandidate :=
  (s.candidates.reverse.filterMap id).find? fun k => s.isStale k && k.required

def dropStale (s : Scanner) : Except Fault Scanner :=
  match s.staleRequired? with
  | some k => .error (s.missingColon k)
  | none => .ok { s with candidates := s.candidates.map (·.filter (!s.isStale ·)) }

def dropCandidate (s : Scanner) : Except Fault Scanner :=
  match s.candidates with
  | some k :: outer =>
    if k.required then .error (s.missingColon k) else .ok { s with candidates := none :: outer }
  | _ => .ok s

/-- Makes the next token a candidate, where keys may start. -/
def noteCandidate (s : Scanner) : Except Fault Scanner :=
  if s.keyAllowed then do
    let required := !s.inFlow && s.columns.head? == some s.cursor.mark.column
    let s ← s.dropCandidate
    return { s with
      candidates :=
        some ⟨s.final + s.queue.length, required, s.cursor.mark⟩ :: s.candidates.tail }
  else .ok s

/-! ### Block collections -/

/-- Opens a block collection at a column right of the innermost one, before the token with the
given number or at the end. -/
def openBlock (s : Scanner) (column : Nat) (number : Option Nat) (kind : TokenKind) (m : Mark) :
    Scanner :=
  if !s.inFlow && s.isInside column then
    let s := { s with columns := column :: s.columns }
    match number with
    | some n => s.insert n kind m
    | none => s.push kind m m
  else s

/-- The columns that stay open at a line that starts at the given column; `none` closes all. -/
def keptColumns (column : Option Nat) (columns : List Nat) : List Nat :=
  columns.dropWhile fun c => column.all (· < c)

/-- Closes the block collections right of a column, or all of them. -/
def closeBlocks (s : Scanner) (column : Option Nat) : Scanner :=
  if s.inFlow then s
  else
    let kept := keptColumns column s.columns
    let closed := List.replicate (s.columns.length - kept.length)
      ⟨.blockEnd, s.cursor.mark, s.cursor.mark⟩
    { s with columns := kept, queue := s.queue ++ closed }

/-! ### Spacing between tokens -/

/-- Moves over blanks, comments and line breaks. A tab counts as a blank only where no key may
start. Outside flow collections a new line may start a key. -/
def skipSpacing : Nat → Scanner → Scanner
  | 0, s => s
  | fuel + 1, s =>
    let tabs := s.inFlow || !s.keyAllowed
    let c := (s.cursor.skipWhile fun x => x == ' ' || (tabs && x == '\t')).skipComment
    match c.rest with
    | x :: _ =>
      if isBreak x then
        skipSpacing fuel
          { s with cursor := c.skipBreak, keyAllowed := s.keyAllowed || !s.inFlow }
      else { s with cursor := c }
    | [] => { s with cursor := c }

/-! ### Reading one token -/

def readStreamEnd (s : Scanner) : Except Fault Scanner := do
  let m := s.cursor.mark
  let stop := if m.column == 0 then m else ⟨m.index, m.line + 1, 0⟩
  let s := { s with cursor := ⟨s.cursor.rest, stop⟩ }
  let s ← (s.closeBlocks none).dropCandidate
  return { s.push .streamEnd stop stop with keyAllowed := false }

def readDirectiveLine (s : Scanner) : Except Fault Scanner := do
  let s ← (s.closeBlocks none).dropCandidate
  let (kind, stop, after) ← readDirective s.cursor
  return { s.push kind s.cursor.mark stop with cursor := after, keyAllowed := false }

def readBoundary (s : Scanner) (kind : TokenKind) : Except Fault Scanner := do
  let s ← (s.closeBlocks none).dropCandidate
  return { s.pushIndicator kind 3 with keyAllowed := false }

def openFlow (s : Scanner) (kind : TokenKind) : Except Fault Scanner := do
  let s ← s.noteCandidate
  return { s.pushIndicator kind 1 with candidates := none :: s.candidates, keyAllowed := true }

def closeFlow (s : Scanner) (kind : TokenKind) : Except Fault Scanner := do
  let s ← s.dropCandidate
  let outer := if s.inFlow then s.candidates.tail else s.candidates
  return { s.pushIndicator kind 1 with candidates := outer, keyAllowed := false }

def readFlowEntry (s : Scanner) : Except Fault Scanner := do
  let s ← s.dropCandidate
  return { s.pushIndicator .flowEntry 1 with keyAllowed := true }

def readBlockEntry (s : Scanner) : Except Fault Scanner := do
  if !s.inFlow && !s.keyAllowed then
    .error ⟨.entryNotAllowed, s.cursor.mark, none, 0⟩
  let m := s.cursor.mark
  let s ← (s.openBlock m.column none .blockSequenceStart m).dropCandidate
  return { s.pushIndicator .blockEntry 1 with keyAllowed := true }

def readKey (s : Scanner) : Except Fault Scanner := do
  if !s.inFlow && !s.keyAllowed then
    .error ⟨.keyNotAllowed, s.cursor.mark, none, 0⟩
  let m := s.cursor.mark
  let s ← (s.openBlock m.column none .blockMappingStart m).dropCandidate
  return { s.pushIndicator .key 1 with keyAllowed := !s.inFlow }

/-- The colon of a mapping. After a candidate it makes that one a key. -/
def readValue (s : Scanner) : Except Fault Scanner := do
  match s.candidates with
  | some k :: outer =>
    let s := s.insert k.number .key k.mark
    let s := s.openBlock k.mark.column (some k.number) .blockMappingStart k.mark
    return { s.pushIndicator .value 1 with candidates := none :: outer, keyAllowed := false }
  | _ =>
    if !s.inFlow && !s.keyAllowed then
      .error ⟨.valueNotAllowed, s.cursor.mark, none, 0⟩
    let m := s.cursor.mark
    let s := s.openBlock m.column none .blockMappingStart m
    return { s.pushIndicator .value 1 with keyAllowed := !s.inFlow }

def readNameToken (s : Scanner) (within : Construct) (kind : List Char → TokenKind) :
    Except Fault Scanner := do
  let s ← s.noteCandidate
  let (name, after) ← readName within s.cursor
  return { s.push (kind name) s.cursor.mark after.mark with cursor := after, keyAllowed := false }

def readTagToken (s : Scanner) : Except Fault Scanner := do
  let s ← s.noteCandidate
  let (kind, after) ← readTag s.inFlow s.cursor
  return { s.push kind s.cursor.mark after.mark with cursor := after, keyAllowed := false }

def readBlockToken (s : Scanner) (isFolded : Bool) : Except Fault Scanner := do
  let s ← s.dropCandidate
  let (text, stop, after) ← readBlock isFolded s.columns.head? s.cursor
  let style := if isFolded then ScalarStyle.folded else .literal
  return { s.push (.scalar text style) s.cursor.mark stop with cursor := after, keyAllowed := true }

def readQuotedToken (s : Scanner) (double : Bool) : Except Fault Scanner := do
  let s ← s.noteCandidate
  let (text, after) ← readQuoted double s.cursor
  let style := if double then ScalarStyle.doubleQuoted else .singleQuoted
  return { s.push (.scalar text style) s.cursor.mark after.mark with
    cursor := after, keyAllowed := false }

/-- A plain scalar. A line break read with it lets the next token start a key. -/
def readPlainToken (s : Scanner) : Except Fault Scanner := do
  let s ← s.noteCandidate
  let p ← readPlain s.inFlow s.contentColumn s.cursor
  return { s.push (.scalar p.text .plain) s.cursor.mark p.stop with
    cursor := p.after, keyAllowed := p.broken }

/-- A plain scalar may start with these characters, of which the first has been looked at and the
second decides for the indicators that also start words. -/
def startsPlain (flow : Bool) (x : Char) (r : List Char) : Bool :=
  !(isSpacing x || "-?:,[]\x7b\x7d#&*!|>'\"%@`".toList.contains x) ||
    (x == '-' && !r.head?.any isBlank) ||
    (!flow && (x == '?' || x == ':') && !atSpacing r)

def readToken (s : Scanner) : Except Fault Scanner :=
  let c := s.cursor
  match c.rest with
  | [] => s.readStreamEnd
  | x :: r =>
    -- between brackets a key or a value needs no space behind its sign
    let loose := s.inFlow || atSpacing r
    -- the marks of a line of their own come first, then the signs of one character
    if c.mark.column == 0 && x == '%' then s.readDirectiveLine
    else if c.atDocumentMark '-' then s.readBoundary .documentStart
    else if c.atDocumentMark '.' then s.readBoundary .documentEnd
    else if x == '[' then s.openFlow .flowSequenceStart
    else if x == '\x7b' then s.openFlow .flowMappingStart
    else if x == ']' then s.closeFlow .flowSequenceEnd
    else if x == '\x7d' then s.closeFlow .flowMappingEnd
    else if x == ',' then s.readFlowEntry
    else if x == '-' && atSpacing r then s.readBlockEntry
    else if x == '?' && loose then s.readKey
    else if x == ':' && loose then s.readValue
    else if x == '*' then s.readNameToken .aliasName .aliasName
    else if x == '&' then s.readNameToken .anchorName .anchorName
    else if x == '!' then s.readTagToken
    else if x == '|' && !s.inFlow then s.readBlockToken false
    else if x == '>' && !s.inFlow then s.readBlockToken true
    else if x == '\'' then s.readQuotedToken false
    else if x == '"' then s.readQuotedToken true
    else if startsPlain s.inFlow x r then s.readPlainToken
    else .error ⟨.noTokenStart, c.mark, some (.nextToken, c.mark), 0⟩

/-- Reads the next token with the spacing before it and the ends of the block collections that its
column closes. -/
def step (s : Scanner) : Except Fault Scanner := do
  let s ← (s.skipSpacing (s.cursor.rest.length + 1)).dropStale
  let s ← (s.closeBlocks (some s.cursor.mark.column)).readToken
  s.dropStale

/-- The number of the first token that may still become a key. -/
def firstCandidate? (s : Scanner) : Option Nat :=
  ((s.candidates.filterMap id).map (·.number)).min?

def release (s : Scanner) : List Token × Scanner :=
  let n := s.firstCandidate?.elim s.queue.length (· - s.final)
  let (out, rest) := s.queue.splitAt n
  (out, { s with queue := rest, final := s.final + out.length })

def run : Nat → Scanner → List Token × Option Fault
  | 0, _ => ([], none)
  | fuel + 1, s =>
    let (out, s) := s.release
    if out.getLast?.any (·.kind == .streamEnd) then (out, none)
    else
      match s.step with
      | .error f => (out, some f)
      | .ok s =>
        let (rest, fault) := run fuel s
        (out ++ rest, fault)

end Scanner

/-! ### Whole texts -/

def isAllowed (c : Char) : Bool :=
  let n := c.toNat
  n == 0x9 || n == 0xa || n == 0xd || (0x20 ≤ n && n ≤ 0x7e) || n == 0x85 ||
    (0xa0 ≤ n && n ≤ 0xfffd && n != 0xfeff) || 0x10000 ≤ n

def forbiddenOffset? (s : List Char) : Option Nat :=
  let allowed := s.takeWhile isAllowed
  if allowed.length == s.length then none
  else some (allowed.foldl (fun n c => n + c.utf8Size) 0)

/-- The text without the byte order mark that may stand at its start, and the width of the mark. -/
def dropByteOrderMark : List Char → List Char × Nat
  | '\ufeff' :: s => (s, 3)
  | s => (s, 0)

/-- The tokens of a text. The fault, if there is one, shows after the last of them. -/
def Token.scan (text : List Char) : List Token × Option Fault :=
  let (s, width) := dropByteOrderMark text
  match forbiddenOffset? s with
  | some n => ([], some ⟨.controlCharacter, Mark.start, none, n + width⟩)
  | none => (Scanner.ofText s).run (s.length + 3)

end ShardCheck.Yaml
