import ShardCheck.Yaml.Cursor
import ShardCheck.Yaml.Fault
import ShardCheck.Yaml.Token

/-!
# Directives and node properties

Reading of `%YAML` and `%TAG` lines, of anchors and aliases, and of tags.
-/

namespace ShardCheck.Yaml

/-! ### Names -/

/-- The characters that may follow the name of an anchor or alias directly. -/
def endsName : List Char → Bool
  | [] => true
  | c :: _ => isSpacing c || "?:,]\x7d%@`".toList.contains c

def readName (within : Construct) (c : Cursor) : Except Fault (List Char × Cursor) :=
  let (name, after) := c.skip.takeWhile isWord
  if name.isEmpty || !endsName after.rest then
    .error ⟨.missingAnchorName, after.mark, some (within, c.mark), 0⟩
  else .ok (name, after)

/-! ### Tags -/

/-- A character that stands for itself in the URI of a tag. The flow indicators other than braces
do so in verbatim tags and directives only. -/
def isUriChar (verbatim : Bool) (c : Char) : Bool :=
  isWord c || ";/?:@&=+$.!~*'()".toList.contains c || (verbatim && ",[]".toList.contains c)

/-- Octets that a UTF-8 sequence with the given first octet takes. -/
def sequenceWidth? (octet : Nat) : Option Nat :=
  if octet < 0x80 then some 1
  else if 0xc0 ≤ octet && octet < 0xe0 then some 2
  else if 0xe0 ≤ octet && octet < 0xf0 then some 3
  else if 0xf0 ≤ octet && octet < 0xf8 then some 4
  else none

def leadingBits (octet width : Nat) : Nat :=
  if width == 1 then octet else octet % Nat.pow 2 (7 - width)

def readOctet? (c : Cursor) : Option (Nat × Cursor) :=
  match c.rest with
  | '%' :: a :: b :: _ => do
    let high ← hexValue? a
    let low ← hexValue? b
    return (16 * high + low, c.skipMany 3)
  | _ => none

def readTrailing (fault : Problem → Mark → Fault) : Nat → Nat → Cursor → Except Fault (Nat × Cursor)
  | 0, acc, c => .ok (acc, c)
  | n + 1, acc, c =>
    match readOctet? c with
    | none => .error (fault .missingUriOctet c.mark)
    | some (octet, after) =>
      if 0x80 ≤ octet && octet < 0xc0 then readTrailing fault n (64 * acc + octet % 64) after
      else .error (fault .badTrailingOctet c.mark)

/-- Reads a character given by escaped octets. -/
def readUriEscape (within : Construct) (start : Mark) (c : Cursor) :
    Except Fault (Char × Cursor) := do
  let fault (p : Problem) (m : Mark) : Fault := ⟨p, m, some (within, start), 0⟩
  match readOctet? c with
  | none => .error (fault .missingUriOctet c.mark)
  | some (octet, after) =>
    match sequenceWidth? octet with
    | none => .error (fault .badLeadingOctet c.mark)
    | some width =>
      let (code, after) ← readTrailing fault (width - 1) (leadingBits octet width) after
      return (Char.ofNat code, after)

def uriChars (verbatim : Bool) (within : Construct) (start : Mark) :
    Nat → List Char → Cursor → Except Fault (List Char × Cursor)
  | 0, uri, c => .ok (uri, c)
  | fuel + 1, uri, c =>
    match c.rest with
    | x :: _ =>
      if x == '%' then do
        let (y, after) ← readUriEscape within start c
        uriChars verbatim within start fuel (uri ++ [y]) after
      else if isUriChar verbatim x then
        uriChars verbatim within start fuel (uri ++ [x]) c.skip
      else .ok (uri, c)
    | [] => .ok (uri, c)

/-- Reads the URI of a tag that begins with `head`, of which the exclamation mark does not belong
to the URI. A URI is never empty, but a lone mark may stand in its place. -/
def readUri (verbatim : Bool) (within : Construct) (start : Mark) (head : List Char) (c : Cursor) :
    Except Fault (List Char × Cursor) := do
  let (uri, after) ← uriChars verbatim within start (c.rest.length + 1) head.tail c
  if uri.isEmpty && head.isEmpty then
    .error ⟨.missingTagUri, after.mark, some (within, start), 0⟩
  return (uri, after)

/-- Reads a tag handle: an exclamation mark, and possibly a word with a second mark. In a directive
a word without the second mark is an error. -/
def readHandle (directive : Bool) (start : Mark) (c : Cursor) : Except Fault (List Char × Cursor) :=
  match c.rest with
  | '!' :: _ =>
    let (word, after) := c.skip.takeWhile isWord
    if after.rest.head? == some '!' then .ok (['!'] ++ word ++ ['!'], after.skip)
    else if directive && !word.isEmpty then
      .error ⟨.missingTagMark, after.mark, some (.tagDirectiveUnfinishedHandle, start), 0⟩
    else .ok ('!' :: word, after)
  | _ =>
    .error ⟨.missingTagMark, c.mark,
      some (if directive then .tagDirectiveHandle else .tag, start), 0⟩

/-- Reads the tag `!<uri>`, whose handle is empty. -/
def readVerbatimTag (c : Cursor) : Except Fault (TokenKind × Cursor) := do
  let (uri, after) ← readUri true .tagUri c.mark [] c.skip.skip
  if after.rest.head? == some '>' then
    return (.tag [] uri, after.skip)
  .error ⟨.missingTagClose, after.mark, some (.tag, c.mark), 0⟩

/-- Reads the tag `!handle!suffix`, `!suffix` or `!`. -/
def readShorthandTag (c : Cursor) : Except Fault (TokenKind × Cursor) := do
  let (handle, after) ← readHandle false c.mark c
  if 1 < handle.length && handle.getLast? == some '!' then
    let (suffix, after) ← readUri false .tagUri c.mark [] after
    return (.tag handle suffix, after)
  let (suffix, after) ← readUri false .tagUri c.mark handle after
  return (if suffix.isEmpty then .tag [] ['!'] else .tag ['!'] suffix, after)

def readTag (flow : Bool) (c : Cursor) : Except Fault (TokenKind × Cursor) := do
  let (kind, after) ←
    if c.rest.tail.head? == some '<' then readVerbatimTag c else readShorthandTag c
  if (flow && after.rest.head? == some ',') || atSpacing after.rest then
    return (kind, after)
  .error ⟨.missingBlankOrLineEnd, after.mark, some (.tag, c.mark), 0⟩

/-! ### Directives -/

/-- Reads one part of a version, at most nine digits. -/
def readVersionNumber (start : Mark) (c : Cursor) : Except Fault (Nat × Cursor) :=
  let (digits, after) := c.takeWhile Char.isDigit
  if digits.isEmpty then
    .error ⟨.missingVersionNumber, c.mark, some (.versionDirective, start), 0⟩
  else if 9 < digits.length then
    .error ⟨.longVersionNumber, (c.skipMany 9).mark, some (.versionDirective, start), 0⟩
  else .ok (digits.foldl (fun n d => 10 * n + (d.toNat - '0'.toNat)) 0, after)

def readVersion (start : Mark) (c : Cursor) : Except Fault (TokenKind × Cursor) := do
  let (major, c) ← readVersionNumber start (c.skipWhile isBlank)
  if c.rest.head? != some '.' then
    .error ⟨.missingVersionDot, c.mark, some (.versionDirective, start), 0⟩
  let (minor, c) ← readVersionNumber start c.skip
  return (.versionDirective major minor, c)

def readTagDefinition (start : Mark) (c : Cursor) : Except Fault (TokenKind × Cursor) := do
  let (handle, c) ← readHandle true start (c.skipWhile isBlank)
  if !c.rest.head?.any isBlank then
    .error ⟨.missingBlank, c.mark, some (.tagDirectiveLine, start), 0⟩
  let (uri, c) ← readUri true .tagDirectiveUri start [] (c.skipWhile isBlank)
  if !atSpacing c.rest then
    .error ⟨.missingBlankOrLineEnd, c.mark, some (.tagDirectiveLine, start), 0⟩
  return (.tagDirective handle uri, c)

/-- Reads the directive at the cursor, up to and with the end of its line. The mark is the end of
the directive proper. -/
def readDirective (c : Cursor) : Except Fault (TokenKind × Mark × Cursor) := do
  let fault (p : Problem) (m : Mark) : Fault := ⟨p, m, some (.directive, c.mark), 0⟩
  let (name, afterName) := c.skip.takeWhile isWord
  if name.isEmpty then .error (fault .missingDirectiveName afterName.mark)
  if !atSpacing afterName.rest then .error (fault .badDirectiveName afterName.mark)
  let (kind, after) ←
    if name == "YAML".toList then readVersion c.mark afterName
    else if name == "TAG".toList then readTagDefinition c.mark afterName
    else .error (fault .unknownDirective afterName.mark)
  let lineEnd := (after.skipWhile isBlank).skipComment
  if !atLineEnd lineEnd.rest then .error (fault .missingLineEnd lineEnd.mark)
  return (kind, after.mark, lineEnd.skipBreak)

end ShardCheck.Yaml
