import ShardCheck.Yaml.Fault
import ShardCheck.Yaml.Token.Scan

/-!
# Events

The nodes of the documents of a stream in reading order: an alias, a scalar, or a collection given
by its start, its content and its end. A node may carry an anchor and a tag.
-/

namespace ShardCheck.Yaml

/-- The properties of a node. -/
structure Properties where
  anchorName : Option (List Char)
  tag : Option (List Char)
  deriving Repr, DecidableEq

/-- The kinds of events with what they carry. -/
inductive EventKind where
  | documentStart
  | documentEnd
  | streamEnd
  | aliasNode (name : List Char)
  | scalar (properties : Properties) (text : List Char) (style : ScalarStyle)
  | sequenceStart (properties : Properties)
  | sequenceEnd
  | mappingStart (properties : Properties)
  | mappingEnd
  deriving Repr, DecidableEq

/-- An event and the mark at which it starts. -/
structure Event where
  kind : EventKind
  mark : Mark
  deriving Repr, DecidableEq

/-! ### The state of the reading -/

/-- What is still open around the next event. The collections carry the mark of their start. -/
inductive Frame where
  | implicitDocumentStart
  | documentStart
  | documentContent
  | documentEnd
  | blockNode
  | blockEntry (opened : Mark)
  | indentlessEntry
  | blockKey (opened : Mark)
  | blockValue (opened : Mark)
  | flowFirstEntry (opened : Mark)
  | flowEntry (opened : Mark)
  | pairKey (opened : Mark)
  | pairValue (opened : Mark)
  | pairEnd (opened : Mark)
  | flowFirstKey (opened : Mark)
  | flowKey (opened : Mark)
  | flowValue (opened : Mark)
  | flowMissingValue (opened : Mark)
  deriving Repr, DecidableEq

/-- The state of the reading: the tokens left, the fault that follows them, what is open (innermost
first), and the tag handles in force. -/
structure EventReader where
  tokens : List Token
  fault : Option Fault
  frames : List Frame
  handles : List (List Char × List Char)

/-- The tag handles that need no directive. -/
def defaultHandles : List (List Char × List Char) :=
  [(['!'], ['!']), (['!', '!'], "tag:yaml.org,2002:".toList)]

namespace EventReader

/-- The reader at the start of a stream, whose first token it skips. -/
def ofTokens (tokens : List Token) (fault : Option Fault) : EventReader :=
  ⟨tokens.tail, fault, [.implicitDocumentStart], []⟩

/-- The next token, or the fault where the tokens are used up. -/
def peek (r : EventReader) : Except Fault Token :=
  match r.tokens with
  | t :: _ => .ok t
  | [] => .error (r.fault.getD ⟨.missingContent, Mark.start, none, 0⟩)

def skip (r : EventReader) : EventReader := { r with tokens := r.tokens.tail }

def enter (r : EventReader) (f : Frame) : EventReader := { r with frames := f :: r.frames }

/-- The empty plain scalar that stands for a node left out. -/
def missingNode (m : Mark) : Event := ⟨.scalar ⟨none, none⟩ [] .plain, m⟩

def peekIs (r : EventReader) (kinds : List TokenKind) : Except Fault Bool :=
  return kinds.contains (← r.peek).kind

/-! ### Nodes -/

def resolveTag (handles : List (List Char × List Char)) (handle suffix : List Char) :
    Option (List Char) :=
  if handle.isEmpty then some suffix
  else (handles.find? (·.1 == handle)).map (·.2 ++ suffix)

/-- The properties before a node: an anchor, a tag, or both in either order. -/
structure NodeStart where
  start : Mark
  anchorName : Option (List Char)
  tag : Option (List Char × List Char × Mark)
  reader : EventReader

def readProperties (r : EventReader) : Except Fault NodeStart := do
  let t ← r.peek
  match t.kind with
  | .anchorName a =>
    let r := r.skip
    let t' ← r.peek
    match t'.kind with
    | .tag h s => return ⟨t.start, some a, some (h, s, t'.start), r.skip⟩
    | _ => return ⟨t.start, some a, none, r⟩
  | .tag h s =>
    let r := r.skip
    let t' ← r.peek
    match t'.kind with
    | .anchorName a => return ⟨t.start, some a, some (h, s, t.start), r.skip⟩
    | _ => return ⟨t.start, none, some (h, s, t.start), r⟩
  | _ => return ⟨t.start, none, none, r⟩

/-- Reads a node up to the start of its content. Block collections are nodes only where `block`
holds, and a sequence without indentation of its own only where `indentless` holds. -/
def readNode (r : EventReader) (block indentless : Bool) : Except Fault (Event × EventReader) := do
  let t ← r.peek
  if let .aliasName name := t.kind then
    return (⟨.aliasNode name, t.start⟩, r.skip)
  let n ← r.readProperties
  let r := n.reader
  let tag ←
    match n.tag with
    | none => pure none
    | some (handle, suffix, m) =>
      match resolveTag r.handles handle suffix with
      | some tag => pure (some tag)
      | none => .error ⟨.undefinedTagHandle, m, some (.node, n.start), 0⟩
  let properties : Properties := ⟨n.anchorName, tag⟩
  let t ← r.peek
  match t.kind with
  | .scalar text style =>
    -- the tag `!` only says that the scalar is no plain one
    let tag := if tag == some ['!'] then none else tag
    return (⟨.scalar ⟨n.anchorName, tag⟩ text style, n.start⟩, r.skip)
  | .flowSequenceStart =>
    return (⟨.sequenceStart properties, n.start⟩, r.skip.enter (.flowFirstEntry t.start))
  | .flowMappingStart =>
    return (⟨.mappingStart properties, n.start⟩, r.skip.enter (.flowFirstKey t.start))
  | kind =>
    if indentless && kind == .blockEntry then
      return (⟨.sequenceStart properties, n.start⟩, r.enter .indentlessEntry)
    else if block && kind == .blockSequenceStart then
      return (⟨.sequenceStart properties, n.start⟩, r.skip.enter (.blockEntry t.start))
    else if block && kind == .blockMappingStart then
      return (⟨.mappingStart properties, n.start⟩, r.skip.enter (.blockKey t.start))
    -- properties without content are a node all the same
    else if n.anchorName.isSome || tag.isSome then
      return (⟨.scalar properties [] .plain, n.start⟩, r)
    else
      .error ⟨.missingContent, t.start, some (if block then .blockNode else .flowNode, n.start), 0⟩

/-- Reads the node at the next token, or a node left out where that token is one of `stops`. -/
def readNodeUnless (r : EventReader) (stops : List TokenKind) (block indentless : Bool)
    (missing : Mark) : Except Fault (Event × EventReader) := do
  if ← r.peekIs stops then return (missingNode missing, r)
  r.readNode block indentless

/-! ### Documents -/

/-- Adds a tag handle; one that is known already is an error at the given mark. -/
def addHandle (r : EventReader) (handle uri : List Char) (m : Mark) : Except Fault EventReader :=
  if r.handles.any (·.1 == handle) then .error ⟨.duplicateTagHandle, m, none, 0⟩
  else .ok { r with handles := r.handles ++ [(handle, uri)] }

def readDirectives : Nat → Bool → EventReader → Except Fault EventReader
  | 0, _, r => .ok r
  | fuel + 1, versioned, r => do
    let t ← r.peek
    match t.kind with
    | .versionDirective major minor =>
      if versioned then .error ⟨.duplicateVersion, t.start, none, 0⟩
      if major != 1 || (minor != 1 && minor != 2) then
        .error ⟨.unsupportedVersion, t.start, none, 0⟩
      readDirectives fuel true r.skip
    | .tagDirective handle uri =>
      let r ← r.addHandle handle uri t.start
      readDirectives fuel versioned r.skip
    | _ =>
      let missing := defaultHandles.filter fun d => !r.handles.any (·.1 == d.1)
      return { r with handles := r.handles ++ missing }

def skipDocumentEnds : List Token → List Token
  | t :: ts => if t.kind == .documentEnd then skipDocumentEnds ts else t :: ts
  | [] => []

/-- The token stands before a document and does not belong to its content. -/
def isDirective : TokenKind → Bool
  | .versionDirective _ _ | .tagDirective _ _ => true
  | _ => false

/-- Reads the start of a document or the end of the stream. -/
def readDocumentStart (r : EventReader) (implicit : Bool) :
    Except Fault (Event × EventReader) := do
  let r := if implicit then r else { r with tokens := skipDocumentEnds r.tokens }
  let t ← r.peek
  if t.kind == .streamEnd then return (⟨.streamEnd, t.start⟩, r.skip)
  if implicit && !isDirective t.kind && t.kind != .documentStart then
    let r := { r with handles := defaultHandles }
    return (⟨.documentStart, t.start⟩, (r.enter .documentEnd).enter .blockNode)
  let r ← readDirectives (r.tokens.length + 1) false r
  let t' ← r.peek
  if t'.kind != .documentStart then .error ⟨.missingDocumentStart, t'.start, none, 0⟩
  return (⟨.documentStart, t.start⟩, (r.skip.enter .documentEnd).enter .documentContent)

def readDocumentContent (r : EventReader) : Except Fault (Event × EventReader) := do
  let t ← r.peek
  if isDirective t.kind || [.documentStart, .documentEnd, .streamEnd].contains t.kind then
    return (missingNode t.start, r)
  r.readNode true false

/-- Reads the end of a document, where the handles of its directives end. -/
def readDocumentEnd (r : EventReader) : Except Fault (Event × EventReader) := do
  let t ← r.peek
  let r := if t.kind == .documentEnd then r.skip else r
  return (⟨.documentEnd, t.start⟩, { r with handles := [] }.enter .documentStart)

/-! ### Block collections -/

def readBlockEntry (r : EventReader) (opened : Mark) : Except Fault (Event × EventReader) := do
  let t ← r.peek
  match t.kind with
  | .blockEntry =>
    (r.skip.enter (.blockEntry opened)).readNodeUnless [.blockEntry, .blockEnd] true false t.stop
  | .blockEnd => return (⟨.sequenceEnd, t.start⟩, r.skip)
  | _ => .error ⟨.missingEntryDash, t.start, some (.blockSequence, opened), 0⟩

/-- Reads an entry of a sequence without indentation of its own, or its end. -/
def readIndentlessEntry (r : EventReader) : Except Fault (Event × EventReader) := do
  let t ← r.peek
  match t.kind with
  | .blockEntry =>
    (r.skip.enter .indentlessEntry).readNodeUnless [.blockEntry, .key, .value, .blockEnd]
      true false t.stop
  | _ => return (⟨.sequenceEnd, t.start⟩, r)

def readBlockKey (r : EventReader) (opened : Mark) : Except Fault (Event × EventReader) := do
  let t ← r.peek
  match t.kind with
  | .key =>
    (r.skip.enter (.blockValue opened)).readNodeUnless [.key, .value, .blockEnd] true true t.stop
  | .blockEnd => return (⟨.mappingEnd, t.start⟩, r.skip)
  | _ => .error ⟨.missingKey, t.start, some (.blockMapping, opened), 0⟩

def readBlockValue (r : EventReader) (opened : Mark) : Except Fault (Event × EventReader) := do
  let t ← r.peek
  let r' := r.enter (.blockKey opened)
  match t.kind with
  | .value => r'.skip.readNodeUnless [.key, .value, .blockEnd] true true t.stop
  | _ => return (missingNode t.start, r')

/-! ### Flow collections -/

/-- Moves over the comma between two parts of a flow collection; before the first there is none,
and before the end there need not be one. -/
def skipComma (r : EventReader) (first : Bool) (close : TokenKind) (fault : Mark → Fault) :
    Except Fault EventReader := do
  let t ← r.peek
  if first || t.kind == close then return r
  if t.kind == .flowEntry then return r.skip
  .error (fault t.start)

/-- Reads an entry of a flow sequence or its end. An explicit key starts a mapping of one pair. -/
def readFlowEntry (r : EventReader) (opened : Mark) (first : Bool) :
    Except Fault (Event × EventReader) := do
  let r ← r.skipComma first .flowSequenceEnd fun m =>
    ⟨.missingSequenceComma, m, some (.flowSequence, opened), 0⟩
  let t ← r.peek
  match t.kind with
  | .flowSequenceEnd => return (⟨.sequenceEnd, t.start⟩, r.skip)
  | .key => return (⟨.mappingStart ⟨none, none⟩, t.start⟩, r.skip.enter (.pairKey opened))
  | _ => (r.enter (.flowEntry opened)).readNode false false

/-- Reads the key of a single pair. Where it is left out, the token after it is passed over. -/
def readPairKey (r : EventReader) (opened : Mark) : Except Fault (Event × EventReader) := do
  let t ← r.peek
  let r := r.enter (.pairValue opened)
  if [.value, .flowEntry, .flowSequenceEnd].contains t.kind then
    return (missingNode t.stop, r.skip)
  r.readNode false false

def readPairValue (r : EventReader) (opened : Mark) : Except Fault (Event × EventReader) := do
  let t ← r.peek
  let r := r.enter (.pairEnd opened)
  if t.kind == .value then
    let r := r.skip
    r.readNodeUnless [.flowEntry, .flowSequenceEnd] false false (← r.peek).start
  else return (missingNode t.start, r)

def readPairEnd (r : EventReader) (opened : Mark) : Except Fault (Event × EventReader) := do
  let t ← r.peek
  return (⟨.mappingEnd, t.start⟩, r.enter (.flowEntry opened))

/-- Reads a key of a flow mapping or its end. A node without the sign of a key has no value. -/
def readFlowKey (r : EventReader) (opened : Mark) (first : Bool) :
    Except Fault (Event × EventReader) := do
  let r ← r.skipComma first .flowMappingEnd fun m =>
    ⟨.missingMappingComma, m, some (.flowMapping, opened), 0⟩
  let t ← r.peek
  match t.kind with
  | .flowMappingEnd => return (⟨.mappingEnd, t.start⟩, r.skip)
  | .key =>
    let r := r.skip.enter (.flowValue opened)
    r.readNodeUnless [.value, .flowEntry, .flowMappingEnd] false false (← r.peek).start
  | _ => (r.enter (.flowMissingValue opened)).readNode false false

def readFlowValue (r : EventReader) (opened : Mark) : Except Fault (Event × EventReader) := do
  let t ← r.peek
  let r := r.enter (.flowKey opened)
  if t.kind == .value then
    let r := r.skip
    r.readNodeUnless [.flowEntry, .flowMappingEnd] false false (← r.peek).start
  else return (missingNode t.start, r)

/-! ### The stream -/

/-- Reads the next event, as the innermost frame asks. -/
def next (r : EventReader) : Except Fault (Event × EventReader) :=
  match r.frames with
  | [] => .error (r.fault.getD ⟨.missingContent, Mark.start, none, 0⟩)
  | f :: outer =>
    let r := { r with frames := outer }
    match f with
    | .implicitDocumentStart => r.readDocumentStart true
    | .documentStart => r.readDocumentStart false
    | .documentContent => r.readDocumentContent
    | .documentEnd => r.readDocumentEnd
    | .blockNode => r.readNode true false
    | .blockEntry m => r.readBlockEntry m
    | .indentlessEntry => r.readIndentlessEntry
    | .blockKey m => r.readBlockKey m
    | .blockValue m => r.readBlockValue m
    | .flowFirstEntry m => r.readFlowEntry m true
    | .flowEntry m => r.readFlowEntry m false
    | .pairKey m => r.readPairKey m
    | .pairValue m => r.readPairValue m
    | .pairEnd m => r.readPairEnd m
    | .flowFirstKey m => r.readFlowKey m true
    | .flowKey m => r.readFlowKey m false
    | .flowValue m => r.readFlowValue m
    | .flowMissingValue m => do
      return (missingNode (← r.peek).start, r.enter (.flowKey m))

def run : Nat → EventReader → List Event × Option Fault
  | 0, _ => ([], none)
  | fuel + 1, r =>
    match r.next with
    | .error f => ([], some f)
    | .ok (e, r) =>
      if e.kind == .streamEnd then ([e], none)
      else
        let (rest, fault) := run fuel r
        (e :: rest, fault)

end EventReader

/-- The events of a text. The fault, if there is one, shows after the last of them. Every token
gives rise to few events, so the bound on their number is never reached. -/
def Event.read (text : List Char) : List Event × Option Fault :=
  let (tokens, fault) := Token.scan text
  (EventReader.ofTokens tokens fault).run (4 * tokens.length + 8)

end ShardCheck.Yaml
