import ShardCheck.Yaml.Event

/-!
# Documents as trees

A document is a tree of scalars, sequences and mappings, in which an alias names an anchored node.
A text that breaks off with a fault still gives a tree: the fault stands where the text was lost,
so that a reader who stops earlier never meets it.
-/

namespace ShardCheck.Yaml

/-- The content of a scalar with its tag and the way it is written. -/
structure Scalar where
  tag : Option (List Char)
  text : List Char
  style : ScalarStyle
  deriving Repr, DecidableEq

/-- A node of a document. Every node but a lost one carries the mark of its start. -/
inductive Node where
  | scalar (mark : Mark) (content : Scalar)
  | aliasOf (mark : Mark) (target : Nat)
  | sequence (mark : Mark) (items : List Node)
  | mapping (mark : Mark) (entries : List (Node × Node))
  | lost
  deriving Repr, Inhabited

/-- Why a text cannot be loaded completely. -/
inductive LoadFault where
  | malformed (fault : Fault)
  | unknownAnchor (mark : Mark)
  deriving Repr, DecidableEq

def LoadFault.message : LoadFault → String
  | .malformed f => f.message
  | .unknownAnchor m => "unknown anchor" ++ m.suffixText

/-! ### Building the tree -/

/-- An open collection with the nodes read so far, latest first, and its anchor. -/
inductive OpenNode where
  | sequence (anchored : Option Nat) (mark : Mark) (items : List Node)
  | mapping (anchored : Option Nat) (mark : Mark) (entries : List (Node × Node))
  | mappingAfterKey (anchored : Option Nat) (mark : Mark) (entries : List (Node × Node))
      (key : Node)

/-- The state of building: the open collections (innermost first), the finished root, and the
anchors. Anchors are numbered in the order of their nodes; `names` gives the label of a name,
`latest` the anchor a label stands for, and `anchored` the finished nodes. -/
structure TreeBuilder where
  opened : List OpenNode
  root : Option Node
  count : Nat
  names : List (List Char × Nat)
  latest : List (Nat × Nat)
  anchored : List (Nat × Node)

namespace TreeBuilder

def empty : TreeBuilder := ⟨[], none, 0, [], [], []⟩

/-- Puts a finished node into the innermost open collection, or at the root. -/
def add (b : TreeBuilder) (anchor : Option Nat) (n : Node) : TreeBuilder :=
  let b := match anchor with
    | some k => { b with anchored := (k, n) :: b.anchored }
    | none => b
  match b.opened with
  | .sequence a m items :: outer => { b with opened := .sequence a m (n :: items) :: outer }
  | .mapping a m entries :: outer => { b with opened := .mappingAfterKey a m entries n :: outer }
  | .mappingAfterKey a m entries key :: outer =>
    { b with opened := .mapping a m ((key, n) :: entries) :: outer }
  | [] => { b with root := some n }

/-- The anchor number of a node with these properties. A label is the count of names known before,
so a name that comes again shares its new label with the next new name. -/
def anchor (b : TreeBuilder) (p : Properties) : Option Nat × TreeBuilder :=
  match p.anchorName with
  | none => (none, b)
  | some name =>
    let label := b.names.length
    let names := (name, label) :: b.names.filter (·.1 != name)
    (some b.count,
      { b with count := b.count + 1, names := names, latest := (label, b.count) :: b.latest })

def close (b : TreeBuilder) : TreeBuilder :=
  match b.opened with
  | .sequence a m items :: outer => { b with opened := outer }.add a (.sequence m items.reverse)
  | .mapping a m entries :: outer => { b with opened := outer }.add a (.mapping m entries.reverse)
  | .mappingAfterKey a m entries key :: outer =>
    { b with opened := outer }.add a (.mapping m ((key, Node.lost) :: entries).reverse)
  | [] => b

/-- Finishes a collection that the text breaks off in. -/
def breakOff (b : TreeBuilder) : TreeBuilder :=
  match b.opened with
  | .sequence .. :: _ => (b.add none .lost).close
  | .mapping .. :: _ => ((b.add none .lost).add none .lost).close
  | .mappingAfterKey .. :: _ => (b.add none .lost).close
  | [] => b

def breakOffAll : Nat → TreeBuilder → TreeBuilder
  | 0, b => b
  | n + 1, b => breakOffAll n b.breakOff

def step (b : TreeBuilder) (e : Event) : Except LoadFault TreeBuilder :=
  match e.kind with
  | .aliasNode name =>
    match b.names.lookup name with
    | some target => .ok (b.add none (.aliasOf e.mark target))
    | none => .error (.unknownAnchor e.mark)
  | .scalar p text style =>
    let (a, b) := b.anchor p
    .ok (b.add a (.scalar e.mark ⟨p.tag, text, style⟩))
  | .sequenceStart p =>
    let (a, b) := b.anchor p
    .ok { b with opened := .sequence a e.mark [] :: b.opened }
  | .mappingStart p =>
    let (a, b) := b.anchor p
    .ok { b with opened := .mapping a e.mark [] :: b.opened }
  | .sequenceEnd | .mappingEnd => .ok b.close
  | .documentStart | .documentEnd | .streamEnd => .ok b

end TreeBuilder

/-! ### Documents -/

/-- A document: its tree, the anchored nodes by label, the fault that ended the text early,
the number of its events, and whether another document follows. -/
structure Document where
  root : Node
  targets : List (Nat × Node)
  fault : Option LoadFault
  size : Nat
  followed : Bool

namespace Document

/-- The document built so far. Collections that are still open end where the text is lost; a stream
without a document holds an empty scalar. -/
def finish (b : TreeBuilder) (fault : Option LoadFault) (size : Nat) (followed : Bool) : Document :=
  let b := b.breakOffAll b.opened.length
  let root := b.root.getD <|
    if fault.isSome then .lost else .scalar Mark.start ⟨none, [], .plain⟩
  let targets := b.latest.filterMap fun (label, k) => (b.anchored.lookup k).map (label, ·)
  ⟨root, targets, fault, size, followed⟩

/-- Builds the first document of a stream from its events. The second component of the result of
reading tells why the events end, if not with the stream. -/
def build : List Event → Option Fault → TreeBuilder → Nat → Document
  | [], fault, b, size => finish b (fault.map .malformed) size false
  | e :: rest, fault, b, size =>
    match e.kind with
    | .documentStart => build rest fault b size
    | .streamEnd => finish b none size false
    | .documentEnd => finish b none size (rest.head?.map (·.kind) != some .streamEnd)
    | _ =>
      match b.step e with
      | .ok b => build rest fault b (size + 1)
      | .error f => finish b (some f) size false

def load (text : List Char) : Document :=
  let (events, fault) := Event.read text
  build events fault TreeBuilder.empty 0

def target (d : Document) (label : Nat) : Node := (d.targets.lookup label).getD .lost

end Document

end ShardCheck.Yaml
