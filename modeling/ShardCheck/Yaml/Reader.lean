import ShardCheck.KeyMap
import ShardCheck.Text.Basic
import ShardCheck.Yaml.Scalar

/-!
# Typed reading of documents

A reader takes a node for a value of some type. A node that does not fit gives a mismatch together
with its mark and its path from the root. Readers stop at the first error, so a text that is
malformed further on shows its fault only if everything before fits.
-/

namespace ShardCheck.Yaml

/-! ### Errors -/

/-- What a node holds, as a message names it. -/
inductive Found where
  | value (value : ScalarValue)
  | sequence
  | mapping
  deriving Repr, DecidableEq

/-- The text of an integer. The width is named where 64 bits do not suffice. -/
def IntegerValue.foundText : IntegerValue → String
  | .small n => "integer \x60" ++ toString n ++ "\x60"
  | .wideNonneg n => "integer \x60" ++ toString n ++ "\x60 as u128"
  | .wideNegative n => "integer \x60" ++ toString n ++ "\x60 as i128"

def FloatValue.text : FloatValue → String
  | .finite negative x => (if negative then "-" else "") ++ String.ofList x.text
  | .infinite negative => if negative then "-inf" else "inf"
  | .notANumber => "NaN"

def Found.text : Found → String
  | .value .null => "unit value"
  | .value (.bool b) => "boolean \x60" ++ (if b then "true" else "false") ++ "\x60"
  | .value (.integer n) => n.foundText
  | .value (.float x) => "floating point \x60" ++ x.text ++ "\x60"
  | .value (.text s) => "string " ++ Text.quoted (String.ofList s)
  | .sequence => "sequence"
  | .mapping => "map"

/-- What a reader asks for. -/
inductive Expected where
  | string
  | bool
  | sequence
  | mapping
  | field
  | record (name : String)
  | core (tag : CoreTag)
  deriving Repr, DecidableEq

def Expected.text : Expected → String
  | .string => "a string"
  | .bool => "a boolean"
  | .sequence => "a sequence"
  | .mapping => "a map"
  | .field => "field identifier"
  | .record name => "struct " ++ name
  | .core .bool => "a boolean"
  | .core .integer => "an integer"
  | .core .float => "a float"
  | .core .null => "null"

/-- Why a node does not fit. -/
inductive Mismatch where
  | wrongType (found : Found) (expected : Expected)
  | wrongText (found : List Char) (expected : CoreTag)
  | missingField (name : String)
  | duplicateField (name : String)
  deriving Repr, DecidableEq

def Mismatch.text : Mismatch → String
  | .wrongType found expected =>
    "invalid type: " ++ found.text ++ ", expected " ++ expected.text
  | .wrongText found expected =>
    "invalid value: string " ++ Text.quoted (String.ofList found) ++ ", expected " ++
      (Expected.core expected).text
  | .missingField name => "missing field \x60" ++ name ++ "\x60"
  | .duplicateField name => "duplicate field \x60" ++ name ++ "\x60"

/-- One step from a node to a node inside it. A key that is no plain text has no name. -/
inductive PathStep where
  | index (position : Nat)
  | key (name : List Char)
  | unnamed
  deriving Repr, DecidableEq

/-- A path from the root, its last step first. -/
abbrev NodePath := List PathStep

/-- The text of a path; the root is a point. -/
def NodePath.text : NodePath → String
  | [] => "."
  | step :: outer =>
    let inside := if outer.isEmpty then "" else NodePath.text outer ++ "."
    match step with
    | .index n => NodePath.text outer ++ "[" ++ toString n ++ "]"
    | .key name => inside ++ String.ofList name
    | .unnamed => inside ++ "?"

/-- Why reading a document fails. -/
inductive ReadError where
  | load (fault : LoadFault)
  | mismatch (reason : Mismatch) (place : Option (Mark × NodePath))
  | tooManyAliases
  | severalDocuments
  deriving Repr, DecidableEq

/-- The message of an error. The path is left out at the root, the mark at the origin. -/
def ReadError.message : ReadError → String
  | .load f => f.message
  | .mismatch reason none => reason.text
  | .mismatch reason (some (m, path)) =>
    (if path.isEmpty then "" else path.text ++ ": ") ++ reason.text ++ m.suffixText
  | .tooManyAliases => "repetition limit exceeded"
  | .severalDocuments =>
    "deserializing from YAML containing more than one document is not supported"

/-! ### Readers -/

/-- Reading keeps count of the aliases that it has followed. -/
abbrev Reading := StateT Nat (Except ReadError)

/-- A reader of values takes the document, for its aliases, the path of a node, and the node. -/
abbrev Reader (α : Type) := Document → NodePath → Node → Reading α

namespace Reading

/-- Ends with a mismatch that has no place yet. -/
def mismatch {α : Type} (reason : Mismatch) : Reading α :=
  throw (.mismatch reason none)

/-- The error with a place, unless it has one. -/
def placed (m : Mark) (path : NodePath) : ReadError → ReadError
  | .mismatch reason none => .mismatch reason (some (m, path))
  | e => e

/-- Gives a place to the mismatches of a reading that have none. -/
def placing {α : Type} (m : Mark) (path : NodePath) (r : Reading α) : Reading α :=
  fun n => (r n).mapError (placed m path)

end Reading

namespace Document

/-- Ends with the fault that broke off the text. -/
def lostHere {α : Type} (d : Document) : Reading α :=
  throw (.load (d.fault.getD (.malformed ⟨.missingContent, Mark.start, none, 0⟩)))

/-- Follows an alias. A document may be read with at most a hundred times as many aliases as it has
events. -/
def resolve (d : Document) (n : Node) : Reading Node := do
  match n with
  | .aliasOf _ label =>
    let followed := (← get) + 1
    set followed
    if 100 * d.size < followed then throw .tooManyAliases
    return d.target label
  | n => return n

end Document

def Scalar.mismatch (s : Scalar) (expected : Expected) : Mismatch :=
  match s.value with
  | .ok v => .wrongType (.value v) expected
  | .error tag => .wrongText s.text tag

mutual

/-- Some part of the node was lost. -/
def Node.isBroken : Node → Bool
  | .lost => true
  | .scalar .. | .aliasOf .. => false
  | .sequence _ items => Node.anyBroken items
  | .mapping _ entries => Node.anyEntryBroken entries

def Node.anyBroken : List Node → Bool
  | [] => false
  | n :: ns => n.isBroken || Node.anyBroken ns

def Node.anyEntryBroken : List (Node × Node) → Bool
  | [] => false
  | (k, v) :: es => k.isBroken || v.isBroken || Node.anyEntryBroken es

end

namespace Reader

/-- Passes over a node of any kind. -/
def ignore : Reader Unit := fun d _ n =>
  if n.isBroken then d.lostHere else pure ()

/-- Reads a scalar as its text, whatever its tag. -/
def text (expected : Expected) : Reader (List Char) := fun d path n => do
  match ← d.resolve n with
  | .scalar _ s => return s.text
  | .sequence m _ => (Reading.mismatch (.wrongType .sequence expected)).placing m path
  | .mapping m _ => (Reading.mismatch (.wrongType .mapping expected)).placing m path
  | .aliasOf .. | .lost => d.lostHere

def string : Reader String := fun d path n => do
  return String.ofList (← text .string d path n)

def bool : Reader Bool := fun d path n => do
  match ← d.resolve n with
  | .scalar m s =>
    match s.asBool? with
    | some b => return b
    | none => (Reading.mismatch (s.mismatch .bool)).placing m path
  | .sequence m _ => (Reading.mismatch (.wrongType .sequence .bool)).placing m path
  | .mapping m _ => (Reading.mismatch (.wrongType .mapping .bool)).placing m path
  | .aliasOf .. | .lost => d.lostHere

def optional {α : Type} (r : Reader α) : Reader (Option α) := fun d path n => do
  match ← d.resolve n with
  | .scalar m s =>
    match s.isAbsent with
    | .ok true => return none
    | .ok false => return some (← r d path (.scalar m s))
    | .error tag => Reading.mismatch (.wrongText s.text tag)
  | n => return some (← r d path n)

/-- Reads the items of a sequence from the given position on. -/
def items {α : Type} (r : Reader α) (d : Document) (path : NodePath) :
    Nat → List Node → Reading (List α)
  | _, [] => return []
  | i, n :: ns => do
    let x ← r d (.index i :: path) n
    return x :: (← items r d path (i + 1) ns)

/-- Reads a sequence; a value left out has no items. -/
def list {α : Type} (r : Reader α) : Reader (List α) := fun d path n => do
  match ← d.resolve n with
  | .sequence m ns => (items r d path 0 ns).placing m path
  | .scalar m s =>
    if s.isMissing then return []
    else (Reading.mismatch (s.mismatch .sequence)).placing m path
  | .mapping m _ => (Reading.mismatch (.wrongType .mapping .sequence)).placing m path
  | .aliasOf .. | .lost => d.lostHere

def keyStep : Node → PathStep
  | .scalar _ s => .key s.text
  | _ => .unnamed

/-- Reads the entries of a mapping, keys as given by the second argument, and folds them into a
state. A key is read under the path of the mapping, its value one step below. -/
def foldEntries {σ : Type} (d : Document) (path : NodePath) (expected : Expected)
    (entry : String → σ → NodePath → Node → Reading σ) : List (Node × Node) → σ → Reading σ
  | [], s => return s
  | (k, v) :: es, s => do
    let name ← text expected d path k
    let s ← entry (String.ofList name) s (keyStep k :: path) v
    foldEntries d path expected entry es s

/-- Reads a mapping by folding its entries; a value left out has none. -/
def mapping {σ : Type} (expectedValue expectedKey : Expected) (start : σ)
    (entry : Document → String → σ → NodePath → Node → Reading σ)
    (finish : σ → Reading σ) : Reader σ := fun d path n => do
  match ← d.resolve n with
  | .mapping m es =>
    (do finish (← foldEntries d path expectedKey (entry d) es start)).placing m path
  | .scalar m s =>
    if s.isMissing then (finish start).placing m path
    else (Reading.mismatch (s.mismatch expectedValue)).placing m path
  | .sequence m _ => (Reading.mismatch (.wrongType .sequence expectedValue)).placing m path
  | .aliasOf .. | .lost => d.lostHere

/-- Reads a mapping with values of one type; of several entries with a key the last one counts. -/
def map {α : Type} (r : Reader α) : Reader (KeyMap α) :=
  mapping .mapping .string ∅ (fun d key m path n => do return m.insert key (← r d path n)) pure

end Reader

/-! ### Records -/

/-- A field of a record under construction: its name and what its value does to the record. -/
structure Field (σ : Type) where
  name : String
  read : Document → σ → NodePath → Node → Reading σ

/-- A field that may be given once. -/
def Field.once {σ α : Type} (name : String) (current : σ → Option α) (assign : σ → α → σ)
    (r : Reader α) : Field σ where
  name := name
  read d s path n := do
    if (current s).isSome then Reading.mismatch (.duplicateField name)
    return assign s (← r d path n)

namespace Reader

/-- Reads a record: every known field at most once, any other key passed over. `missing` gives the
first field that is required and was not given. -/
def record {σ : Type} (name : String) (start : σ) (fields : List (Field σ))
    (missing : σ → Option String) : Reader σ :=
  mapping (.record name) .field start
    (fun d key s path n =>
      match fields.find? (·.name == key) with
      | some f => f.read d s path n
      | none => do
        ignore d path n
        return s)
    fun s =>
      match missing s with
      | some field => Reading.mismatch (.missingField field)
      | none => return s

/-- Reads the only document of a text. An error of the reader comes before a fault of the text
further on, and that one before a document that follows. -/
def readText {α : Type} (r : Reader α) (s : List Char) : Except ReadError α := do
  let d := Document.load s
  let (x, _) ← (r d [] d.root).run 0
  match d.fault with
  | some f => throw (.load f)
  | none => if d.followed then throw .severalDocuments else return x

end Reader

end ShardCheck.Yaml
