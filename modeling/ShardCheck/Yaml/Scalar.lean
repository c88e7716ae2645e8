import ShardCheck.Decimal.Shortest
import ShardCheck.Yaml.Node

/-!
# The values of scalars

A plain scalar without a tag is null, a boolean, an integer, a number or a text, in this order. A
tag of the core set asks for one of these kinds.
-/

namespace ShardCheck.Yaml

/-! ### Spellings -/

def isNull (s : List Char) : Bool :=
  ["null", "Null", "NULL", "~"].any (·.toList == s)

def bool? (s : List Char) : Option Bool :=
  if ["true", "True", "TRUE"].any (·.toList == s) then some true
  else if ["false", "False", "FALSE"].any (·.toList == s) then some false
  else none

/-- The text without a leading sign of the given kind. -/
def dropSign (sign : Char) : List Char → List Char
  | c :: r => if c == sign then r else c :: r
  | [] => []

def startsSigned : List Char → Bool
  | c :: _ => c == '+' || c == '-'
  | [] => false

/-- The digits of a number in a base of up to sixteen. -/
def digits? (base : Nat) (s : List Char) : Option Nat :=
  if s.isEmpty then none
  else s.foldlM (fun n c => do
    let v ← hexValue? c
    if v < base then some (base * n + v) else none) 0

/-- Several digits that start with a zero, possibly signed, are a text and no number. -/
def isZeroPadded (s : List Char) : Bool :=
  let t := match s with
    | c :: r => if c == '+' || c == '-' then r else s
    | [] => []
  match t with
  | '0' :: r => !r.isEmpty && r.all Char.isDigit
  | _ => false

/-- The base that the start of a number announces. -/
def announcedBase? : List Char → Option (Nat × List Char)
  | '0' :: 'x' :: r => some (16, r)
  | '0' :: 'o' :: r => some (8, r)
  | '0' :: 'b' :: r => some (2, r)
  | _ => none

/-- The number of a text without its sign: in an announced base, or in base ten. -/
def magnitude? (whole s : List Char) : Option Nat :=
  match announcedBase? s with
  | some (base, r) => digits? base r
  | none => if isZeroPadded whole then none else digits? 10 s

/-! ### Integers -/

/-- An integer; a wide one does not fit 64 bits but 128. -/
inductive IntegerValue where
  | small (value : Int)
  | wideNonneg (value : Nat)
  | wideNegative (value : Int)
  deriving Repr, DecidableEq

/-- The integer that the text spells. A plus sign is allowed in front of a nonnegative one. -/
def integer? (s : List Char) : Option IntegerValue :=
  match s with
  | '-' :: r => do
    let n ← magnitude? s r
    if n ≤ Nat.pow 2 63 then some (.small (-n))
    else if n ≤ Nat.pow 2 127 then some (.wideNegative (-n))
    else none
  | _ => do
    let n ← magnitude? s (dropSign '+' s)
    if n < Nat.pow 2 64 then some (.small n)
    else if n < Nat.pow 2 128 then some (.wideNonneg n)
    else none

/-! ### Numbers -/

/-- A number that is no integer, with its sign apart. -/
inductive FloatValue where
  | finite (negative : Bool) (value : Decimal.Binary64)
  | infinite (negative : Bool)
  | notANumber
  deriving Repr, DecidableEq

/-- The exponent of a decimal after its letter. -/
def exponent? (s : List Char) : Option Int :=
  match s with
  | '-' :: r => (digits? 10 r).map fun n => -(n : Int)
  | _ => (digits? 10 (dropSign '+' s)).map fun n => (n : Int)

/-- The decimal that the text spells: digits with at most one point, at least one digit among them,
and possibly an exponent. -/
def decimal? (s : List Char) : Option (Nat × Int) := do
  let whole := s.takeWhile Char.isDigit
  let afterWhole := s.dropWhile Char.isDigit
  let (fraction, afterFraction) := match afterWhole with
    | '.' :: r => (r.takeWhile Char.isDigit, r.dropWhile Char.isDigit)
    | _ => ([], afterWhole)
  let mantissa ← digits? 10 (whole ++ fraction)
  let e ← match afterFraction with
    | [] => some 0
    | c :: r => if c == 'e' || c == 'E' then exponent? r else none
  return (mantissa, e - fraction.length)

/-- The number that the text spells. A decimal beyond the finite numbers is none. -/
def float? (s : List Char) : Option FloatValue :=
  let unsigned := dropSign '+' s
  if s.head? == some '+' && startsSigned unsigned then none
  else if [".inf", ".Inf", ".INF"].any (·.toList == unsigned) then some (.infinite false)
  else if ["-.inf", "-.Inf", "-.INF"].any (·.toList == s) then some (.infinite true)
  else if [".nan", ".NaN", ".NAN"].any (·.toList == s) then some .notANumber
  else do
    let negative := unsigned.head? == some '-'
    let (digits, e) ← decimal? (dropSign '-' unsigned)
    let value ← Decimal.Binary64.ofDecimal digits e
    return .finite negative value

/-! ### Values -/

/-- The value of a scalar. -/
inductive ScalarValue where
  | null
  | bool (value : Bool)
  | integer (value : IntegerValue)
  | float (value : FloatValue)
  | text (value : List Char)
  deriving Repr, DecidableEq

def plainValue (s : List Char) : ScalarValue :=
  if s.isEmpty || isNull s then .null
  else
    match bool? s, integer? s with
    | some b, _ => .bool b
    | none, some n => .integer n
    | none, none =>
      match if isZeroPadded s then none else float? s with
      | some x => .float x
      | none => .text s

/-- The tags of the core set. -/
inductive CoreTag where
  | bool
  | integer
  | float
  | null
  deriving Repr, DecidableEq

def CoreTag.ofText? (tag : List Char) : Option CoreTag :=
  if tag == "tag:yaml.org,2002:bool".toList then some .bool
  else if tag == "tag:yaml.org,2002:int".toList then some .integer
  else if tag == "tag:yaml.org,2002:float".toList then some .float
  else if tag == "tag:yaml.org,2002:null".toList then some .null
  else none

namespace Scalar

/-- A plain scalar without any text, which stands for a value left out. -/
def isMissing (s : Scalar) : Bool := s.text.isEmpty && s.style == .plain

def coreTag? (s : Scalar) : Option CoreTag := s.tag.bind CoreTag.ofText?

/-- The value of a scalar, or the core tag that its text does not fit. -/
def value (s : Scalar) : Except CoreTag ScalarValue :=
  match s.tag, s.coreTag? with
  | none, _ => .ok (if s.style == .plain then plainValue s.text else .text s.text)
  | some _, some .bool => (bool? s.text).elim (.error .bool) (.ok <| .bool ·)
  | some _, some .integer => (integer? s.text).elim (.error .integer) (.ok <| .integer ·)
  | some _, some .float => (float? s.text).elim (.error .float) (.ok <| .float ·)
  | some _, some .null => if isNull s.text then .ok .null else .error .null
  | some tag, none =>
    .ok (if tag.head? == some '!' && s.style == .plain then plainValue s.text else .text s.text)

/-- The boolean that a scalar stands for. A plain scalar may carry any tag, a literal one the core
tag. -/
def asBool? (s : Scalar) : Option Bool :=
  if s.style == .plain || (s.style == .literal && s.coreTag? == some .bool) then bool? s.text
  else none

/-- The scalar stands for no value where one is optional; the error is a text under the tag of
null. -/
def isAbsent (s : Scalar) : Except CoreTag Bool :=
  if s.style != .plain then .ok false
  else
    match s.tag, s.coreTag? with
    | none, _ => .ok (s.text.isEmpty || isNull s.text)
    | some _, some .null => if isNull s.text then .ok true else .error .null
    | some _, _ => .ok false

end Scalar

end ShardCheck.Yaml
