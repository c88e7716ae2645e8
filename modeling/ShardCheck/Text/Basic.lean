import ShardCheck.Text.Visible

/-!
# Texts

White space, the parts of a text before and behind a mark, the quoted form of a text, and the bytes
of its characters.
-/

namespace ShardCheck.Text

/-! ### White space -/

/-- The code points of the property `White_Space`, as inclusive intervals. -/
def blankIntervals : List (Nat × Nat) :=
  [(0x9, 0xd), (0x20, 0x20), (0x85, 0x85), (0xa0, 0xa0), (0x1680, 0x1680), (0x2000, 0x200a),
    (0x2028, 0x2029), (0x202f, 0x202f), (0x205f, 0x205f), (0x3000, 0x3000)]

def isBlank (c : Char) : Bool :=
  blankIntervals.any fun i => i.1 ≤ c.toNat && c.toNat ≤ i.2

def allBlank (s : List Char) : Bool :=
  s.all isBlank

/-! ### Parts of a text -/

/-- What follows the given start of a text, if the text starts so. -/
def dropStart? : List Char → List Char → Option (List Char)
  | [], s => some s
  | _ :: _, [] => none
  | c :: p, d :: s => if c == d then dropStart? p s else none

theorem dropStart?_eq_some_iff {p s r : List Char} : dropStart? p s = some r ↔ s = p ++ r := by
  induction p generalizing s with
  | nil => simp [dropStart?, eq_comm]
  | cons c p ih =>
    cases s with
    | nil => simp [dropStart?]
    | cons d s =>
      simp only [dropStart?, List.cons_append, List.cons.injEq]
      by_cases h : c = d
      · simp [h, ih]
      · simp [h, Ne.symm h]

/-- What precedes the given end of a text, if the text ends so. -/
def dropEnd? (p s : List Char) : Option (List Char) :=
  (dropStart? p.reverse s.reverse).map List.reverse

theorem dropEnd?_eq_some_iff {p s r : List Char} : dropEnd? p s = some r ↔ s = r ++ p := by
  simp only [dropEnd?, Option.map_eq_some_iff, dropStart?_eq_some_iff]
  constructor
  · rintro ⟨t, ht, rfl⟩
    simpa using congrArg List.reverse ht
  · rintro rfl
    exact ⟨r.reverse, by simp, by simp⟩

/-- The parts before and after the first occurrence of a mark. -/
def splitFirst? (mark : List Char) : List Char → Option (List Char × List Char)
  | [] => if mark.isEmpty then some ([], []) else none
  | c :: s =>
    match dropStart? mark (c :: s) with
    | some after => some ([], after)
    | none => (splitFirst? mark s).map fun (before, after) => (c :: before, after)

/-! ### Quoted texts -/

/-- Lower-case hexadecimal digits, without leading zeros. -/
def hexDigits (n : Nat) : List Char :=
  Nat.toDigits 16 n

/-- A character as it stands between the quotes: the common controls, the backslash and the quote
have two-character forms, and a character without a shape of its own gives its code point. -/
def quotedChar (c : Char) : List Char :=
  match c with
  | '\x00' => ['\\', '0']
  | '\t' => ['\\', 't']
  | '\n' => ['\\', 'n']
  | '\r' => ['\\', 'r']
  | '"' => ['\\', '"']
  | '\\' => ['\\', '\\']
  | c => if isVisible c then [c] else ['\\', 'u', '\x7b'] ++ hexDigits c.toNat ++ ['\x7d']

def quoted (s : String) : String :=
  String.ofList (['"'] ++ s.toList.flatMap quotedChar ++ ['"'])

/-! ### UTF-8 -/

/-- The bytes of a code point, the first one first. -/
def utf8Bytes (n : Nat) : List Nat :=
  if n < 0x80 then [n]
  else if n < 0x800 then [0xc0 + n / 0x40, 0x80 + n % 0x40]
  else if n < 0x10000 then [0xe0 + n / 0x1000, 0x80 + n / 0x40 % 0x40, 0x80 + n % 0x40]
  else [0xf0 + n / 0x40000, 0x80 + n / 0x1000 % 0x40, 0x80 + n / 0x40 % 0x40, 0x80 + n % 0x40]

/-- The last code points of a number of bytes, and those around the surrogates. -/
def utf8Breaks : List Nat := [0x7f, 0x7ff, 0xd7ff, 0xdfff, 0xffff]

/-- The first place at which a range has to be divided: the last code point of the first part. -/
def splitPoint? (first last : Nat) : Option Nat :=
  (utf8Breaks.find? fun m => first ≤ m && m < last) <|>
    if last < 0x80 then none
    else [0x40, 0x1000, 0x40000].findSome? fun size =>
      if first / size == last / size then none
      else if first % size != 0 then some (first / size * size + (size - 1))
      else if last % size != size - 1 then some (last / size * size - 1)
      else none

/-- The products of byte ranges that make up a range of code points. Surrogates have no encoding.
The measure is the number of code points. -/
def utf8Ranges (first last : Nat) : List (List (Nat × Nat)) :=
  match splitPoint? first last with
  | some m =>
    if _h : first ≤ m ∧ m < last then
      utf8Ranges first m ++ utf8Ranges (m + 1) last
    else []
  | none =>
    if 0xd800 ≤ first && last ≤ 0xdfff then [] else [(utf8Bytes first).zip (utf8Bytes last)]
termination_by last - first

end ShardCheck.Text
