import ShardCheck.Glob.Token

/-!
# Lexemes of a glob

The text of a glob is cut into atoms and the signs that open, divide and close groups. Flags set
whether the literals after them are read in any case; they leave no lexeme.

A tree is `**` between slashes or ends of its glob, where flags may come in between. It takes the
slashes around it with it.
-/

namespace ShardCheck.Glob

/-- A lexeme. -/
inductive Lexeme where
  | atom (a : Atom)
  | openAlternatives
  | nextAlternative
  | closeAlternatives
  | openRepetition
  | closeRepetition (lower : Nat) (upper : Option Nat)
  deriving Repr, DecidableEq

namespace Lexeme

/-! ### Classes of characters -/

/-- A character that stands for itself only after a backslash. -/
def isSpecial (c : Char) : Bool :=
  ['/', '?', '*', '$', ':', '<', '>', '(', ')', '[', ']', '{', '}', ',', '\\'].contains c

/-- A special character that a backslash can make a literal: any but the slash and the backslash. -/
def isEscapable (c : Char) : Bool := isSpecial c && c != '/' && c != '\\'

/-- The glob, or the group or branch, is over. -/
def atEnd : List Char → Bool
  | [] => true
  | c :: _ => [',', '}', ':', '>'].contains c

/-! ### Flags -/

/-- Reads the rest of a group of flags. At least one has to be set; the last one counts. -/
def flags? (anyCase : Option Bool) : List Char → Option (Bool × List Char)
  | 'i' :: cs => flags? (some true) cs
  | '-' :: 'i' :: cs => flags? (some false) cs
  | ')' :: cs => anyCase.map (·, cs)
  | _ => none

theorem length_of_flags? {s : Option Bool} {cs : List Char} {b : Bool} {r : List Char}
    (h : flags? s cs = some (b, r)) : r.length < cs.length := by
  fun_induction flags? s cs with
  | case1 s cs ih => have := ih h; simp; omega
  | case2 s cs ih => have := ih h; simp; omega
  | case3 s cs => cases s <;> simp_all
  | case4 => simp at h

/-- Passes over all groups of flags at the start of a text. -/
def skipFlags (anyCase : Bool) : List Char → Bool × List Char
  | '(' :: '?' :: cs =>
    match h : flags? none cs with
    | some (b, rest) =>
      have := length_of_flags? h
      skipFlags b rest
    | none => (anyCase, '(' :: '?' :: cs)
  | cs => (anyCase, cs)
termination_by cs => cs.length

theorem length_skipFlags (b : Bool) (cs : List Char) :
    (skipFlags b cs).2.length ≤ cs.length := by
  fun_induction skipFlags b cs with
  | case1 b cs b' rest h _ ih =>
    have := length_of_flags? h
    simp only [List.length_cons]
    omega
  | case2 => simp
  | case3 => simp

/-! ### Trees and wildcards -/

/-- Reads what starts a tree after its first slash: two stars, perhaps after flags. -/
def treeStart? (anyCase : Bool) (cs : List Char) : Option (Bool × List Char) :=
  match skipFlags anyCase cs with
  | (b, '*' :: '*' :: rest) => some (b, rest)
  | _ => none

theorem length_of_treeStart? {a : Bool} {cs : List Char} {b : Bool} {r : List Char}
    (h : treeStart? a cs = some (b, r)) : r.length < cs.length := by
  have hs := length_skipFlags a cs
  simp only [treeStart?] at h
  split at h
  · rename_i hf
    rw [hf] at hs
    simp only [Option.some.injEq, Prod.mk.injEq] at h
    simp only [List.length_cons] at hs
    rw [← h.2]
    omega
  · simp at h

/-- Reads what ends a tree: a slash, perhaps after flags, or the end of the glob. -/
def treeEnd? (anyCase : Bool) (cs : List Char) : Option (Bool × List Char) :=
  match skipFlags anyCase cs with
  | (b, '/' :: rest) => some (b, rest)
  | _ => if atEnd cs then some (anyCase, cs) else none

theorem length_of_treeEnd? {a : Bool} {cs : List Char} {b : Bool} {r : List Char}
    (h : treeEnd? a cs = some (b, r)) : r.length ≤ cs.length := by
  have hs := length_skipFlags a cs
  simp only [treeEnd?] at h
  split at h
  · rename_i hf
    rw [hf] at hs
    simp only [Option.some.injEq, Prod.mk.injEq] at h
    simp only [List.length_cons] at hs
    rw [← h.2]
    omega
  · split at h <;> simp_all

/-- The text after a wildcard does not go on with another one. -/
def endsMany (cs : List Char) : Bool :=
  match (skipFlags false cs).2 with
  | c :: _ => c != '*' && c != '$'
  | [] => true

/-! ### Classes -/

/-- Reads a class up to its closing bracket: its characters, and `none` for each dash. -/
def classSigns? : List Char → Option (List (Option Char) × List Char)
  | ']' :: cs => some ([], cs)
  | '\\' :: c :: cs =>
    if ['[', ']', '-'].contains c then
      (classSigns? cs).map fun (signs, rest) => (some c :: signs, rest)
    else none
  | '-' :: cs => (classSigns? cs).map fun (signs, rest) => (none :: signs, rest)
  | c :: cs =>
    if c == '[' || c == '\\' then none
    else (classSigns? cs).map fun (signs, rest) => (some c :: signs, rest)
  | [] => none

theorem length_of_classSigns? {cs : List Char} {s : List (Option Char)} {r : List Char}
    (h : classSigns? cs = some (s, r)) : r.length < cs.length := by
  fun_induction classSigns? cs generalizing s with
  | case1 => simp_all
  | case2 c cs _ ih =>
    obtain ⟨⟨s', r'⟩, hr, he⟩ := Option.map_eq_some_iff.1 h
    simp only [Prod.mk.injEq] at he
    have := ih (he.2 ▸ hr)
    simp only [List.length_cons]
    omega
  | case3 => simp at h
  | case4 cs ih =>
    obtain ⟨⟨s', r'⟩, hr, he⟩ := Option.map_eq_some_iff.1 h
    simp only [Prod.mk.injEq] at he
    have := ih (he.2 ▸ hr)
    simp only [List.length_cons]
    omega
  | case5 => simp at h
  | case6 c cs _ _ _ _ ih =>
    obtain ⟨⟨s', r'⟩, hr, he⟩ := Option.map_eq_some_iff.1 h
    simp only [Prod.mk.injEq] at he
    have := ih (he.2 ▸ hr)
    simp only [List.length_cons]
    omega
  | case7 => simp at h

/-- The ranges of a class: a character, or two with a dash between them. -/
def ranges? : List (Option Char) → Option (List CharRange)
  | some a :: none :: some b :: signs => (ranges? signs).map (⟨a, b⟩ :: ·)
  | some a :: signs => (ranges? signs).map (⟨a, a⟩ :: ·)
  | none :: _ => none
  | [] => some []

/-- Reads a class after its opening bracket. -/
def class? (cs : List Char) : Option (Atom × List Char) := do
  let negated := cs.head? == some '!'
  let (signs, rest) ← classSigns? (if negated then cs.tail else cs)
  let ranges ← ranges? signs
  if ranges.isEmpty then none else some (.oneOf negated ranges, rest)

theorem length_of_class? {cs : List Char} {a : Atom} {r : List Char}
    (h : class? cs = some (a, r)) : r.length < cs.length := by
  simp only [class?, Option.bind_eq_bind, Option.bind_eq_some_iff] at h
  obtain ⟨⟨signs, rest⟩, hs, ranges, -, hr⟩ := h
  have hl := length_of_classSigns? hs
  split at hr
  · simp at hr
  · simp only [Option.some.injEq, Prod.mk.injEq] at hr
    rw [← hr.2]
    split at hl
    · rw [List.length_tail] at hl
      omega
    · exact hl

/-! ### Bounds -/

/-- The number of repetitions that can be written is below this limit. -/
def boundLimit : Nat := Nat.pow 2 64

def bound? (cs : List Char) : Option (Nat × List Char) :=
  let digits := cs.takeWhile Char.isDigit
  let n := digits.foldl (fun n c => 10 * n + (c.toNat - '0'.toNat)) 0
  if digits.isEmpty || boundLimit ≤ n then none else some (n, cs.dropWhile Char.isDigit)

/-- Reads the sign that closes a repetition. -/
def closing? : List Char → Option (List Char)
  | '>' :: rest => some rest
  | _ => none

/-- Reads the bounds of a repetition after the colon, and the sign that closes it. -/
def bounds? (cs : List Char) : Option (Nat × Option Nat × List Char) :=
  match closing? cs, bound? cs with
  | some rest, _ => some (1, none, rest)
  | none, none => none
  | none, some (lower, ',' :: rest) =>
    match closing? rest, bound? rest with
    | some rest, _ => some (lower, none, rest)
    | none, some (upper, rest) => (closing? rest).map (lower, some upper, ·)
    | none, none => none
  | none, some (lower, rest) => (closing? rest).map (lower, some lower, ·)

theorem length_of_bound? {cs : List Char} {n : Nat} {r : List Char}
    (h : bound? cs = some (n, r)) : r.length ≤ cs.length := by
  simp only [bound?] at h
  split at h
  · simp at h
  · simp only [Option.some.injEq, Prod.mk.injEq] at h
    rw [← h.2]
    exact (List.dropWhile_suffix _).length_le

theorem length_of_closing? {cs r : List Char} (h : closing? cs = some r) :
    r.length < cs.length := by
  unfold closing? at h
  split at h
  · simp only [Option.some.injEq] at h
    simp [h]
  · simp at h

theorem length_of_bounds? {cs : List Char} {l : Nat} {u : Option Nat} {r : List Char}
    (h : bounds? cs = some (l, u, r)) : r.length < cs.length := by
  unfold bounds? at h
  split at h
  · rename_i hc
    simp only [Option.some.injEq, Prod.mk.injEq] at h
    exact h.2.2 ▸ length_of_closing? hc
  · simp at h
  · rename_i lower rest _ hb
    have hl := length_of_bound? hb
    simp only [List.length_cons] at hl
    split at h
    · rename_i hc
      simp only [Option.some.injEq, Prod.mk.injEq] at h
      have := h.2.2 ▸ length_of_closing? hc
      omega
    · rename_i hb'
      obtain ⟨r', hc, he⟩ := Option.map_eq_some_iff.1 h
      simp only [Prod.mk.injEq] at he
      have := length_of_bound? hb'
      have := he.2.2 ▸ length_of_closing? hc
      omega
    · simp at h
  · rename_i hb
    have hl := length_of_bound? hb
    obtain ⟨r', hc, he⟩ := Option.map_eq_some_iff.1 h
    simp only [Prod.mk.injEq] at he
    have := he.2.2 ▸ length_of_closing? hc
    omega

/-! ### Lexemes -/

/-- Cuts a text into lexemes. `atStart` says that a glob starts here, and `anyCase` that literals
are in any case. -/
def scan (atStart anyCase : Bool) (cs : List Char) : Option (List Lexeme) :=
  match cs with
  | [] => some []
  | '(' :: '?' :: cs =>
    match h : flags? none cs with
    | some (b, rest) =>
      have := length_of_flags? h
      if atEnd rest then none else scan atStart b rest
    | none => none
  -- a slash belongs to a tree if one starts behind it
  | '/' :: cs =>
    match h : treeStart? anyCase cs with
    | some (b, inner) =>
      have := length_of_treeStart? h
      match h : treeEnd? b inner with
      | some (b, rest) =>
        have := length_of_treeEnd? h
        (scan false b rest).map (.atom (.tree true) :: ·)
      | none => none
    | none => (scan false anyCase cs).map (.atom .separator :: ·)
  -- two stars without a slash before them are a tree at the start of a glob only
  | '*' :: '*' :: cs =>
    match h : treeEnd? anyCase cs with
    | some (b, rest) =>
      have := length_of_treeEnd? h
      if atStart then (scan false b rest).map (.atom (.tree false) :: ·) else none
    | none => none
  | '[' :: cs =>
    match h : class? cs with
    | some (a, rest) =>
      have := length_of_class? h
      (scan false anyCase rest).map (.atom a :: ·)
    | none => none
  | ':' :: cs =>
    match h : bounds? cs with
    | some (lower, upper, rest) =>
      have := length_of_bounds? h
      (scan false anyCase rest).map (.closeRepetition lower upper :: ·)
    | none => none
  | '\\' :: c :: cs =>
    if isEscapable c then (scan false anyCase cs).map (.atom (.literal c anyCase) :: ·) else none
  | '?' :: cs => (scan false anyCase cs).map (.atom .one :: ·)
  | '{' :: cs => (scan true anyCase cs).map (.openAlternatives :: ·)
  | ',' :: cs => (scan true anyCase cs).map (.nextAlternative :: ·)
  | '}' :: cs => (scan false anyCase cs).map (.closeAlternatives :: ·)
  | '<' :: cs => (scan true anyCase cs).map (.openRepetition :: ·)
  | '>' :: cs => (scan false anyCase cs).map (.closeRepetition 0 none :: ·)
  | c :: cs =>
    if c == '*' || c == '$' then
      if endsMany cs then (scan false anyCase cs).map (.atom .many :: ·) else none
    else if isSpecial c then none
    else (scan false anyCase cs).map (.atom (.literal c anyCase) :: ·)
termination_by cs.length
decreasing_by all_goals (simp only [List.length_cons]; omega)

end Lexeme

end ShardCheck.Glob
