import Mathlib.Tactic.Common
import ShardCheck.Glob.Regex

/-!
# What expressions match

The texts of an expression are given here by rules, one for each way to build an expression. A text
is accepted by derivatives exactly if it is one of them: after each character the expressions that
are kept match what may follow it, and one that is covered by another adds nothing.
-/

namespace ShardCheck.Glob.Regex

/-- An expression matches a text. A body that matches the empty text may stand for the repetitions
that are still required. -/
inductive Matches : Regex → List Char → Prop where
  | empty : Matches .empty []
  | chars {s : CharSet} {c : Char} (h : s.contains c = true) : Matches (.chars s) [c]
  | seq {r s : Regex} {t u : List Char} (hr : Matches r t) (hs : Matches s u) :
      Matches (.seq r s) (t ++ u)
  | left {r s : Regex} {t : List Char} (h : Matches r t) : Matches (.alt r s) t
  | right {r s : Regex} {t : List Char} (h : Matches s t) : Matches (.alt r s) t
  | enough {r : Regex} {upper : Option Nat} : Matches (.rep r 0 upper) []
  | idle {r : Regex} {lower : Nat} {upper : Option Nat} (h : Matches r []) :
      Matches (.rep r lower upper) []
  | again {r : Regex} {lower : Nat} {upper : Option Nat} {t u : List Char}
      (hupper : upper ≠ some 0) (hr : Matches r t)
      (hrest : Matches (.rep r (lower - 1) (upper.map (· - 1))) u) :
      Matches (.rep r lower upper) (t ++ u)

variable {r s : Regex} {t : List Char}

/-! ### Rules read backwards -/

@[simp] lemma matches_empty_iff : Matches .empty t ↔ t = [] := by
  constructor
  · rintro ⟨⟩
    rfl
  · rintro rfl
    exact .empty

@[simp] lemma matches_chars_iff {cs : CharSet} :
    Matches (.chars cs) t ↔ ∃ c, cs.contains c = true ∧ t = [c] := by
  constructor
  · rintro ⟨⟩
    exact ⟨_, ‹_›, rfl⟩
  · rintro ⟨c, h, rfl⟩
    exact .chars h

lemma matches_seq_iff :
    Matches (.seq r s) t ↔ ∃ u v, t = u ++ v ∧ Matches r u ∧ Matches s v := by
  constructor
  · rintro ⟨⟩
    exact ⟨_, _, rfl, ‹_›, ‹_›⟩
  · rintro ⟨u, v, rfl, hr, hs⟩
    exact .seq hr hs

@[simp] lemma matches_alt_iff : Matches (.alt r s) t ↔ Matches r t ∨ Matches s t := by
  constructor
  · rintro (_ | _ | _ | h | h)
    · exact .inl h
    · exact .inr h
  · rintro (h | h)
    · exact .left h
    · exact .right h

lemma matches_rep_iff {lower : Nat} {upper : Option Nat} :
    Matches (.rep r lower upper) t ↔
      t = [] ∧ (lower = 0 ∨ Matches r []) ∨
        upper ≠ some 0 ∧ ∃ u v, t = u ++ v ∧ Matches r u ∧
          Matches (.rep r (lower - 1) (upper.map (· - 1))) v := by
  constructor
  · intro h
    cases h with
    | enough => exact .inl ⟨rfl, .inl rfl⟩
    | idle h => exact .inl ⟨rfl, .inr h⟩
    | again hupper hr hrest => exact .inr ⟨hupper, _, _, rfl, hr, hrest⟩
  · rintro (⟨rfl, rfl | h⟩ | ⟨hupper, u, v, rfl, hr, hrest⟩)
    · exact .enough
    · exact .idle h
    · exact .again hupper hr hrest

lemma matches_append_iff : Matches (r.append s) t ↔ Matches (.seq r s) t := by
  rw [append.eq_def]
  split
  · simp [matches_seq_iff]
  · simp [matches_seq_iff]
  · rfl

/-! ### Derivatives -/

lemma nullable_iff : r.nullable = true ↔ Matches r [] := by
  induction r with
  | empty => simp [nullable]
  | chars cs => simp [nullable]
  | seq r s ihr ihs =>
    rw [nullable, Bool.and_eq_true, ihr, ihs, matches_seq_iff]
    constructor
    · rintro ⟨hr, hs⟩
      exact ⟨[], [], rfl, hr, hs⟩
    · rintro ⟨u, v, heq, hr, hs⟩
      obtain ⟨rfl, rfl⟩ := List.append_eq_nil_iff.1 heq.symm
      exact ⟨hr, hs⟩
  | alt r s ihr ihs => rw [nullable, Bool.or_eq_true, ihr, ihs, matches_alt_iff]
  | rep r lower upper ih =>
    rw [nullable, Bool.or_eq_true, ih, beq_iff_eq, matches_rep_iff]
    constructor
    · exact fun h => .inl ⟨rfl, h⟩
    · rintro (⟨-, h⟩ | ⟨-, u, v, heq, hr, -⟩)
      · exact h
      · obtain ⟨rfl, rfl⟩ := List.append_eq_nil_iff.1 heq.symm
        exact .inr hr

/-- A repetition that matches a text with a first character has a first round that takes it. A round
before that takes nothing, and can be put off. -/
lemma matches_rep_cons_iff {lower : Nat} {upper : Option Nat} {c : Char} :
    Matches (.rep r lower upper) (c :: t) ↔
      upper ≠ some 0 ∧ ∃ u v, t = u ++ v ∧ Matches r (c :: u) ∧
        Matches (.rep r (lower - 1) (upper.map (· - 1))) v := by
  constructor
  · intro h
    generalize hrep : Regex.rep r lower upper = s at h
    generalize htext : c :: t = text at h
    induction h generalizing lower upper with
    | empty | chars | seq | left | right => cases hrep
    | enough | idle => cases htext
    | @again r' lower' upper' u v hupper hr hrest _ ih =>
      cases hrep
      refine ⟨hupper, ?_⟩
      cases u with
      | cons d u =>
        obtain ⟨rfl, rfl⟩ := List.cons.inj htext
        exact ⟨u, v, rfl, hr, hrest⟩
      | nil =>
        obtain ⟨hupper', u, v, heq, hu, hv⟩ := ih rfl htext
        exact ⟨u, v, heq, hu, .again hupper' hr hv⟩
  · rintro ⟨hupper, u, v, rfl, hu, hv⟩
    exact .again hupper hu hv

def AnyMatches (rs : List Regex) (t : List Char) : Prop := ∃ r ∈ rs, Matches r t

@[simp] lemma anyMatches_nil : ¬ AnyMatches [] t := by simp [AnyMatches]

@[simp] lemma anyMatches_cons_iff {rs : List Regex} :
    AnyMatches (r :: rs) t ↔ Matches r t ∨ AnyMatches rs t := by
  simp [AnyMatches]

@[simp] lemma anyMatches_append_iff {rs ss : List Regex} :
    AnyMatches (rs ++ ss) t ↔ AnyMatches rs t ∨ AnyMatches ss t := by
  simp [AnyMatches, or_and_right, exists_or]

lemma anyMatches_map_append_iff {rs : List Regex} :
    AnyMatches (rs.map (·.append s)) t ↔ ∃ u v, t = u ++ v ∧ AnyMatches rs u ∧ Matches s v := by
  constructor
  · rintro ⟨_, hmem, h⟩
    obtain ⟨r, hr, rfl⟩ := List.mem_map.1 hmem
    obtain ⟨u, v, heq, hu, hv⟩ := matches_seq_iff.1 (matches_append_iff.1 h)
    exact ⟨u, v, heq, ⟨r, hr, hu⟩, hv⟩
  · rintro ⟨u, v, heq, ⟨r, hr, hu⟩, hv⟩
    exact ⟨r.append s, List.mem_map_of_mem hr,
      matches_append_iff.2 (matches_seq_iff.2 ⟨u, v, heq, hu, hv⟩)⟩

/-- What is kept after a character matches the texts that go on after it. -/
lemma anyMatches_after_iff {c : Char} : AnyMatches (r.after c) t ↔ Matches r (c :: t) := by
  induction r generalizing t with
  | empty => simp [after]
  | chars cs =>
    rw [after]
    split
    · rename_i h
      simp [h]
    · rename_i h
      simp [h]
  | seq r s ihr ihs =>
    -- the first part may match nothing, and then the character is one of the second
    have hlater : AnyMatches (if r.nullable then s.after c else []) t ↔
        Matches r [] ∧ Matches s (c :: t) := by
      rw [← nullable_iff, ← ihs]
      split <;> simp [*]
    rw [after, anyMatches_append_iff, anyMatches_map_append_iff, hlater, matches_seq_iff]
    constructor
    · rintro (⟨u, v, rfl, hu, hv⟩ | ⟨hnil, hs⟩)
      · exact ⟨c :: u, v, rfl, ihr.1 hu, hv⟩
      · exact ⟨[], c :: t, rfl, hnil, hs⟩
    · rintro ⟨u, v, heq, hu, hv⟩
      cases u with
      | nil => exact .inr ⟨hu, heq ▸ hv⟩
      | cons d u =>
        obtain ⟨rfl, rfl⟩ := List.cons.inj heq
        exact .inl ⟨u, v, rfl, ihr.2 hu, hv⟩
  | alt r s ihr ihs => rw [after, anyMatches_append_iff, ihr, ihs, matches_alt_iff]
  | rep r lower upper ih =>
    rw [after, matches_rep_cons_iff]
    split
    · rename_i h
      simp [eq_of_beq h]
    · rename_i h
      rw [anyMatches_map_append_iff]
      constructor
      · rintro ⟨u, v, heq, hu, hv⟩
        exact ⟨by simpa using h, u, v, heq, ih.1 hu, hv⟩
      · rintro ⟨-, u, v, heq, hu, hv⟩
        exact ⟨u, v, heq, ih.2 hu, hv⟩

/-! ### Covered expressions -/

lemma upperCovers_pred {upper upper' : Option Nat} (h : upperCovers upper' upper = true) :
    upperCovers (upper'.map (· - 1)) (upper.map (· - 1)) = true := by
  cases upper' with
  | none => rfl
  | some m =>
    cases upper with
    | none => cases h
    | some n =>
      simp only [upperCovers, Option.map_some, decide_eq_true_eq] at h ⊢
      omega

lemma ne_zero_of_upperCovers {upper upper' : Option Nat} (h : upperCovers upper' upper = true)
    (hupper : upper ≠ some 0) : upper' ≠ some 0 := by
  rintro rfl
  cases upper with
  | none => cases h
  | some n => simp_all [upperCovers]

lemma Matches.rep_of_upperCovers {upper upper' : Option Nat} (h : Matches (.rep r 0 upper) t)
    (hcovers : upperCovers upper' upper = true) : Matches (.rep r 0 upper') t := by
  generalize hrep : Regex.rep r 0 upper = s at h
  induction h generalizing upper upper' with
  | empty | chars | seq | left | right => cases hrep
  | enough =>
    cases hrep
    exact .enough
  | idle h =>
    cases hrep
    exact .idle h
  | again hupper hr _ _ ih =>
    cases hrep
    exact .again (ne_zero_of_upperCovers hcovers hupper) hr (ih (upperCovers_pred hcovers) rfl)

/-- An expression that covers another one matches all its texts. -/
lemma Matches.of_covers (h : Matches s t) (hcovers : r.covers s = true) : Matches r t := by
  fun_induction covers r s generalizing t with
  | case1 r u s v =>
    rw [Bool.and_eq_true, beq_iff_eq] at hcovers
    obtain ⟨rfl, hupper⟩ := hcovers
    exact h.rep_of_upperCovers hupper
  | case2 r₁ r₂ s₁ s₂ ih =>
    rw [Bool.and_eq_true, beq_iff_eq] at hcovers
    obtain ⟨hfirst, rfl⟩ := hcovers
    obtain ⟨u, v, rfl, hu, hv⟩ := matches_seq_iff.1 h
    exact .seq (ih hu hfirst) hv
  | case3 r s =>
    rw [beq_iff_eq] at hcovers
    exact hcovers ▸ h

lemma anyMatches_addUncovered_iff {rs : List Regex} :
    AnyMatches (addUncovered rs s) t ↔ AnyMatches rs t ∨ Matches s t := by
  rw [addUncovered]
  split
  · rename_i h
    obtain ⟨r, hr, hcovers⟩ := List.any_eq_true.1 h
    exact (or_iff_left_of_imp fun hs => ⟨r, hr, hs.of_covers hcovers⟩).symm
  · rw [anyMatches_cons_iff, or_comm]
    constructor
    · rintro (⟨r, hr, h⟩ | h)
      · exact .inl ⟨r, (List.mem_filter.1 hr).1, h⟩
      · exact .inr h
    · rintro (⟨r, hr, h⟩ | h)
      · cases hcovers : s.covers r with
        | true => exact .inr (h.of_covers hcovers)
        | false => exact .inl ⟨r, List.mem_filter.2 ⟨hr, by simp [hcovers]⟩, h⟩
      · exact .inr h

lemma anyMatches_foldl_addUncovered_iff {rs ss : List Regex} :
    AnyMatches (ss.foldl addUncovered rs) t ↔ AnyMatches rs t ∨ AnyMatches ss t := by
  induction ss generalizing rs with
  | nil => simp
  | cons s ss ih =>
    rw [List.foldl_cons, ih, anyMatches_addUncovered_iff, anyMatches_cons_iff, or_assoc]

/-! ### Texts -/

lemma anyAccepts_iff {rs : List Regex} : anyAccepts rs t = true ↔ AnyMatches rs t := by
  induction t generalizing rs with
  | nil => simp [anyAccepts, AnyMatches, nullable_iff]
  | cons c t ih =>
    rw [anyAccepts, ih, anyMatches_foldl_addUncovered_iff]
    simp only [anyMatches_nil, false_or]
    constructor
    · rintro ⟨s, hs, h⟩
      obtain ⟨r, hr, hs⟩ := List.mem_flatMap.1 hs
      exact ⟨r, hr, anyMatches_after_iff.1 ⟨s, hs, h⟩⟩
    · rintro ⟨r, hr, h⟩
      obtain ⟨s, hs, h⟩ := anyMatches_after_iff.2 h
      exact ⟨s, List.mem_flatMap.2 ⟨r, hr, hs⟩, h⟩

/-- Exactly the texts that an expression matches are accepted. -/
lemma accepts_iff : r.accepts t = true ↔ Matches r t := by
  rw [accepts, anyAccepts_iff]
  simp

end ShardCheck.Glob.Regex
