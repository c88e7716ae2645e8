import Mathlib.Data.List.Infix
import Mathlib.Tactic.Common
import ShardCheck.Text.Basic

/-!
# Taking a text apart

A split at a mark is the one in which the part before the mark, together with the beginning of the
mark itself, does not hold the mark. Of several starts or ends that do not go on as one another a
text has at most one, so the order in which they are tried makes no difference.
-/

namespace ShardCheck.Text

lemma isSome_dropStart?_iff {p s : List Char} : (dropStart? p s).isSome ↔ p <+: s := by
  simp only [Option.isSome_iff_exists, dropStart?_eq_some_iff]
  exact exists_congr fun r => eq_comm

lemma isSome_dropEnd?_iff {p s : List Char} : (dropEnd? p s).isSome ↔ p <:+ s := by
  simp only [Option.isSome_iff_exists, dropEnd?_eq_some_iff]
  exact exists_congr fun r => eq_comm

/-! ### Splitting -/

section Split

variable {mark s before after : List Char}

lemma append_dropLast_isPrefixOf (before mark after : List Char) :
    before ++ mark.dropLast <+: before ++ mark ++ after := by
  rw [List.append_assoc, List.prefix_append_right_inj]
  exact (List.dropLast_prefix mark).trans (List.prefix_append mark after)

/-- A mark at the start of a text and not further inside stands behind nothing. -/
lemma eq_nil_of_isPrefixOf (hstart : mark <+: before ++ mark ++ after)
    (hfirst : ¬ mark <:+: before ++ mark.dropLast) : before = [] := by
  by_contra hbefore
  refine hfirst (List.IsPrefix.isInfix ?_)
  refine List.prefix_of_prefix_length_le hstart (append_dropLast_isPrefixOf before mark after) ?_
  have hlength := List.length_pos_iff.2 hbefore
  rw [List.length_append, List.length_dropLast]
  omega

lemma not_infix_dropLast (hmark : mark ≠ []) : ¬ mark <:+: mark.dropLast := by
  intro hinfix
  have hle := hinfix.length_le
  have hlength := List.length_pos_iff.2 hmark
  rw [List.length_dropLast] at hle
  omega

/-- A text is split where the mark first begins. -/
lemma splitFirst?_eq_some_iff (hmark : mark ≠ []) :
    splitFirst? mark s = some (before, after) ↔
      s = before ++ mark ++ after ∧ ¬ mark <:+: before ++ mark.dropLast := by
  induction s generalizing before with
  | nil => simp [splitFirst?, hmark]
  | cons c s ih =>
    rw [splitFirst?]
    cases hstart : dropStart? mark (c :: s) with
    | some rest =>
      rw [dropStart?_eq_some_iff] at hstart
      constructor
      · intro h
        cases h
        exact ⟨hstart, not_infix_dropLast hmark⟩
      · rintro ⟨h, hfirst⟩
        have hstarts : mark <+: c :: s := hstart ▸ List.prefix_append mark rest
        -- the mark is at the start, so nothing stands before its first occurrence
        cases eq_nil_of_isPrefixOf (h ▸ hstarts) hfirst
        rw [List.append_cancel_left (hstart.symm.trans h)]
    | none =>
      have hnot : ¬ mark <+: c :: s := by simp [← isSome_dropStart?_iff, hstart]
      simp only [Option.map_eq_some_iff, Prod.mk.injEq, Prod.exists]
      constructor
      · rintro ⟨b, a, hsplit, rfl, rfl⟩
        obtain ⟨rfl, hfirst⟩ := ih.1 hsplit
        refine ⟨rfl, fun hinfix => ?_⟩
        -- an earlier occurrence starts here or in the rest
        rcases List.infix_cons_iff.1 hinfix with hstarts | hinfix
        · exact hnot (hstarts.trans (append_dropLast_isPrefixOf (c :: b) mark a))
        · exact hfirst hinfix
      · rintro ⟨h, hfirst⟩
        cases before with
        | nil => exact absurd (h ▸ List.prefix_append mark after) hnot
        | cons d b =>
          obtain ⟨rfl, rfl⟩ := List.cons.inj h
          exact ⟨b, after, ih.2 ⟨rfl, fun h => hfirst (List.infix_cons h)⟩, rfl, rfl⟩

/-- A text that is not split does not hold the mark. -/
lemma splitFirst?_eq_none_iff (hmark : mark ≠ []) : splitFirst? mark s = none ↔ ¬ mark <:+: s := by
  induction s with
  | nil => simp [splitFirst?, hmark]
  | cons c s ih =>
    rw [splitFirst?, List.infix_cons_iff, not_or]
    cases hstart : dropStart? mark (c :: s) with
    | some rest =>
      rw [dropStart?_eq_some_iff] at hstart
      simp [hstart]
    | none =>
      have hnot : ¬ mark <+: c :: s := by simp [← isSome_dropStart?_iff, hstart]
      simp [ih, hnot]

/-- A mark of two equal characters begins in a text that it follows only at the last character. -/
lemma pair_infix_concat_iff {c : Char} :
    [c, c] <:+: s ++ [c] ↔ [c, c] <:+: s ∨ s.getLast? = some c := by
  rw [List.infix_concat_iff, or_comm]
  refine or_congr_right ?_
  have hsuffix : [c] ++ [c] <:+ s ++ [c] ↔ [c] <:+ s ∧ [c] = [c] :=
    List.suffix_append_inj_of_length_eq rfl
  rw [List.getLast?_eq_some_iff]
  refine hsuffix.trans ((and_iff_left rfl).trans (exists_congr fun t => eq_comm))

/-- A mark of two equal characters is on one side of any other character. -/
lemma pair_infix_append_cons_iff {c d : Char} (hne : d ≠ c) {t : List Char} :
    [c, c] <:+: s ++ d :: t ↔ [c, c] <:+: s ∨ [c, c] <:+: t := by
  induction s with
  | nil => simp [List.infix_cons_iff, hne.symm]
  | cons a s ih =>
    rw [List.cons_append, List.infix_cons_iff, List.infix_cons_iff, ih, or_assoc]
    refine or_congr_left ?_
    cases s with
    | nil => simp [hne.symm]
    | cons b s => simp

end Split

/-! ### Starts and ends -/

section Affixes

variable {α β : Type} {ps : List (List Char)} {s r : List Char}

/-- If no two elements give something, it makes no difference which is tried first. -/
lemma findSome?_eq_some_iff_of_unique {f : α → Option β} {xs : List α} {y : β}
    (h : ∀ a ∈ xs, ∀ b ∈ xs, (f a).isSome → (f b).isSome → a = b) :
    xs.findSome? f = some y ↔ ∃ a ∈ xs, f a = some y := by
  constructor
  · exact List.exists_of_findSome?_eq_some
  · rintro ⟨a, ha, hy⟩
    cases hfind : xs.findSome? f with
    | none =>
      rw [List.findSome?_eq_none_iff.1 hfind a ha] at hy
      cases hy
    | some z =>
      obtain ⟨b, hb, hz⟩ := List.exists_of_findSome?_eq_some hfind
      have hab : a = b := h a ha b hb (by simp [hy]) (by simp [hz])
      rw [← hz, ← hab, hy]

lemma findSome?_dropStart?_eq_some_iff (h : ∀ p ∈ ps, ∀ q ∈ ps, p <+: q → p = q) :
    ps.findSome? (dropStart? · s) = some r ↔ ∃ p ∈ ps, s = p ++ r := by
  simp only [← dropStart?_eq_some_iff]
  refine findSome?_eq_some_iff_of_unique fun p hp q hq hsp hsq => ?_
  rw [isSome_dropStart?_iff] at hsp hsq
  rcases List.prefix_or_prefix_of_prefix hsp hsq with hpq | hqp
  · exact h p hp q hq hpq
  · exact (h q hq p hp hqp).symm

lemma findSome?_dropEnd?_eq_some_iff (h : ∀ p ∈ ps, ∀ q ∈ ps, p <:+ q → p = q) :
    ps.findSome? (dropEnd? · s) = some r ↔ ∃ p ∈ ps, s = r ++ p := by
  simp only [← dropEnd?_eq_some_iff]
  refine findSome?_eq_some_iff_of_unique fun p hp q hq hsp hsq => ?_
  rw [isSome_dropEnd?_iff] at hsp hsq
  rcases List.suffix_or_suffix_of_suffix hsp hsq with hpq | hqp
  · exact h p hp q hq hpq
  · exact (h q hq p hp hqp).symm

lemma findSome?_dropEnd?_eq_none_iff :
    ps.findSome? (dropEnd? · s) = none ↔ ∀ p ∈ ps, ¬ p <:+ s := by
  simp only [List.findSome?_eq_none_iff, ← isSome_dropEnd?_iff, Option.not_isSome_iff_eq_none]

end Affixes

end ShardCheck.Text
