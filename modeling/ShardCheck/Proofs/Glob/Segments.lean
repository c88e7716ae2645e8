import Mathlib.Data.List.Chain
import Mathlib.Tactic.Common
import ShardCheck.Glob
import ShardCheck.Proofs.Glob.Matching
import ShardCheck.Proofs.Glob.Plain
import ShardCheck.Proofs.Partition

/-!
# Plain globs go by segments

A plain glob fits a path segment by segment: a word takes one segment, and a double star takes any
number of them. The expression for the glob knows of no segments. It is a text with slashes in it,
and the slashes around a double star are part of its tree, in a form that depends on the place. That
the two agree is due to the slashes of the path, for a word matches no slash, and no segment is
empty.
-/

namespace ShardCheck.Glob

/-! ### Fitting -/

/-- A word fits a text: a star stands for any text, and every other sign for itself. -/
inductive WordFits : List Char → List Char → Prop where
  | nil : WordFits [] []
  | star {w t u : List Char} (h : WordFits w u) : WordFits ('*' :: w) (t ++ u)
  | literal {c : Char} {w t : List Char} (hc : c ≠ '*') (h : WordFits w t) :
      WordFits (c :: w) (c :: t)

/-- Segments of a glob fit the segments of a path. -/
inductive Fits : List Segment → List (List Char) → Prop where
  | nil : Fits [] []
  | word {w s : List Char} {ps : List Segment} {ss : List (List Char)} (hw : WordFits w s)
      (h : Fits ps ss) : Fits (.word w :: ps) (s :: ss)
  | tree (taken : List (List Char)) {ss : List (List Char)} {ps : List Segment} (h : Fits ps ss) :
      Fits (.tree :: ps) (taken ++ ss)

/-- A segment of a path with a name, on one line. -/
structure IsPathSegment (s : List Char) : Prop where
  ne_nil : s ≠ []
  no_slash : '/' ∉ s
  no_newline : '\n' ∉ s

/-! ### Sets of characters -/

namespace CharSet

@[simp] lemma contains_single_iff {c d : Char} : (single c).contains d = true ↔ d = c := by
  simp only [contains, containsCode, single, List.any_cons, List.any_nil, Bool.or_false,
    Bool.and_eq_true, decide_eq_true_eq]
  constructor
  · rintro ⟨h, h'⟩
    exact Char.toNat_inj.1 (Nat.le_antisymm h' h)
  · rintro rfl
    exact ⟨Nat.le_refl _, Nat.le_refl _⟩

lemma toNat_le_maxCode (c : Char) : c.toNat ≤ maxCode := by
  rcases c.valid with h | ⟨-, h⟩
  · exact Nat.le_of_lt (Nat.lt_trans h (by decide))
  · exact Nat.le_of_lt_succ h

lemma contains_complement_single_iff {c d : Char} :
    (single c).complement.contains d = true ↔ d ≠ c := by
  have hd := toNat_le_maxCode d
  rw [ne_eq, ← Char.toNat_inj]
  simp only [contains, containsCode, complement, single, gaps]
  split <;> split <;> simp <;> omega

@[simp] lemma contains_notSeparator_iff {c : Char} : notSeparator.contains c = true ↔ c ≠ '/' :=
  contains_complement_single_iff

@[simp] lemma contains_notNewline_iff {c : Char} : notNewline.contains c = true ↔ c ≠ '\n' :=
  contains_complement_single_iff

end CharSet

/-! ### Expressions of atoms -/

namespace Regex

lemma matches_star_chars_iff {s : CharSet} {t : List Char} :
    Matches (.star (.chars s)) t ↔ ∀ c ∈ t, s.contains c = true := by
  induction t with
  | nil => simpa [star] using Matches.enough
  | cons c t ih =>
    rw [star] at ih ⊢
    rw [matches_rep_cons_iff, List.forall_mem_cons, ← ih]
    simp only [matches_chars_iff]
    constructor
    · rintro ⟨-, u, v, rfl, ⟨d, hd, heq⟩, hv⟩
      obtain ⟨rfl, rfl⟩ := List.cons.inj heq
      exact ⟨hd, hv⟩
    · rintro ⟨hc, ht⟩
      exact ⟨by simp, [], t, rfl, ⟨c, hc, rfl⟩, ht⟩

lemma matches_slash_iff {t : List Char} : Matches .slash t ↔ t = ['/'] := by
  simp [slash]

lemma matches_optional_slash_iff {t : List Char} :
    Matches (.optional .slash) t ↔ t = [] ∨ t = ['/'] := by
  rw [optional, matches_rep_iff]
  constructor
  · rintro (⟨rfl, -⟩ | ⟨-, u, v, rfl, hu, hv⟩)
    · exact .inl rfl
    · obtain rfl := matches_slash_iff.1 hu
      rcases matches_rep_iff.1 hv with ⟨rfl, -⟩ | ⟨hupper, -⟩
      · exact .inr rfl
      · exact absurd rfl hupper
  · rintro (rfl | rfl)
    · exact .inl ⟨rfl, .inl rfl⟩
    · exact .inr ⟨by simp, ['/'], [], rfl, matches_slash_iff.2 rfl, .enough⟩

lemma matches_anyText_iff {t : List Char} : Matches .anyText t ↔ '\n' ∉ t := by
  rw [anyText, matches_star_chars_iff]
  simp only [CharSet.contains_notNewline_iff]
  exact ⟨fun h hmem => h _ hmem rfl, fun h c hc heq => h (heq ▸ hc)⟩

lemma matches_many_iff {t : List Char} :
    Matches (.star (.chars .notSeparator)) t ↔ '/' ∉ t := by
  rw [matches_star_chars_iff]
  simp only [CharSet.contains_notSeparator_iff]
  exact ⟨fun h hmem => h _ hmem rfl, fun h c hc heq => h (heq ▸ hc)⟩

/-- A tree between words matches one slash, or two with a text between them. -/
lemma matches_between_iff {t : List Char} :
    Matches .between t ↔ t = ['/'] ∨ ∃ u, '\n' ∉ u ∧ t = '/' :: (u ++ ['/']) := by
  simp only [between, matches_alt_iff, matches_seq_iff, matches_slash_iff, matches_anyText_iff]
  refine or_congr_right ⟨?_, ?_⟩
  · rintro ⟨_, _, rfl, rfl, u, _, rfl, hu, rfl⟩
    exact ⟨u, hu, rfl⟩
  · rintro ⟨u, hu, rfl⟩
    exact ⟨_, _, rfl, rfl, u, _, rfl, hu, rfl⟩

/-- A tree at the start matches nothing, a slash, or a text with a slash at its end. -/
lemma matches_tree_first_iff {t : List Char} :
    Matches (.tree false none .first) t ↔
      t = [] ∨ t = ['/'] ∨ ∃ u, '\n' ∉ u ∧ t = u ++ ['/'] := by
  have htree : tree false none .first = .alt (.optional slash) (.seq anyText slash) := rfl
  rw [htree, matches_alt_iff, matches_optional_slash_iff, matches_seq_iff, or_assoc]
  simp only [matches_slash_iff, matches_anyText_iff]
  refine or_congr_right (or_congr_right ⟨?_, ?_⟩)
  · rintro ⟨u, _, rfl, hu, rfl⟩
    exact ⟨u, hu, rfl⟩
  · rintro ⟨u, hu, rfl⟩
    exact ⟨u, _, rfl, hu, rfl⟩

/-- A tree at the end matches nothing, or a text with a slash at its start. -/
lemma matches_tree_last_iff (rooted : Bool) {t : List Char} :
    Matches (.tree rooted none .last) t ↔ t = [] ∨ ∃ u, '\n' ∉ u ∧ t = '/' :: u := by
  have htree : tree rooted none .last = .alt (.optional slash) (.seq slash anyText) := rfl
  rw [htree, matches_alt_iff, matches_optional_slash_iff, matches_seq_iff]
  simp only [matches_slash_iff, matches_anyText_iff]
  constructor
  · rintro ((rfl | rfl) | ⟨_, u, rfl, rfl, hu⟩)
    · exact .inl rfl
    · exact .inr ⟨[], by simp, rfl⟩
    · exact .inr ⟨u, hu, rfl⟩
  · rintro (rfl | ⟨u, hu, rfl⟩)
    · exact .inl (.inl rfl)
    · exact .inr ⟨_, u, rfl, rfl, hu⟩

/-- The expression for atoms, which may have others before them. -/
def ofAtoms (hasBefore : Bool) (as : List Atom) : Regex :=
  listRegex none hasBefore false (as.map .atom)

variable {as : List Atom} {b : Bool} {t : List Char}

@[simp] lemma matches_ofAtoms_nil_iff : Matches (ofAtoms b []) t ↔ t = [] := by
  simp [ofAtoms, listRegex]

lemma matches_ofAtoms_cons_iff {a : Atom} (h : (Token.atom a).caseAfter false = false) :
    Matches (ofAtoms b (a :: as)) t ↔
      ∃ u v, t = u ++ v ∧ Matches (a.regex none (.of b !as.isEmpty) false) u ∧
        Matches (ofAtoms true as) v := by
  rw [ofAtoms, List.map_cons, listRegex, matches_append_iff, matches_seq_iff, Token.regex, h,
    List.isEmpty_map, ofAtoms]

lemma matches_atomOf_cons_iff {c : Char} :
    Matches (ofAtoms b (Segment.atomOf c :: as)) t ↔
      ∃ u v, t = u ++ v ∧ (if c = '*' then '/' ∉ u else u = [c]) ∧
        Matches (ofAtoms true as) v := by
  by_cases hc : c = '*'
  · simp only [Segment.atomOf, if_pos hc]
    rw [matches_ofAtoms_cons_iff rfl]
    simp only [Atom.regex, matches_many_iff]
  · simp only [Segment.atomOf, if_neg hc]
    rw [matches_ofAtoms_cons_iff rfl]
    simp [Atom.regex]

/-- The atoms of a word match the texts without slash that the word fits. -/
lemma matches_word_iff {w : List Char} (hw : ∀ c ∈ w, c = '*' ∨ Lexeme.isSpecial c = false) :
    Matches (ofAtoms b (w.map Segment.atomOf ++ as)) t ↔
      ∃ u v, t = u ++ v ∧ '/' ∉ u ∧ WordFits w u ∧
        Matches (ofAtoms (b || !w.isEmpty) as) v := by
  induction w generalizing b t with
  | nil =>
    constructor
    · intro h
      exact ⟨[], t, rfl, by simp, .nil, by simpa using h⟩
    · rintro ⟨_, v, rfl, -, ⟨⟩, hv⟩
      simpa using hv
  | cons c w ih =>
    obtain ⟨hc, hw⟩ := List.forall_mem_cons.1 hw
    rw [List.map_cons, List.cons_append, matches_atomOf_cons_iff]
    simp only [ih hw, Bool.true_or, List.isEmpty_cons, Bool.not_false, Bool.or_true]
    constructor
    · rintro ⟨u, _, rfl, hu, u', v, rfl, hu', hfits, hv⟩
      split at hu
      · rename_i hstar
        subst hstar
        exact ⟨u ++ u', v, (List.append_assoc ..).symm, by simp [hu, hu'], .star hfits, hv⟩
      · rename_i hstar
        subst hu
        -- a slash is special, so a literal of a word is none
        have hslash : '/' ≠ c := by
          rintro rfl
          exact absurd (hc.resolve_left hstar) (by decide)
        exact ⟨c :: u', v, rfl, by simp [hslash, hu'], .literal hstar hfits, hv⟩
    · rintro ⟨u, v, rfl, hu, hfits, hv⟩
      cases hfits with
      | @star _ u₁ u₂ hfits =>
        rw [List.mem_append, not_or] at hu
        exact ⟨u₁, u₂ ++ v, List.append_assoc .., by simpa using hu.1, u₂, v, rfl, hu.2, hfits, hv⟩
      | @literal _ _ u hstar hfits =>
        rw [List.mem_cons, not_or] at hu
        exact ⟨[c], u ++ v, rfl, by simp [hstar], u, v, rfl, hu.2, hfits, hv⟩

end Regex

/-! ### Slashes of a path -/

namespace Segment

lemma eq_nil_of_isTail {s t u v : List Char} (heq : u = s ++ t) (hu : '/' ∉ u)
    {x : List Char} (hx : IsTail x) (hxt : x = t ++ v) : t = [] := by
  cases t with
  | nil => rfl
  | cons c t =>
    rw [hxt] at hx
    rcases hx with hx | hx
    · cases hx
    · obtain rfl : c = '/' := Option.some.inj hx
      exact absurd (by simp [heq]) hu

/-- A segment ends where the first slash is. -/
lemma eq_of_append_eq {s t u v : List Char} (hs : '/' ∉ s) (hu : '/' ∉ u)
    (ht : IsTail t) (hv : IsTail v) (h : s ++ t = u ++ v) : s = u ∧ t = v := by
  rcases List.append_eq_append_iff.1 h with ⟨a, ha, hta⟩ | ⟨a, ha, hva⟩
  · obtain rfl := eq_nil_of_isTail ha hu ht hta
    simp_all
  · obtain rfl := eq_nil_of_isTail ha hs hv hva
    simp_all

/-- Every slash in a path is one before a segment. -/
lemma exists_of_tailText_eq {ss : List (List Char)} (hss : ∀ s ∈ ss, '/' ∉ s) {t u : List Char}
    (h : tailText ss = t ++ '/' :: u) :
    ∃ before s after,
      ss = before ++ s :: after ∧ t = tailText before ∧ u = s ++ tailText after := by
  induction ss generalizing t with
  | nil => simp at h
  | cons s ss ih =>
    obtain ⟨hs, hss⟩ := List.forall_mem_cons.1 hss
    cases t with
    | nil => exact ⟨[], s, ss, rfl, rfl, (List.cons.inj h).2.symm⟩
    | cons c t =>
      rw [tailText_cons, List.cons_append] at h
      obtain ⟨rfl, hrest⟩ := List.cons.inj h
      rcases List.append_eq_append_iff.1 hrest with ⟨a, ha, hslash⟩ | ⟨a, ha, hslash⟩
      · obtain ⟨before, s', after, rfl, rfl, hu⟩ := ih hss hslash
        exact ⟨s :: before, s', after, rfl, by rw [ha]; rfl, hu⟩
      · -- the slash stands behind the segment, which ends before it
        obtain rfl := eq_nil_of_isTail ha hs (.inr rfl) hslash
        rw [List.append_nil] at ha
        obtain ⟨before, s', after, rfl, hbefore, hu⟩ := ih hss (t := []) hslash.symm
        cases before with
        | nil => exact ⟨[s], s', after, rfl, by simp [ha], hu⟩
        | cons => cases hbefore

lemma newline_notMem_tailText {ss : List (List Char)} (h : ∀ s ∈ ss, IsPathSegment s) :
    '\n' ∉ tailText ss := by
  rw [tailText, List.mem_flatMap]
  rintro ⟨s, hs, hmem⟩
  rcases List.mem_cons.1 hmem with hslash | hmem
  · cases hslash
  · exact (h s hs).no_newline hmem

end Segment

/-! ### Segments and expressions -/

namespace Regex

open Segment

variable {ps : List Segment} {w s : List Char} {ss : List (List Char)}

lemma isEmpty_atoms_word (hw : IsWord w) : (atoms false (.word w :: ps)).isEmpty = false := by
  simp [atoms, hw.ne_nil]

/-- What stands behind a word matches only texts that stand behind a segment. -/
lemma isTail_of_matches {t : List Char} (hps : ArePlain ps)
    (h : Matches (ofAtoms true (atoms true ps)) t) : IsTail t := by
  cases hps with
  | nil => exact .inl (matches_ofAtoms_nil_iff.1 h)
  | word hw hps =>
    obtain ⟨u, v, rfl, hu, -⟩ := (matches_ofAtoms_cons_iff rfl).1 h
    obtain rfl := matches_slash_iff.1 hu
    exact .inr rfl
  | tree =>
    obtain ⟨u, v, rfl, hu, hv⟩ := (matches_ofAtoms_cons_iff rfl).1 h
    obtain rfl := matches_ofAtoms_nil_iff.1 hv
    rcases (matches_tree_last_iff true).1 hu with rfl | ⟨u, -, rfl⟩
    · exact .inl rfl
    · exact .inr rfl
  | @treeWord w ps hw hps =>
    obtain ⟨u, v, rfl, hu, -⟩ := (matches_ofAtoms_cons_iff rfl).1 h
    rw [isEmpty_atoms_word hw] at hu
    rcases matches_between_iff.1 hu with rfl | ⟨u, -, rfl⟩
    · exact .inr rfl
    · exact .inr rfl

/-- A word takes the first segment of a path, and what stands behind the word takes the rest. -/
lemma matches_word_tail_iff {b : Bool} (hw : IsWord w) (hps : ArePlain ps) (hs : '/' ∉ s)
    (h : Matches (ofAtoms true (atoms true ps)) (tailText ss) ↔ Fits ps ss) :
    Matches (ofAtoms b (atoms false (.word w :: ps))) (s ++ tailText ss) ↔
      Fits (.word w :: ps) (s :: ss) := by
  have hatoms : atoms false (.word w :: ps) = w.map atomOf ++ atoms true ps := rfl
  have hafter : (b || !w.isEmpty) = true := by simp [hw.ne_nil]
  rw [hatoms, matches_word_iff hw.sign, hafter]
  constructor
  · rintro ⟨u, v, heq, hu, hfits, hv⟩
    obtain ⟨rfl, rfl⟩ := eq_of_append_eq hs hu (isTail_tailText ss)
      (isTail_of_matches hps hv) heq
    exact .word hfits (h.1 hv)
  · rintro (_ | ⟨hfits, hrest⟩)
    exact ⟨s, tailText ss, rfl, hs, hfits, h.2 hrest⟩

/-- A tree between words takes any number of segments and the slash behind them. -/
lemma matches_between_tailText (hss : ∀ s ∈ ss, IsPathSegment s) :
    Matches .between (tailText ss ++ ['/']) := by
  have hnewline := newline_notMem_tailText hss
  rw [matches_between_iff]
  cases ss with
  | nil => exact .inl rfl
  | cons s ss =>
    rw [tailText_cons, List.mem_cons, not_or] at hnewline
    exact .inr ⟨s ++ tailText ss, hnewline.2, rfl⟩

/-- What stands behind a word matches segments of a path exactly if it fits them. -/
lemma matches_tail_iff (hps : ArePlain ps) (hss : ∀ s ∈ ss, IsPathSegment s) :
    Matches (ofAtoms true (atoms true ps)) (tailText ss) ↔ Fits ps ss := by
  induction hps generalizing ss with
  | nil =>
    rw [atoms, matches_ofAtoms_nil_iff]
    constructor
    · intro h
      cases ss with
      | nil => exact .nil
      | cons s ss => cases h
    · rintro ⟨⟩
      rfl
  | @word w ps hw hps ih =>
    have hatoms : atoms true (.word w :: ps) = .separator :: atoms false (.word w :: ps) := rfl
    rw [hatoms, matches_ofAtoms_cons_iff rfl]
    constructor
    · rintro ⟨u, v, heq, hu, hv⟩
      obtain rfl := matches_slash_iff.1 hu
      cases ss with
      | nil => cases heq
      | cons s ss =>
        obtain ⟨hs, hss⟩ := List.forall_mem_cons.1 hss
        obtain rfl := (List.cons.inj heq).2
        exact (matches_word_tail_iff hw hps hs.no_slash (ih hss)).1 hv
    · intro h
      cases h with
      | @word _ s _ ss hfits hrest =>
        obtain ⟨hs, hss⟩ := List.forall_mem_cons.1 hss
        exact ⟨['/'], s ++ tailText ss, rfl, matches_slash_iff.2 rfl,
          (matches_word_tail_iff hw hps hs.no_slash (ih hss)).2 (.word hfits hrest)⟩
  -- a tree at the end fits everything, and its expression matches all that is on one line
  | tree =>
    refine iff_of_true ?_ ?_
    · refine (matches_ofAtoms_cons_iff rfl).2 ⟨tailText ss, [], by simp, ?_, by simp [atoms]⟩
      refine (matches_tree_last_iff true).2 ?_
      have hnewline := newline_notMem_tailText hss
      cases ss with
      | nil => exact .inl rfl
      | cons s ss =>
        rw [tailText_cons, List.mem_cons, not_or] at hnewline
        exact .inr ⟨s ++ tailText ss, hnewline.2, rfl⟩
    · simpa using Fits.tree ss .nil
  | @treeWord w ps hw hps ih =>
    have hatoms : atoms true (.tree :: .word w :: ps) =
        .tree true :: atoms false (.word w :: ps) := rfl
    rw [hatoms, matches_ofAtoms_cons_iff rfl, isEmpty_atoms_word hw]
    constructor
    · rintro ⟨u, v, heq, hu, hv⟩
      -- what the tree takes ends with the slash before the word, so the rest starts at a segment
      have hslash : ∃ t, u = t ++ ['/'] := by
        rcases matches_between_iff.1 hu with rfl | ⟨t, -, rfl⟩
        · exact ⟨[], rfl⟩
        · exact ⟨'/' :: t, rfl⟩
      obtain ⟨t, rfl⟩ := hslash
      rw [List.append_assoc, List.singleton_append] at heq
      obtain ⟨taken, s, rest, rfl, -, rfl⟩ :=
        exists_of_tailText_eq (fun s hs => (hss s hs).no_slash) heq
      obtain ⟨-, hss⟩ := List.forall_mem_append.1 hss
      obtain ⟨hs, hss⟩ := List.forall_mem_cons.1 hss
      exact .tree _ ((matches_word_tail_iff hw hps hs.no_slash (ih hss)).1 hv)
    · intro h
      cases h with
      | @tree taken ss _ h =>
        cases h with
        | @word _ s _ ss hfits hrest =>
          obtain ⟨htaken, hss⟩ := List.forall_mem_append.1 hss
          obtain ⟨hs, hss⟩ := List.forall_mem_cons.1 hss
          exact ⟨tailText taken ++ ['/'], s ++ tailText ss, by simp,
            matches_between_tailText htaken,
            (matches_word_tail_iff hw hps hs.no_slash (ih hss)).2 (.word hfits hrest)⟩

/-- The expression for the segments of a plain glob matches a path exactly if they fit those of the
path. -/
lemma matches_segments_iff (hps : ArePlain ps) (hs : IsPathSegment s)
    (hss : ∀ s ∈ ss, IsPathSegment s) :
    Matches (ofAtoms false (atoms false ps)) (s ++ tailText ss) ↔ Fits ps (s :: ss) := by
  cases hps with
  | nil =>
    rw [atoms, matches_ofAtoms_nil_iff]
    refine iff_of_false ?_ ?_
    · simp [hs.ne_nil]
    · rintro ⟨⟩
  | word hw hps => exact matches_word_tail_iff hw hps hs.no_slash (matches_tail_iff hps hss)
  | tree =>
    refine iff_of_true ?_ ?_
    · refine (matches_ofAtoms_cons_iff rfl).2 ⟨s ++ tailText ss, [], by simp, ?_, by simp [atoms]⟩
      refine matches_anyText_iff.2 ?_
      rw [List.mem_append, not_or]
      exact ⟨hs.no_newline, newline_notMem_tailText hss⟩
    · simpa using Fits.tree (s :: ss) .nil
  | @treeWord w ps hw hps =>
    have hatoms : atoms false (.tree :: .word w :: ps) =
        .tree false :: atoms false (.word w :: ps) := rfl
    rw [hatoms, matches_ofAtoms_cons_iff rfl, isEmpty_atoms_word hw]
    constructor
    · rintro ⟨u, v, heq, hu, hv⟩
      rcases matches_tree_first_iff.1 hu with rfl | rfl | ⟨t, -, rfl⟩
      · obtain rfl : s ++ tailText ss = v := heq
        exact .tree []
          ((matches_word_tail_iff hw hps hs.no_slash (matches_tail_iff hps hss)).1 hv)
      · obtain ⟨c, s, rfl⟩ := List.exists_cons_of_ne_nil hs.ne_nil
        obtain rfl := (List.cons.inj heq).1
        exact absurd List.mem_cons_self hs.no_slash
      · -- the slash behind the text is one before a segment
        have htail : tailText (s :: ss) = ('/' :: t) ++ '/' :: v := by
          rw [tailText_cons, heq, List.append_assoc]
          rfl
        have hall := List.forall_mem_cons.2 ⟨hs, hss⟩
        obtain ⟨taken, s', rest, hsplit, -, rfl⟩ :=
          exists_of_tailText_eq (fun s hs => (hall s hs).no_slash) htail
        rw [hsplit] at hall ⊢
        obtain ⟨-, hss⟩ := List.forall_mem_append.1 hall
        obtain ⟨hs, hss⟩ := List.forall_mem_cons.1 hss
        exact .tree _ ((matches_word_tail_iff hw hps hs.no_slash (matches_tail_iff hps hss)).1 hv)
    · intro h
      generalize hall : s :: ss = path at h
      cases h with
      | @tree taken _ _ h =>
        cases taken with
        | nil =>
          obtain rfl : s :: ss = _ := hall
          exact ⟨[], s ++ tailText ss, rfl, matches_tree_first_iff.2 (.inl rfl),
            (matches_word_tail_iff hw hps hs.no_slash (matches_tail_iff hps hss)).2 h⟩
        | cons s' taken =>
          obtain ⟨rfl, rfl⟩ := List.cons.inj hall
          cases h with
          | @word _ s' _ ss hfits hrest =>
            obtain ⟨htaken, hss⟩ := List.forall_mem_append.1 hss
            obtain ⟨hs', hss⟩ := List.forall_mem_cons.1 hss
            refine ⟨s ++ tailText taken ++ ['/'], s' ++ tailText ss, by simp, ?_,
              (matches_word_tail_iff hw hps hs'.no_slash (matches_tail_iff hps hss)).2
                (.word hfits hrest)⟩
            refine matches_tree_first_iff.2 (.inr (.inr ⟨s ++ tailText taken, ?_, rfl⟩))
            rw [List.mem_append, not_or]
            exact ⟨hs.no_newline, newline_notMem_tailText htaken⟩

end Regex

/-! ### Globs -/

namespace Segment

lemma wordFits_self (w : List Char) : WordFits w w := by
  induction w with
  | nil => exact .nil
  | cons c w ih =>
    by_cases hc : c = '*'
    · subst hc
      exact .star (t := ['*']) ih
    · exact .literal hc ih

/-- Segments fit their own texts. -/
lemma fits_self (ps : List Segment) : Fits ps (ps.map text) := by
  induction ps with
  | nil => exact .nil
  | cons p ps ih =>
    cases p with
    | word w => exact .word (wordFits_self w) ih
    | tree => exact .tree [['*', '*']] ih

end Segment

open Segment

/-- A double star at the end may take nothing. -/
lemma Fits.append_tree {ps : List Segment} {ss : List (List Char)} (h : Fits ps ss) :
    Fits (ps ++ [.tree]) ss := by
  induction h with
  | nil => exact .tree [] .nil
  | word hw _ ih => exact .word hw ih
  | tree taken _ ih => exact .tree taken ih

/-- The segments of the path have names and stand on one line. -/
def IsPlainPath (path : String) : Prop :=
  ∀ s ∈ Path.segmentsOf path.toList, s ≠ [] ∧ '\n' ∉ s

lemma compile_of_arePlain {glob : String} {r : Regex} (hcompile : compile glob = .ok r)
    (hglob : ArePlain (ofGlob glob)) : r = .ofAtoms false (atoms false (ofGlob glob)) := by
  rw [compile, Pattern.parse?_of_arePlain hglob] at hcompile
  simp only at hcompile
  split at hcompile
  · cases hcompile
  · split at hcompile
    · split at hcompile
      · exact (Except.ok.inj hcompile).symm
      · cases hcompile
    · cases hcompile

/-- A plain glob that can be compiled matches a path exactly if it fits its segments. -/
lemma isMatch_eq_true_iff {glob path : String} {r : Regex} (hcompile : compile glob = .ok r)
    (hglob : ArePlain (ofGlob glob)) (hpath : IsPlainPath path) :
    isMatch glob path = .ok true ↔ Fits (ofGlob glob) (Path.segmentsOf path.toList) := by
  have hsegments : ∀ s ∈ Path.segmentsOf path.toList, IsPathSegment s := fun s hs =>
    ⟨(hpath s hs).1, Path.notMem_of_mem_segmentsOf hs, (hpath s hs).2⟩
  obtain ⟨s, ss, hsplit⟩ := List.exists_cons_of_ne_nil (Path.segmentsOf_ne_nil path.toList)
  have htext : path.toList = s ++ tailText ss := by
    rw [← joinSegments_cons, ← hsplit, Path.joinSegments_segmentsOf]
  rw [hsplit] at hsegments ⊢
  obtain ⟨hs, hss⟩ := List.forall_mem_cons.1 hsegments
  rw [isMatch, hcompile, Except.map, Except.ok.injEq, Regex.accepts_iff,
    compile_of_arePlain hcompile hglob, htext]
  exact Regex.matches_segments_iff hglob hs hss

lemma isMatch_tree_self {path : String} {r : Regex} (hcompile : compile (path ++ "/**") = .ok r)
    (hglob : ArePlain (ofGlob (path ++ "/**"))) (hpath : IsPlainPath path) :
    isMatch (path ++ "/**") path = .ok true := by
  have hsplit : ofGlob (path ++ "/**") = (Path.segmentsOf path.toList).map ofText ++ [.tree] := by
    have htext : (path ++ "/**").toList = path.toList ++ '/' :: ['*', '*'] := by simp
    rw [ofGlob, htext, Path.segmentsOf_append_slash, List.map_append]
    rfl
  rw [isMatch_eq_true_iff hcompile hglob hpath, hsplit]
  have hself := fits_self ((Path.segmentsOf path.toList).map ofText)
  rw [map_text_map_ofText] at hself
  exact hself.append_tree

/-- A plain glob that can be compiled matches exactly the paths whose segments it fits. A glob with
a double star at its end matches the directory before it, so a rule for all that is in the job tree
is one for job configurations, and has to compress. -/
theorem isMatch_plain_iff_fits {glob : String} {r : Regex} (hcompile : compile glob = .ok r)
    (hglob : ArePlain (ofGlob glob)) :
    (∀ path, IsPlainPath path →
      (isMatch glob path = .ok true ↔ Fits (ofGlob glob) (Path.segmentsOf path.toList)) ∧
      (glob = path ++ "/**" → isMatch glob path = .ok true)) ∧
    (glob = Layout.jobTreePath ++ "/**" →
      ∀ records, ∀ rules : RuleSet, ∀ bundle, (glob, bundle) ∈ rules.entries →
        bundle.gzip ≠ some true →
        .jobConfigGzipDisabled glob bundle.name ∈
          (Partition.check records rules matcher).failures) := by
  refine ⟨fun path hpath => ⟨isMatch_eq_true_iff hcompile hglob hpath, ?_⟩, ?_⟩
  · rintro rfl
    exact isMatch_tree_self hcompile hglob hpath
  · rintro rfl records rules bundle hrule hgzip
    have hpath : IsPlainPath Layout.jobTreePath := by
      have hsegments : Path.segmentsOf Layout.jobTreePath.toList =
          ["ci-operator".toList, "jobs".toList] := by decide +kernel
      rw [IsPlainPath, hsegments]
      decide
    have hprobe : matcher (Layout.jobTreePath ++ "/**") Layout.jobTreePath = .ok true := by
      rw [matcher, isMatch_tree_self hcompile hglob hpath]
      rfl
    exact Partition.mem_failures_of_matches hrule hprobe hgzip

/-- A double star between words takes no segment or several ones, and a star stays in its
segment. -/
theorem isMatch_plain_sample :
    (∃ r, compile "a/**/*.b" = .ok r) ∧ ArePlain (ofGlob "a/**/*.b") ∧
      isMatch "a/**/*.b" "a/y.b" = .ok true ∧ isMatch "a/**/*.b" "a/x/x/y.b" = .ok true := by
  have hcompile : ∃ r, compile "a/**/*.b" = .ok r := by
    have hok : (compile "a/**/*.b").isOk = true := by decide +kernel
    cases h : compile "a/**/*.b" with
    | ok r => exact ⟨r, rfl⟩
    | error f =>
      rw [h] at hok
      cases hok
  have hsplit : ofGlob "a/**/*.b" = [.word ['a'], .tree, .word ['*', '.', 'b']] := by
    decide +kernel
  have hplain : ArePlain (ofGlob "a/**/*.b") := by
    rw [hsplit]
    exact .word ⟨by simp, by simp [Lexeme.isSpecial], by simp⟩
      (.treeWord ⟨by simp, by simp [Lexeme.isSpecial], by simp⟩ .nil)
  have hname : WordFits ['*', '.', 'b'] ['y', '.', 'b'] :=
    .star (t := ['y']) (.literal (by decide) (.literal (by decide) .nil))
  have hfirst : WordFits ['a'] ['a'] := .literal (by decide) .nil
  obtain ⟨r, hr⟩ := hcompile
  refine ⟨⟨r, hr⟩, hplain, ?_, ?_⟩
  · have hsegments : Path.segmentsOf "a/y.b".toList = [['a'], ['y', '.', 'b']] := by
      decide +kernel
    have hpath : IsPlainPath "a/y.b" := by
      rw [IsPlainPath, hsegments]
      decide
    refine ((isMatch_plain_iff_fits hr hplain).1 _ hpath).1.2 ?_
    rw [hsplit, hsegments]
    exact .word hfirst (.tree [] (.word hname .nil))
  · have hsegments : Path.segmentsOf "a/x/x/y.b".toList =
        [['a'], ['x'], ['x'], ['y', '.', 'b']] := by decide +kernel
    have hpath : IsPlainPath "a/x/x/y.b" := by
      rw [IsPlainPath, hsegments]
      decide
    refine ((isMatch_plain_iff_fits hr hplain).1 _ hpath).1.2 ?_
    rw [hsplit, hsegments]
    exact .word hfirst (.tree [['x'], ['x']] (.word hname .nil))

end ShardCheck.Glob
