import Mathlib.Data.List.Chain
import Mathlib.Tactic.Common
import ShardCheck.Glob.Pattern
import ShardCheck.Proofs.Below

/-!
# Plain globs

A plain glob has no groups, classes, flags or escapes. Between its slashes stand words, in which a
star is for any text, and double stars. Such a glob can always be read: a word gives an atom for
each of its signs, and a double star becomes a tree, which takes the slashes around it with it.
-/

namespace ShardCheck.Glob

/-! ### Segments -/

/-- What stands between two slashes of a plain glob. -/
inductive Segment where
  /-- Two stars. -/
  | tree
  | word (signs : List Char)
  deriving DecidableEq

namespace Segment

def ofText (s : List Char) : Segment := if s = ['*', '*'] then .tree else .word s

def text : Segment → List Char
  | .tree => ['*', '*']
  | .word signs => signs

@[simp] lemma text_ofText (s : List Char) : (ofText s).text = s := by
  rw [ofText]
  split
  · rename_i h
    rw [h, text]
  · rfl

@[simp] lemma map_text_map_ofText (ss : List (List Char)) : (ss.map ofText).map text = ss := by
  simp [Function.comp_def]

def ofGlob (glob : String) : List Segment := (Path.segmentsOf glob.toList).map ofText

/-- A word has a sign. Every sign is a star or has no other meaning in a glob, and no star is next
to another one. -/
structure IsWord (w : List Char) : Prop where
  ne_nil : w ≠ []
  sign : ∀ c ∈ w, c = '*' ∨ Lexeme.isSpecial c = false
  apart : w.IsChain fun c d => c ≠ '*' ∨ d ≠ '*'

/-- Words and double stars, of which no two follow each other. -/
inductive ArePlain : List Segment → Prop where
  | nil : ArePlain []
  | word {w : List Char} {ss : List Segment} (hw : IsWord w) (h : ArePlain ss) :
      ArePlain (.word w :: ss)
  | tree : ArePlain [.tree]
  | treeWord {w : List Char} {ss : List Segment} (hw : IsWord w) (h : ArePlain ss) :
      ArePlain (.tree :: .word w :: ss)

/-- Segments with a slash before each of them. -/
def tailText (ss : List (List Char)) : List Char := ss.flatMap ('/' :: ·)

@[simp] lemma tailText_nil : tailText [] = [] := rfl

@[simp] lemma tailText_cons (s : List Char) (ss : List (List Char)) :
    tailText (s :: ss) = '/' :: (s ++ tailText ss) := rfl

@[simp] lemma tailText_append (ss ts : List (List Char)) :
    tailText (ss ++ ts) = tailText ss ++ tailText ts := List.flatMap_append

lemma joinSegments_cons (s : List Char) (ss : List (List Char)) :
    Path.joinSegments (s :: ss) = s ++ tailText ss := by
  induction ss generalizing s with
  | nil => simp [Path.joinSegments]
  | cons t ss ih => rw [Path.joinSegments.eq_3 _ _ (by simp), ih, tailText_cons]

/-- A text that can stand behind a segment: it starts with a slash or is empty. -/
def IsTail (t : List Char) : Prop := t = [] ∨ t.head? = some '/'

lemma isTail_tailText (ss : List (List Char)) : IsTail (tailText ss) := by
  cases ss with
  | nil => exact .inl rfl
  | cons s ss => exact .inr rfl

/-! ### Atoms -/

/-- The atom of a sign of a word. -/
def atomOf (c : Char) : Atom := if c = '*' then .many else .literal c false

/-- The atoms of segments. The slash before the first one is among them unless a tree took it. -/
def atoms (slash : Bool) : List Segment → List Atom
  | [] => []
  | .tree :: ss => .tree slash :: atoms false ss
  | .word w :: ss => (if slash then [.separator] else []) ++ w.map atomOf ++ atoms true ss

end Segment

/-! ### Lexemes -/

namespace Lexeme

open Segment

lemma skipFlags_of_head {cs : List Char} (h : cs.head? ≠ some '(') (b : Bool) :
    skipFlags b cs = (b, cs) := by
  unfold skipFlags
  split
  · simp at h
  · rfl

/-- The text goes on with a literal or a slash, or it ends. -/
def IsClear (cs : List Char) : Prop := ∀ c, cs.head? = some c → c = '/' ∨ isSpecial c = false

lemma IsClear.head?_ne {cs : List Char} (h : IsClear cs) {c : Char} (hc : c ≠ '/')
    (hspecial : isSpecial c = true) : cs.head? ≠ some c := by
  intro hhead
  rcases h c hhead with rfl | hfalse
  · exact hc rfl
  · rw [hspecial] at hfalse
    cases hfalse

lemma IsClear.endsMany {cs : List Char} (h : IsClear cs) : endsMany cs = true := by
  rw [Lexeme.endsMany, skipFlags_of_head (h.head?_ne (by decide) (by decide))]
  cases cs with
  | nil => rfl
  | cons c cs =>
    have hstar := h.head?_ne (c := '*') (by decide) (by decide)
    have hdollar := h.head?_ne (c := '$') (by decide) (by decide)
    simp_all

lemma scan_literal (atStart : Bool) {c : Char} (hc : isSpecial c = false) (cs : List Char) :
    scan atStart false (c :: cs) =
      (scan false false cs).map (.atom (.literal c false) :: ·) := by
  rw [scan.eq_def]
  split <;> rename_i heq <;> cases heq
  case h_14 =>
    have hwild : (c == '*' || c == '$') = false := by
      cases h : (c == '*' || c == '$') with
      | false => rfl
      | true => rcases Bool.or_eq_true_iff.1 h with h | h <;> simp_all [isSpecial]
    simp [hwild, hc]
  all_goals exact absurd hc (by decide)

lemma scan_many (atStart : Bool) {cs : List Char} (h : IsClear cs) :
    scan atStart false ('*' :: cs) = (scan false false cs).map (.atom .many :: ·) := by
  rw [scan.eq_def]
  split <;> rename_i heq <;> cases heq
  case h_4 => exact absurd rfl (h.head?_ne (c := '*') (by decide) (by decide))
  case h_14 => simp [h.endsMany]

/-- A word gives an atom for each of its signs. -/
lemma scan_word (atStart : Bool) {w : List Char} (hw : IsWord w) {rest : List Char}
    (hrest : IsTail rest) :
    scan atStart false (w ++ rest) =
      (scan false false rest).map ((w.map fun c => .atom (atomOf c)) ++ ·) := by
  obtain ⟨hne, hsign, hapart⟩ := hw
  induction w generalizing atStart with
  | nil => exact absurd rfl hne
  | cons c w ih =>
    obtain ⟨hc, hw⟩ := List.forall_mem_cons.1 hsign
    -- a star is not followed by another one
    have hstep : scan atStart false (c :: (w ++ rest)) =
        (scan false false (w ++ rest)).map (.atom (atomOf c) :: ·) := by
      by_cases hstar : c = '*'
      · subst hstar
        refine scan_many atStart fun d hd => ?_
        cases w with
        | nil =>
          rcases hrest with rfl | hrest
          · cases hd
          · exact .inl (Option.some.inj (hd.symm.trans hrest))
        | cons e w =>
          obtain rfl : e = d := Option.some.inj hd
          have hne := (List.isChain_cons_cons.1 hapart).1
          exact .inr ((hw e List.mem_cons_self).resolve_left (by simpa using hne))
      · rw [scan_literal atStart (hc.resolve_left hstar), atomOf, if_neg hstar]
    rw [List.cons_append, hstep]
    cases w with
    | nil => rfl
    | cons d w =>
      rw [ih false (by simp) hw (List.isChain_cons_cons.1 hapart).2, Option.map_map]
      rfl

lemma treeStart?_word {w : List Char} (hw : IsWord w) {rest : List Char}
    (hrest : IsTail rest) : treeStart? false (w ++ rest) = none := by
  obtain ⟨c, w, rfl⟩ := List.exists_cons_of_ne_nil hw.ne_nil
  have hc : c ≠ '(' := by
    rintro rfl
    exact absurd (hw.sign _ List.mem_cons_self) (by decide)
  rw [treeStart?, skipFlags_of_head (by simpa using hc)]
  split
  · rename_i heq
    obtain ⟨hfirst, htail⟩ := List.cons.inj (Prod.mk.inj heq).2
    cases w with
    | nil => rcases hrest with rfl | hrest <;> simp_all
    | cons d w =>
      obtain ⟨hsecond, -⟩ := List.cons.inj htail
      have hne := (List.isChain_cons_cons.1 hw.apart).1
      rw [hfirst, hsecond] at hne
      exact absurd hne (by decide)
  · rfl

lemma scan_separator (atStart : Bool) {cs : List Char} (h : treeStart? false cs = none) :
    scan atStart false ('/' :: cs) = (scan false false cs).map (.atom .separator :: ·) := by
  rw [scan.eq_3]
  split
  · simp_all
  · rfl

lemma treeEnd?_nil : treeEnd? false [] = some (false, []) := by
  rw [treeEnd?, skipFlags_of_head (by simp)]
  rfl

lemma treeEnd?_slash (cs : List Char) : treeEnd? false ('/' :: cs) = some (false, cs) := by
  rw [treeEnd?, skipFlags_of_head (by simp)]
  rfl

/-- Behind a slash two stars are a tree, which takes the slash and the one after it. -/
lemma scan_slash_tree (atStart : Bool) {cs rest : List Char}
    (h : treeEnd? false cs = some (false, rest)) :
    scan atStart false ('/' :: '*' :: '*' :: cs) =
      (scan false false rest).map (.atom (.tree true) :: ·) := by
  have hstart : treeStart? false ('*' :: '*' :: cs) = some (false, cs) := by
    rw [treeStart?, skipFlags_of_head (by simp)]
    rfl
  rw [scan.eq_3]
  split
  · rename_i heq
    rw [hstart] at heq
    cases heq
    split
    · rename_i heq
      rw [h] at heq
      cases heq
      rfl
    · simp_all
  · simp_all

/-- At the start two stars are a tree, which takes the slash after it. -/
lemma scan_tree {cs rest : List Char} (h : treeEnd? false cs = some (false, rest)) :
    scan true false ('*' :: '*' :: cs) =
      (scan false false rest).map (.atom (.tree false) :: ·) := by
  rw [scan.eq_4]
  split
  · rename_i heq
    rw [h] at heq
    cases heq
    rfl
  · simp_all

/-- The lexemes of segments after a slash or the start of the glob. -/
lemma scan_word_tail (atStart : Bool) {w : List Char} (hw : IsWord w) {ss : List Segment}
    (h : scan false false (tailText (ss.map text)) = some ((atoms true ss).map .atom)) :
    scan atStart false (w ++ tailText (ss.map text)) =
      some ((atoms false (.word w :: ss)).map .atom) := by
  rw [scan_word atStart hw (isTail_tailText _), h]
  simp [atoms]

/-- The lexemes of segments behind a word. -/
lemma scan_tail {ss : List Segment} (h : ArePlain ss) :
    scan false false (tailText (ss.map text)) = some ((atoms true ss).map .atom) := by
  induction h with
  | nil => exact scan.eq_1 _ _
  | @word w ss hw _ ih =>
    rw [List.map_cons, tailText_cons, text,
      scan_separator false (treeStart?_word hw (isTail_tailText _)), scan_word_tail false hw ih]
    simp [atoms]
  | tree => exact (scan_slash_tree false treeEnd?_nil).trans (by rw [scan.eq_1]; rfl)
  | @treeWord w ss hw _ ih =>
    change scan false false ('/' :: '*' :: '*' :: '/' :: (w ++ tailText (ss.map text))) = _
    rw [scan_slash_tree false (treeEnd?_slash _), scan_word_tail false hw ih]
    rfl

/-- The lexemes of a plain glob. -/
lemma scan_segments {ss : List Segment} (h : ArePlain ss) (hne : ss ≠ []) :
    scan true false (Path.joinSegments (ss.map text)) = some ((atoms false ss).map .atom) := by
  cases h with
  | nil => exact absurd rfl hne
  | word hw h =>
    rw [List.map_cons, joinSegments_cons, text]
    exact scan_word_tail true hw (scan_tail h)
  | tree => exact (scan_tree treeEnd?_nil).trans (by rw [scan.eq_1]; rfl)
  | @treeWord w ss hw h =>
    rw [List.map_cons, joinSegments_cons]
    change scan true false ('*' :: '*' :: '/' :: (w ++ tailText (ss.map text))) = _
    rw [scan_tree (treeEnd?_slash _), scan_word_tail false hw (scan_tail h)]
    rfl

end Lexeme

/-! ### Patterns -/

namespace Pattern

lemma build?_atoms (as : List Atom) (current : Pattern) :
    build? [] current (as.map .atom) = some (current.reverse ++ as.map .atom) := by
  induction as generalizing current with
  | nil => simp [build?]
  | cons a as ih => rw [List.map_cons, build?, ih, List.reverse_cons, List.append_assoc]; rfl

/-- A plain glob can be read. -/
lemma parse?_of_arePlain {glob : String} (h : Segment.ArePlain (Segment.ofGlob glob)) :
    parse? glob = some ((Segment.atoms false (Segment.ofGlob glob)).map .atom) := by
  have htext : glob.toList = Path.joinSegments ((Segment.ofGlob glob).map Segment.text) := by
    rw [Segment.ofGlob, Segment.map_text_map_ofText, Path.joinSegments_segmentsOf]
  have hne : Segment.ofGlob glob ≠ [] := by
    simpa [Segment.ofGlob] using Path.segmentsOf_ne_nil glob.toList
  rw [parse?, htext, Lexeme.scan_segments h hne]
  exact build?_atoms _ []

end Pattern

end ShardCheck.Glob
