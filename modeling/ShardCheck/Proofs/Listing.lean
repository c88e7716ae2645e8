import Mathlib.Data.List.Sort
import Mathlib.Tactic.Common
import ShardCheck.Proofs.KeyMap

/-!
# Lists of what stands at places

A traversal goes through places in their order and lists what stands there. What it lists is known
from two things: which places something stands at, and the order of the places. Nested traversals go
through pairs of places, the outer place first.
-/

namespace ShardCheck

variable {ι κ α β : Type} {before : ι → ι → Prop} {Stands : ι → α → Prop} {xs ys : List α}

/-- The list has one element for each place that something stands at, in the order of the places. -/
def IsListing (before : ι → ι → Prop) (Stands : ι → α → Prop) (xs : List α) : Prop :=
  ∃ placed : List (ι × α), placed.map Prod.snd = xs ∧
    placed.Pairwise (fun p q => before p.1 q.1) ∧ ∀ i a, (i, a) ∈ placed ↔ Stands i a

/-! ### Lists and maps -/

/-- A list with positions lists its elements by their positions. -/
lemma isListing_zipIdx (xs : List α) :
    IsListing (· < ·) (fun i x => x.2 = i ∧ xs[i]? = some x.1) xs.zipIdx := by
  refine ⟨xs.zipIdx.map fun x => (x.2, x), ?_, ?_, fun i x => ?_⟩
  · rw [List.map_map]
    exact List.map_id _
  · have hsorted : (xs.zipIdx.map Prod.snd).Pairwise (· < ·) := by
      rw [List.zipIdx_map_snd]
      exact List.pairwise_lt_range'
    exact List.pairwise_map.2 (List.pairwise_map.1 hsorted)
  · simp only [List.mem_map, Prod.mk.injEq, List.mem_zipIdx_iff_getElem?]
    constructor
    · rintro ⟨_, hx, rfl, rfl⟩
      exact ⟨rfl, hx⟩
    · rintro ⟨rfl, hx⟩
      exact ⟨x, hx, rfl, rfl⟩

/-- The values of a map are listed by the bytes of their keys. -/
lemma isListing_values (m : KeyMap α) :
    IsListing (InvImage (· < ·) Text.bytes) (fun k v => m.get? k = some v) m.values :=
  ⟨m.entries, rfl, m.sorted.imp (Text.lt_iff_bytes_lt _ _).1, fun _ _ =>
    KeyMap.get?_eq_some_iff.symm⟩

namespace IsListing

/-! ### Traversals -/

lemma congr {Stands' : ι → α → Prop} (h : IsListing before Stands xs)
    (hstands : ∀ i a, Stands' i a ↔ Stands i a) : IsListing before Stands' xs := by
  obtain ⟨placed, hvalues, hsorted, hmem⟩ := h
  exact ⟨placed, hvalues, hsorted, fun i a => (hmem i a).trans (hstands i a).symm⟩

/-- What is listed is known by other names of the places. -/
lemma relabel {before' : κ → κ → Prop} {Stands' : κ → α → Prop} (h : IsListing before Stands xs)
    (e : ι → κ) (hbefore : ∀ i j, before i j → before' (e i) (e j))
    (hstands : ∀ k a, Stands' k a ↔ ∃ i, e i = k ∧ Stands i a) : IsListing before' Stands' xs := by
  obtain ⟨placed, rfl, hsorted, hmem⟩ := h
  refine ⟨placed.map fun p => (e p.1, p.2), ?_, ?_, fun k a => ?_⟩
  · rw [List.map_map]
    rfl
  · exact List.pairwise_map.2 (hsorted.imp (hbefore _ _))
  · simp [hstands, ← hmem, and_comm]

lemma filterMap (h : IsListing before Stands xs) (f : α → Option β) :
    IsListing before (fun i b => ∃ a, Stands i a ∧ f a = some b) (xs.filterMap f) := by
  obtain ⟨placed, rfl, hsorted, hmem⟩ := h
  refine ⟨placed.filterMap fun p => (f p.2).map (p.1, ·), ?_, ?_, fun i b => ?_⟩
  · have hvalue : ∀ p : ι × α, ((f p.2).map (p.1, ·)).map Prod.snd = f p.2 := fun p => by
      simp [Function.comp_def]
    rw [List.map_filterMap, List.filterMap_map]
    simp only [hvalue, Function.comp_def]
  · refine List.pairwise_filterMap.2 (hsorted.imp fun hbefore b hb b' hb' => ?_)
    obtain ⟨_, -, rfl⟩ := Option.map_eq_some_iff.1 hb
    obtain ⟨_, -, rfl⟩ := Option.map_eq_some_iff.1 hb'
    exact hbefore
  · simp [← hmem]

lemma map (h : IsListing before Stands xs) (f : α → β) :
    IsListing before (fun i b => ∃ a, Stands i a ∧ f a = b) (xs.map f) := by
  have hmap := h.filterMap fun a => some (f a)
  simpa [List.filterMap_eq_map'] using hmap

/-- A nested traversal goes through the inner places for each outer one. -/
lemma flatMap {before' : κ → κ → Prop} {Stands' : α → κ → β → Prop} {f : α → List β}
    (h : IsListing before Stands xs) (hf : ∀ a, IsListing before' (Stands' a) (f a)) :
    IsListing (Prod.Lex before before') (fun p b => ∃ a, Stands p.1 a ∧ Stands' a p.2 b)
      (xs.flatMap f) := by
  obtain ⟨placed, rfl, hsorted, hmem⟩ := h
  choose inner hinner hinnerSorted hinnerMem using hf
  refine ⟨placed.flatMap fun p => (inner p.2).map fun q => ((p.1, q.1), q.2), ?_, ?_, ?_⟩
  · have hvalues : ∀ p : ι × α,
        ((inner p.2).map fun q => ((p.1, q.1), q.2)).map Prod.snd = f p.2 := fun p => by
      rw [List.map_map, ← hinner p.2]
      rfl
    rw [List.map_flatMap, List.flatMap_map]
    simp only [hvalues]
  · refine List.pairwise_flatMap.2 ⟨fun p _ => ?_, hsorted.imp fun hbefore x hx y hy => ?_⟩
    · exact List.pairwise_map.2 ((hinnerSorted p.2).imp (Prod.Lex.right p.1))
    · obtain ⟨_, -, rfl⟩ := List.mem_map.1 hx
      obtain ⟨_, -, rfl⟩ := List.mem_map.1 hy
      exact Prod.Lex.left _ _ hbefore
  · rintro ⟨i, k⟩ b
    simp only [List.mem_flatMap, List.mem_map, Prod.exists, Prod.mk.injEq, hinnerMem, hmem]
    constructor
    · rintro ⟨_, a, ha, _, _, hb, ⟨rfl, rfl⟩, rfl⟩
      exact ⟨a, ha, hb⟩
    · rintro ⟨a, ha, hb⟩
      exact ⟨i, a, ha, k, b, hb, ⟨rfl, rfl⟩, rfl⟩

/-- One traversal after another, if all places of the first come before those of the second. -/
lemma append {Stands' : ι → α → Prop} (h : IsListing before Stands xs)
    (h' : IsListing before Stands' ys)
    (hbetween : ∀ i a j b, Stands i a → Stands' j b → before i j) :
    IsListing before (fun i a => Stands i a ∨ Stands' i a) (xs ++ ys) := by
  obtain ⟨placed, rfl, hsorted, hmem⟩ := h
  obtain ⟨placed', rfl, hsorted', hmem'⟩ := h'
  refine ⟨placed ++ placed', List.map_append, ?_, fun i a => ?_⟩
  · refine List.pairwise_append.2 ⟨hsorted, hsorted', fun p hp q hq => ?_⟩
    exact hbetween p.1 p.2 q.1 q.2 ((hmem _ _).1 hp) ((hmem' _ _).1 hq)
  · rw [List.mem_append, hmem, hmem']

/-- If the order of the places is strict, then only one list has one element for each place, in the
order of the places. -/
lemma eq_iff [Std.Asymm before] (h : IsListing before Stands xs) :
    ys = xs ↔ IsListing before Stands ys := by
  constructor
  · rintro rfl
    exact h
  · rintro ⟨placed', rfl, hsorted', hmem'⟩
    obtain ⟨placed, rfl, hsorted, hmem⟩ := h
    have : Std.Asymm fun p q : ι × α => before p.1 q.1 := ⟨fun _ _ => asymm⟩
    rw [hsorted'.eq_of_mem_iff hsorted fun p => (hmem' p.1 p.2).trans (hmem p.1 p.2).symm]

end IsListing

/-- A list lists its elements by their positions. -/
lemma isListing_getElem? (xs : List α) :
    IsListing (· < ·) (fun (i : Nat) a => xs[i]? = some a) xs := by
  have h := (isListing_zipIdx xs).map Prod.fst
  rw [List.zipIdx_map_fst] at h
  refine h.congr fun i a => ⟨fun ha => ⟨(a, i), ⟨rfl, ha⟩, rfl⟩, ?_⟩
  rintro ⟨x, ⟨-, hx⟩, rfl⟩
  exact hx

end ShardCheck
