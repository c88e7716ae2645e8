import Mathlib.Tactic.Common
import Mathlib.Data.List.Forall2

/-!
# Computations that may fail

A sequence of steps succeeds if every step does. A loop whose rounds load something and then add it
to what there is comes down to loading everything, and adding it up afterwards.
-/

namespace ShardCheck.Fallible

variable {α β γ ε ε' σ : Type}

lemma bind_eq_ok_iff {x : Except ε α} {f : α → Except ε β} {b : β} :
    x >>= f = .ok b ↔ ∃ a, x = .ok a ∧ f a = .ok b := by
  cases x with
  | error e => simp [bind, Except.bind]
  | ok a => simp [bind, Except.bind]

lemma map_eq_ok_iff {x : Except ε α} {f : α → β} {b : β} :
    x.map f = .ok b ↔ ∃ a, x = .ok a ∧ f a = b := by
  cases x with
  | error e => simp [Except.map]
  | ok a => simp [Except.map]

lemma mapError_eq_ok_iff {x : Except ε α} {f : ε → ε'} {a : α} :
    x.mapError f = .ok a ↔ x = .ok a := by
  cases x with
  | error e => simp [Except.mapError]
  | ok a => simp [Except.mapError]

lemma bind_eq_error_iff {x : Except ε α} {f : α → Except ε β} {e : ε} :
    x >>= f = .error e ↔ x = .error e ∨ ∃ a, x = .ok a ∧ f a = .error e := by
  cases x with
  | error e => simp [bind, Except.bind]
  | ok a => simp [bind, Except.bind]

lemma map_eq_error_iff {x : Except ε α} {f : α → β} {e : ε} :
    x.map f = .error e ↔ x = .error e := by
  cases x with
  | error e => simp [Except.map]
  | ok a => simp [Except.map]

lemma mapError_eq_error_iff {x : Except ε α} {f : ε → ε'} {e' : ε'} :
    x.mapError f = .error e' ↔ ∃ e, x = .error e ∧ f e = e' := by
  cases x with
  | error e => simp [Except.mapError]
  | ok a => simp [Except.mapError]

/-! ### Loading a list -/

/-- A list is loaded if every element is, into the list of the loaded elements. -/
lemma mapM_eq_ok_iff {load : α → Except ε β} {as : List α} {bs : List β} :
    as.mapM load = .ok bs ↔ List.Forall₂ (fun a b => load a = .ok b) as bs := by
  induction as generalizing bs with
  | nil => simp [pure, Except.pure, eq_comm]
  | cons a as ih =>
    rw [List.mapM_cons, bind_eq_ok_iff, List.forall₂_cons_left_iff]
    simp only [bind_eq_ok_iff, ih]
    constructor
    · rintro ⟨b, hb, bs', hbs', h⟩
      cases h
      exact ⟨b, bs', hb, hbs', rfl⟩
    · rintro ⟨b, bs', hb, hbs', rfl⟩
      exact ⟨b, hb, bs', hbs', rfl⟩

/-- Every element of a list has something in a relation to it if the list as a whole has. -/
lemma exists_forall₂_iff {R : α → β → Prop} {as : List α} :
    (∃ bs, List.Forall₂ R as bs) ↔ ∀ a ∈ as, ∃ b, R a b := by
  induction as with
  | nil => simp
  | cons a as ih =>
    simp only [List.forall₂_cons_left_iff, List.forall_mem_cons, ← ih]
    constructor
    · rintro ⟨-, b, bs, hb, hbs, -⟩
      exact ⟨⟨b, hb⟩, bs, hbs⟩
    · rintro ⟨⟨b, hb⟩, bs, hbs⟩
      exact ⟨b :: bs, b, bs, hb, hbs, rfl⟩

lemma mapM_congr {load load' : α → Except ε β} {as : List α} (h : ∀ a ∈ as, load a = load' a) :
    as.mapM load = as.mapM load' := by
  induction as with
  | nil => rfl
  | cons a as ih =>
    rw [List.mapM_cons, List.mapM_cons, h a List.mem_cons_self,
      ih fun a' ha' => h a' (List.mem_cons_of_mem _ ha')]

/-- Loading a list fails with the first element that cannot be loaded. -/
lemma mapM_eq_error_iff {load : α → Except ε β} {as : List α} {e : ε} :
    as.mapM load = .error e ↔ ∃ before a after, as = before ++ a :: after ∧
      (∀ a' ∈ before, ∃ b, load a' = .ok b) ∧ load a = .error e := by
  induction as with
  | nil => simp [pure, Except.pure]
  | cons a as ih =>
    rw [List.mapM_cons, bind_eq_error_iff]
    constructor
    -- the first element fails, or one of the others does
    · rintro (he | ⟨b, hb, hrest⟩)
      · exact ⟨[], a, as, rfl, by simp, he⟩
      · rcases bind_eq_error_iff.1 hrest with hrest | ⟨bs, -, hpure⟩
        · obtain ⟨before, a', after, rfl, hbefore, he⟩ := ih.1 hrest
          refine ⟨a :: before, a', after, rfl, fun x hx => ?_, he⟩
          rcases List.mem_cons.1 hx with rfl | hx
          · exact ⟨b, hb⟩
          · exact hbefore x hx
        · cases hpure
    · rintro ⟨before, a', after, heq, hbefore, he⟩
      cases before with
      | nil =>
        obtain ⟨rfl, rfl⟩ := List.cons_eq_cons.1 heq
        exact .inl he
      | cons x before =>
        obtain ⟨rfl, rfl⟩ := List.cons_eq_cons.1 heq
        obtain ⟨b, hb⟩ := hbefore a List.mem_cons_self
        have hrest := ih.2 ⟨before, a', after, rfl,
          fun x hx => hbefore x (List.mem_cons_of_mem _ hx), he⟩
        exact .inr ⟨b, hb, bind_eq_error_iff.2 (.inl hrest)⟩

lemma exists_error_of_mem (load : α → Except ε β) {as : List α} {a : α} (ha : a ∈ as) {e : ε}
    (he : load a = .error e) : ∃ e', as.mapM load = .error e' := by
  cases h : as.mapM load with
  | error e' => exact ⟨e', rfl⟩
  | ok bs =>
    have hloaded := mapM_eq_ok_iff.1 h
    obtain ⟨i, hi, rfl⟩ := List.mem_iff_getElem.1 ha
    have hget := hloaded.get hi (hloaded.length_eq ▸ hi)
    simp only [List.get_eq_getElem] at hget
    cases he.symm.trans hget

section Zip

variable {R : α → β → Prop} {as : List α} {bs : List β}

lemma exists_mem_zip_left (h : List.Forall₂ R as bs) {a : α} (ha : a ∈ as) :
    ∃ b, (a, b) ∈ as.zip bs ∧ R a b := by
  rw [← List.map_fst_zip (Nat.le_of_eq h.length_eq), List.mem_map] at ha
  obtain ⟨⟨a, b⟩, hab, rfl⟩ := ha
  exact ⟨b, hab, List.forall₂_zip h hab⟩

lemma exists_mem_zip_right (h : List.Forall₂ R as bs) {b : β} (hb : b ∈ bs) :
    ∃ a, (a, b) ∈ as.zip bs ∧ R a b := by
  rw [← List.map_snd_zip (Nat.le_of_eq h.length_eq.symm), List.mem_map] at hb
  obtain ⟨⟨a, b⟩, hab, rfl⟩ := hb
  exact ⟨a, hab, List.forall₂_zip h hab⟩

end Zip

/-- A loop that loads in every round loads everything. -/
lemma foldlM_load (load : α → Except ε β) (add : σ → α → β → σ) (as : List α) (s : σ) :
    as.foldlM (fun s a => (load a).map (add s a)) s =
      (as.mapM load).map fun bs => (as.zip bs).foldl (fun s x => add s x.1 x.2) s := by
  induction as generalizing s with
  | nil => rfl
  | cons a as ih =>
    rw [List.foldlM_cons, List.mapM_cons]
    cases load a with
    | error e => rfl
    | ok b =>
      change List.foldlM _ (add s a b) as = _
      rw [ih]
      cases as.mapM load with
      | error e => rfl
      | ok bs => rfl

/-- A loop that loads a list in every round puts all of them together. -/
lemma foldlM_append (load : α → Except ε (List β)) (as : List α) (bs : List β) :
    as.foldlM (fun bs a => load a >>= fun b => pure (bs ++ b)) bs =
      (as.mapM load).map fun found => bs ++ found.flatten := by
  induction as generalizing bs with
  | nil => simp [pure, Except.pure, Except.map]
  | cons a as ih =>
    rw [List.foldlM_cons, List.mapM_cons]
    cases load a with
    | error e => rfl
    | ok b =>
      change List.foldlM _ (bs ++ b) as = _
      rw [ih]
      cases as.mapM load with
      | error e => rfl
      | ok found => simp [Except.map, bind, Except.bind, pure, Except.pure]

end ShardCheck.Fallible
