import Mathlib.Tactic.Common
import ShardCheck.KeyMap
import ShardCheck.Proofs.Text.ByteOrder

/-!
# Looking up keys

Sorted entries have different keys, so the value of a key is the one entry with it. An insertion
changes the value of its own key and of no other.
-/

namespace ShardCheck

namespace KeyMap

variable {α : Type}

/-! ### Entries and values -/

/-- In sorted entries a look-up finds exactly the entries that are there. -/
lemma lookup_eq_some_iff {es : List (String × α)} (h : es.Pairwise (·.1 < ·.1)) {k : String}
    {v : α} : es.lookup k = some v ↔ (k, v) ∈ es := by
  induction es with
  | nil => simp
  | cons e es ih =>
    obtain ⟨k', v'⟩ := e
    obtain ⟨hlt, hes⟩ := List.pairwise_cons.1 h
    by_cases hk : k = k'
    · subst hk
      have hnot : (k, v) ∉ es := fun hm => String.lt_irrefl k (hlt (k, v) hm)
      simp [hnot, eq_comm]
    · have hb : (k == k') = false := by simpa using hk
      simp [List.lookup_cons, hb, hk, ih hes]

lemma get?_eq_some_iff {m : KeyMap α} {k : String} {v : α} :
    m.get? k = some v ↔ (k, v) ∈ m.entries :=
  lookup_eq_some_iff m.sorted

lemma mem_keys_iff {m : KeyMap α} {k : String} : k ∈ m.keys ↔ ∃ v, (k, v) ∈ m.entries := by
  simp [keys]

/-- Keys are in the order of their bytes. -/
lemma contains_iff {m : KeyMap α} {k : String} : m.contains k = true ↔ k ∈ m.keys := by
  rw [contains, Option.isSome_iff_exists, mem_keys_iff]
  simp only [get?_eq_some_iff]

lemma pairwise_bytes_keys (m : KeyMap α) :
    m.keys.Pairwise fun k k' => Text.bytes k < Text.bytes k' :=
  (List.pairwise_map.2 m.sorted).imp fun h => (Text.lt_iff_bytes_lt _ _).1 h

/-- Maps with the same values are the same. -/
lemma eq_of_get? {m m' : KeyMap α} (h : ∀ k, m.get? k = m'.get? k) : m = m' := by
  have hnodup : ∀ m : KeyMap α, m.entries.Nodup := fun m => by
    refine List.Pairwise.imp ?_ m.sorted
    rintro e _ hlt rfl
    exact String.lt_irrefl _ hlt
  have hperm : m.entries.Perm m'.entries :=
    (List.perm_ext_iff_of_nodup (hnodup m) (hnodup m')).2 fun e => by
      rw [← Prod.eta e, ← get?_eq_some_iff, ← get?_eq_some_iff, h]
  have hentries : m.entries = m'.entries :=
    hperm.eq_of_pairwise (fun _ _ _ _ hlt hgt => absurd hgt (String.lt_asymm hlt))
      m.sorted m'.sorted
  cases m
  cases m'
  simp_all

/-- Of a list for each entry nothing is left where only one key has something. -/
lemma flatMap_of_key {β : Type} {m : KeyMap α} {e : String × α} (he : e ∈ m.entries)
    {f : String × α → List β} (hf : ∀ e' ∈ m.entries, e'.1 ≠ e.1 → f e' = []) :
    m.entries.flatMap f = f e := by
  obtain ⟨before, after, heq⟩ := List.append_of_mem he
  have hsorted := m.sorted
  rw [heq, List.pairwise_append, List.pairwise_cons] at hsorted
  obtain ⟨-, ⟨hafter, -⟩, hbefore⟩ := hsorted
  have hnil : ∀ es : List (String × α), (∀ e' ∈ es, e' ∈ m.entries ∧ e'.1 ≠ e.1) →
      es.flatMap f = [] := fun es hes =>
    List.flatMap_eq_nil_iff.2 fun e' he' => hf e' (hes e' he').1 (hes e' he').2
  rw [heq, List.flatMap_append, List.flatMap_cons, hnil before, hnil after, List.nil_append,
    List.append_nil]
  · intro e' he'
    have hlt := hafter e' he'
    exact ⟨by simp [heq, he'], fun hk => String.lt_irrefl e.1 (by rwa [hk] at hlt)⟩
  · intro e' he'
    have hlt := hbefore e' he' e (by simp)
    exact ⟨by simp [heq, he'], fun hk => String.lt_irrefl e.1 (by rwa [hk] at hlt)⟩

def filterKeys (m : KeyMap α) (p : String → Bool) : KeyMap α :=
  ⟨m.entries.filter fun e => p e.1, m.sorted.filter _⟩

/-! ### Insertion -/

/-- An inserted key has the inserted value; every other key keeps its own. -/
lemma lookup_insertEntry {es : List (String × α)} (h : es.Pairwise (·.1 < ·.1)) (k k' : String)
    (v : α) : (insertEntry k v es).lookup k' = if k' = k then some v else es.lookup k' := by
  induction es with
  | nil =>
    by_cases hk : k' = k
    · simp [insertEntry, hk]
    · have hb : (k' == k) = false := by simpa using hk
      simp [insertEntry, List.lookup_cons, hb, hk]
  | cons e es ih =>
    obtain ⟨k₀, v₀⟩ := e
    obtain ⟨hlt, hes⟩ := List.pairwise_cons.1 h
    simp only [insertEntry]
    split
    · -- the new entry stands first
      by_cases hk : k' = k
      · simp [hk]
      · have hb : (k' == k) = false := by simpa using hk
        simp [List.lookup_cons, hb, hk]
    · split
      · -- the new entry belongs further back
        rename_i hk₀
        rw [List.lookup_cons, List.lookup_cons, ih hes]
        by_cases hk : k' = k₀
        · have hne : k₀ ≠ k := fun he => String.lt_irrefl k (by rwa [he] at hk₀)
          simp [hk, hne]
        · have hb : (k' == k₀) = false := by simpa using hk
          simp [hb]
      · -- the new entry replaces the first one
        rename_i h₁ h₂
        have he : k = k₀ := String.le_antisymm (String.not_lt.1 h₂) (String.not_lt.1 h₁)
        subst he
        by_cases hk : k' = k
        · simp [hk]
        · have hb : (k' == k) = false := by simpa using hk
          simp [List.lookup_cons, hb, hk]

lemma get?_insert (m : KeyMap α) (k k' : String) (v : α) :
    (m.insert k v).get? k' = if k' = k then some v else m.get? k' :=
  lookup_insertEntry m.sorted k k' v

/-- Insertions under different keys may be made in either order. -/
lemma insert_comm (m : KeyMap α) {k k' : String} (h : k ≠ k') (v v' : α) :
    (m.insert k v).insert k' v' = (m.insert k' v').insert k v := by
  refine eq_of_get? fun key => ?_
  simp only [get?_insert]
  split
  · rename_i hk
    rw [if_neg fun hkey => h (hkey.symm.trans hk)]
  · rfl

lemma exists_insertEntry_eq {es : List (String × α)} {k : String} (h : ∀ e ∈ es, e.1 ≠ k) (v : α) :
    ∃ before after, es = before ++ after ∧ insertEntry k v es = before ++ (k, v) :: after := by
  induction es with
  | nil => exact ⟨[], [], rfl, rfl⟩
  | cons e es ih =>
    obtain ⟨hne, hes⟩ := List.forall_mem_cons.1 h
    by_cases hlt : k < e.1
    · exact ⟨[], e :: es, rfl, by simp [insertEntry, hlt]⟩
    · have hgt : e.1 < k := by
        by_contra hnot
        exact hne (String.le_antisymm (String.not_lt.1 hlt) (String.not_lt.1 hnot))
      obtain ⟨before, after, heq, hinsert⟩ := ih hes
      exact ⟨e :: before, after, by rw [heq]; rfl, by simp [insertEntry, hlt, hgt, hinsert]⟩

/-- An entry with a new key goes in between the entries that are there. -/
lemma exists_entries_insert_eq {m : KeyMap α} {k : String} (h : k ∉ m.keys) (v : α) :
    ∃ before after, m.entries = before ++ after ∧
      (m.insert k v).entries = before ++ (k, v) :: after := by
  refine exists_insertEntry_eq (fun e he hk => ?_) v
  subst hk
  exact h (mem_keys_iff.2 ⟨e.2, he⟩)

@[simp] lemma get?_empty (k : String) : (∅ : KeyMap α).get? k = none := rfl

/-- Entries that are put into a map one by one hide what was there before them. -/
lemma get?_foldl_insert (es : List (String × α)) (m : KeyMap α) (k : String) :
    (es.foldl (fun m e => m.insert e.1 e.2) m).get? k = (es.reverse.lookup k).or (m.get? k) := by
  induction es generalizing m with
  | nil => rfl
  | cons e es ih =>
    obtain ⟨k', v⟩ := e
    rw [List.foldl_cons, ih, get?_insert, List.reverse_cons, List.lookup_append, Option.or_assoc]
    congr 1
    by_cases hk : k = k'
    · simp [hk]
    · have hb : (k == k') = false := by simpa using hk
      simp [List.lookup_cons, hb, hk]

lemma get?_ofList (es : List (String × α)) (k : String) :
    (ofList es).get? k = es.reverse.lookup k := by
  rw [ofList, get?_foldl_insert]
  exact Option.or_none

section OfList

variable {ι : Type} (f : ι → String) (g : ι → α) (before after : List ι) {i : ι} {k : String}

/-- An entry more makes no difference for other keys, nor if its key comes again behind it. -/
lemma get?_ofList_map_insert (h : k ≠ f i ∨ ∃ j ∈ after, f j = f i) :
    (ofList ((before ++ i :: after).map fun j => (f j, g j))).get? k =
      (ofList ((before ++ after).map fun j => (f j, g j))).get? k := by
  simp only [get?_ofList, List.map_append, List.map_cons, List.reverse_append, List.reverse_cons,
    List.append_assoc, List.lookup_append]
  by_cases hk : k = f i
  · obtain ⟨j, hj, hkey⟩ := h.resolve_left (not_not.2 hk)
    have hsome : (after.map fun j => (f j, g j)).reverse.lookup k ≠ none := by
      intro hnone
      have hne := List.lookup_eq_none_iff.1 hnone (f j, g j)
        (List.mem_reverse.2 (List.mem_map_of_mem hj))
      simp [hk, hkey] at hne
    obtain ⟨v, hv⟩ := Option.ne_none_iff_exists'.1 hsome
    rw [hv, Option.some_or, Option.some_or]
  · have hb : (k == f i) = false := by simpa using hk
    rw [List.lookup_cons, hb, List.lookup_nil, Option.none_or]

/-- The last entry with a key counts. -/
lemma get?_ofList_map_insert_self (h : ∀ j ∈ after, f j ≠ f i) :
    (ofList ((before ++ i :: after).map fun j => (f j, g j))).get? (f i) = some (g i) := by
  have hnone : (after.map fun j => (f j, g j)).reverse.lookup (f i) = none := by
    refine List.lookup_eq_none_iff.2 fun e he => ?_
    obtain ⟨j, hj, rfl⟩ := List.mem_map.1 (List.mem_reverse.1 he)
    simpa using Ne.symm (h j hj)
  simp only [get?_ofList, List.map_append, List.map_cons, List.reverse_append, List.reverse_cons,
    List.append_assoc, List.lookup_append, hnone, Option.none_or, List.lookup_cons_self,
    Option.some_or]

end OfList

/-! ### Last entries -/

/-- No later entry has the key of this one. -/
def IsLast (es : List (String × α)) (e : String × α) : Prop :=
  ∃ before after, es = before ++ e :: after ∧ ∀ e' ∈ after, e'.1 ≠ e.1

/-- A map of a list holds the last entry of every key. -/
lemma get?_ofList_eq_some_iff {es : List (String × α)} {k : String} {v : α} :
    (ofList es).get? k = some v ↔ IsLast es (k, v) := by
  rw [get?_ofList, List.lookup_eq_some_iff]
  constructor
  · rintro ⟨after, before, heq, hafter⟩
    refine ⟨before.reverse, after.reverse, ?_, fun e' he' => ?_⟩
    · rw [List.reverse_eq_iff.1 heq]
      simp
    · exact (bne_iff_ne.1 (hafter e' (List.mem_reverse.1 he'))).symm
  · rintro ⟨before, after, rfl, hafter⟩
    refine ⟨after.reverse, before.reverse, by simp, fun e' he' => ?_⟩
    exact bne_iff_ne.2 (hafter e' (List.mem_reverse.1 he')).symm

lemma isLast_of_nodup {es : List (String × α)} (h : (es.map Prod.fst).Nodup) {e : String × α}
    (he : e ∈ es) : IsLast es e := by
  obtain ⟨before, after, rfl⟩ := List.append_of_mem he
  refine ⟨before, after, rfl, fun e' he' hkey => ?_⟩
  rw [List.map_append, List.map_cons] at h
  have hnot := (List.nodup_cons.1 (List.nodup_append.1 h).2.1).1
  exact hnot (hkey ▸ List.mem_map_of_mem he')

end KeyMap

end ShardCheck
