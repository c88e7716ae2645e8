import Mathlib.Tactic.Common
import ShardCheck.Proofs.Yaml.Reader

/-!
# Edits of documents

The order of the entries in a mapping means nothing, and neither does an entry of a record that is
none of its fields. An edit tells for every part of a node how it may change in such ways. The edits
are put together like the readers: one of a list from one of its items, and one of a record from
those of its fields.
-/

namespace ShardCheck.Yaml

/-! ### Names of entries -/

def Node.text? : Node → Option String
  | .scalar _ c => some (String.ofList c.text)
  | _ => none

/-- Entries by the texts of their keys. -/
def named (es : List (Node × Node)) : List (String × Node) :=
  es.filterMap fun (k, v) => k.text?.map (·, v)

def HaveNames (es : List (Node × Node)) : Prop := ∀ e ∈ es, ∃ name, e.1.text? = some name

variable {k v : Node} {name : String} {es : List (Node × Node)}

lemma named_cons (h : k.text? = some name) : named ((k, v) :: es) = (name, v) :: named es := by
  simp [named, h]

lemma named_perm {es' : List (Node × Node)} (h : es.Perm es') : (named es).Perm (named es') :=
  h.filterMap _

lemma HaveNames.cons (hk : k.text? = some name) (h : HaveNames es) : HaveNames ((k, v) :: es) :=
  List.forall_mem_cons.2 ⟨⟨name, hk⟩, h⟩

lemma Node.exists_of_text?_eq {n : Node} (h : n.text? = some name) :
    ∃ m c, n = .scalar m c ∧ name = String.ofList c.text := by
  cases n with
  | scalar m c => exact ⟨m, c, rfl, (Option.some.inj h).symm⟩
  | aliasOf | sequence | mapping | lost => cases h

lemma Document.namedEntries_eq {d : Document} (h : HaveNames es) :
    d.namedEntries es = named es := by
  refine List.filterMap_congr fun ⟨k, v⟩ he => ?_
  obtain ⟨name, hname⟩ := h _ he
  obtain ⟨m, c, rfl, -⟩ := Node.exists_of_text?_eq hname
  rfl

/-- A node without aliases and lost parts whose mappings have different scalars as keys. -/
inductive Node.IsPlain : Node → Prop where
  | scalar {m : Mark} {c : Scalar} : IsPlain (.scalar m c)
  | sequence {m : Mark} {ns : List Node} (h : ∀ n ∈ ns, n.IsPlain) : IsPlain (.sequence m ns)
  | mapping {m : Mark} {es : List (Node × Node)} (hnames : HaveNames es)
      (hnodup : ((named es).map Prod.fst).Nodup) (h : ∀ e ∈ es, e.2.IsPlain) :
      IsPlain (.mapping m es)

/-! ### Edits -/

/-- What may take the place of the items of a sequence and of the entries of a mapping. -/
structure Edit where
  items : List Node → List Node → Prop
  entries : List (Node × Node) → List (Node × Node) → Prop

namespace Edit

/-- A node may take the place of another one. A scalar keeps its content, and marks play no part. -/
inductive Allows (e : Edit) : Node → Node → Prop where
  | scalar {m m' : Mark} {c : Scalar} : e.Allows (.scalar m c) (.scalar m' c)
  | sequence {m m' : Mark} {ns ns' : List Node} (h : e.items ns ns') :
      e.Allows (.sequence m ns) (.sequence m' ns')
  | mapping {m m' : Mark} {es es' : List (Node × Node)} (h : e.entries es es') :
      e.Allows (.mapping m es) (.mapping m' es')

/-- Entries may take the place of others. They come in any order, and those with a known name are
edited. Any others are taken out and put in; a node that is put in has no part that was lost. -/
inductive Entries (known : String → Option Edit) :
    List (Node × Node) → List (Node × Node) → Prop where
  | nil : Entries known [] []
  | edit {name : String} {e : Edit} {k k' v v' : Node} {es es' : List (Node × Node)}
      (hname : known name = some e) (hk : k.text? = some name) (hk' : k'.text? = some name)
      (hv : e.Allows v v') (h : Entries known es es') :
      Entries known ((k, v) :: es) ((k', v') :: es')
  | take {name : String} {k v : Node} {es es' : List (Node × Node)} (hname : known name = none)
      (hk : k.text? = some name) (h : Entries known es es') : Entries known ((k, v) :: es) es'
  | put {name : String} {k v : Node} {es es' : List (Node × Node)} (hname : known name = none)
      (hk : k.text? = some name) (hv : v.isBroken = false) (h : Entries known es es') :
      Entries known es ((k, v) :: es')
  | perm {es moved es' : List (Node × Node)} (hperm : es.Perm moved) (h : Entries known moved es') :
      Entries known es es'

/-- Scalars stay as they are. -/
def keep : Edit := ⟨fun _ _ => False, fun _ _ => False⟩

/-- The items of a list are edited in their places. -/
def list (item : Edit) : Edit := ⟨List.Forall₂ item.Allows, fun _ _ => False⟩

/-- The values of a map are edited. No two of its entries have one key. -/
def map (value : Edit) : Edit where
  items _ _ := False
  entries es es' := ((named es).map Prod.fst).Nodup ∧ Entries (fun _ => some value) es es'

/-- The fields of a record are edited. -/
def record (fields : List (String × Edit)) : Edit :=
  ⟨fun _ _ => False, Entries fun name => fields.lookup name⟩

section Allows

variable {m m' : Mark} {ns ns' : List Node} {es es' : List (Node × Node)}

lemma Allows.list {item : Edit} (h : List.Forall₂ item.Allows ns ns') :
    item.list.Allows (.sequence m ns) (.sequence m' ns') := .sequence h

lemma Allows.map {value : Edit} (hnodup : ((named es).map Prod.fst).Nodup)
    (h : Entries (fun _ => some value) es es') :
    value.map.Allows (.mapping m es) (.mapping m' es') := .mapping ⟨hnodup, h⟩

lemma Allows.record {fields : List (String × Edit)}
    (h : Entries (fun name => fields.lookup name) es es') :
    (record fields).Allows (.mapping m es) (.mapping m' es') := .mapping h

end Allows

lemma Entries.haveNames {known : String → Option Edit} {es es' : List (Node × Node)}
    (h : Entries known es es') : HaveNames es ∧ HaveNames es' := by
  induction h with
  | nil => exact ⟨by simp [HaveNames], by simp [HaveNames]⟩
  | edit _ hk hk' _ _ ih => exact ⟨ih.1.cons hk, ih.2.cons hk'⟩
  | take _ hk _ ih => exact ⟨ih.1.cons hk, ih.2⟩
  | put _ hk _ _ ih => exact ⟨ih.1, ih.2.cons hk⟩
  | perm hperm _ ih => exact ⟨fun e he => ih.1 e (hperm.mem_iff.1 he), ih.2⟩

end Edit

/-! ### Comparing nodes -/

mutual

/-- The nodes are the same, marks included. -/
def Node.same : Node → Node → Bool
  | .scalar m c, .scalar m' c' => m == m' && c == c'
  | .aliasOf m label, .aliasOf m' label' => m == m' && label == label'
  | .sequence m ns, .sequence m' ns' => m == m' && Node.sameItems ns ns'
  | .mapping m es, .mapping m' es' => m == m' && Node.sameEntries es es'
  | .lost, .lost => true
  | _, _ => false

def Node.sameItems : List Node → List Node → Bool
  | [], [] => true
  | n :: ns, n' :: ns' => n.same n' && Node.sameItems ns ns'
  | _, _ => false

def Node.sameEntries : List (Node × Node) → List (Node × Node) → Bool
  | [], [] => true
  | (k, v) :: es, (k', v') :: es' => k.same k' && v.same v' && Node.sameEntries es es'
  | _, _ => false

end

mutual

lemma Node.eq_of_same {n n' : Node} (h : n.same n' = true) : n = n' := by
  match n, n' with
  | .scalar m c, .scalar m' c' => simpa [same] using h
  | .aliasOf m label, .aliasOf m' label' => simpa [same] using h
  | .sequence m ns, .sequence m' ns' =>
    simp only [same, Bool.and_eq_true, beq_iff_eq] at h
    rw [h.1, Node.eq_of_sameItems h.2]
  | .mapping m es, .mapping m' es' =>
    simp only [same, Bool.and_eq_true, beq_iff_eq] at h
    rw [h.1, Node.eq_of_sameEntries h.2]
  | .lost, .lost => rfl

lemma Node.eq_of_sameItems {ns ns' : List Node} (h : Node.sameItems ns ns' = true) : ns = ns' := by
  match ns, ns' with
  | [], [] => rfl
  | n :: ns, n' :: ns' =>
    simp only [sameItems, Bool.and_eq_true] at h
    rw [Node.eq_of_same h.1, Node.eq_of_sameItems h.2]

lemma Node.eq_of_sameEntries {es es' : List (Node × Node)}
    (h : Node.sameEntries es es' = true) : es = es' := by
  match es, es' with
  | [], [] => rfl
  | (k, v) :: es, (k', v') :: es' =>
    simp only [sameEntries, Bool.and_eq_true] at h
    rw [Node.eq_of_same h.1.1, Node.eq_of_same h.1.2, Node.eq_of_sameEntries h.2]

end

end ShardCheck.Yaml
