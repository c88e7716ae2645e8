import Mathlib.Tactic.Common
import Mathlib.Data.List.Forall2
import ShardCheck.Proofs.KeyMap
import ShardCheck.Yaml.Reader

/-!
# What a reader takes from a document

A node that was read tells what is written in the document: a list was read from the items of a
sequence, a map from the entries of a mapping, and the field of a record from the only entry of that
name. Where a node stands and how many aliases were followed before makes no difference to it.
-/

namespace ShardCheck.Yaml

variable {α β σ : Type}

/-! ### Readings -/

namespace Reading

/-- A reading ends with a value, for some number of aliases followed before and after. -/
def Gives (r : Reading α) (x : α) : Prop := ∃ n n', r n = .ok (x, n')

@[simp] lemma gives_pure_iff {a b : α} : Gives (pure a) b ↔ a = b := by
  constructor
  · rintro ⟨n, n', h⟩
    cases h
    rfl
  · rintro rfl
    exact ⟨0, 0, rfl⟩

@[simp] lemma not_gives_throw {e : ReadError} {a : α} : ¬ Gives (throw e) a := by
  rintro ⟨n, n', h⟩
  cases h

@[simp] lemma not_gives_mismatch {reason : Mismatch} {a : α} : ¬ Gives (mismatch reason) a :=
  not_gives_throw

@[simp] lemma gives_placing_iff {m : Mark} {path : NodePath} {r : Reading α} {a : α} :
    (r.placing m path).Gives a ↔ r.Gives a := by
  refine exists_congr fun n => exists_congr fun n' => ?_
  rw [placing]
  cases r n with
  | ok x => rfl
  | error e => simp [Except.mapError]

lemma Gives.exists_of_bind {r : Reading α} {f : α → Reading β} {b : β} (h : Gives (r >>= f) b) :
    ∃ a, r.Gives a ∧ (f a).Gives b := by
  obtain ⟨n, n', h⟩ := h
  change (r n >>= fun x => f x.1 x.2) = .ok (b, n') at h
  cases hr : r n with
  | error e =>
    rw [hr] at h
    cases h
  | ok x =>
    rw [hr] at h
    exact ⟨x.1, ⟨n, x.2, hr⟩, ⟨x.2, n', h⟩⟩

end Reading

/-! ### What is written -/

namespace Document

def behind (d : Document) : Node → Node
  | .aliasOf _ label => d.target label
  | n => n

def keyText? (d : Document) (k : Node) : Option String :=
  match d.behind k with
  | .scalar _ s => some (String.ofList s.text)
  | _ => none

def namedEntries (d : Document) (entries : List (Node × Node)) : List (String × Node) :=
  entries.filterMap fun (k, v) => (d.keyText? k).map (·, v)

/-- The entries that are written in a mapping. -/
def written (d : Document) (n : Node) : List (String × Node) :=
  match d.behind n with
  | .mapping _ entries => d.namedEntries entries
  | _ => []

/-- What is written in a mapping under a name. -/
def under (d : Document) (name : String) (n : Node) : List Node :=
  ((d.written n).filter (·.1 == name)).map (·.2)

def items (d : Document) (n : Node) : List Node :=
  match d.behind n with
  | .sequence _ ns => ns
  | _ => []

/-- A reader takes a node for a value. -/
def Reads (d : Document) (r : Reader α) (n : Node) (x : α) : Prop := ∃ path, (r d path n).Gives x

def ReadsEntries (d : Document) (r : Reader α) :
    List (String × Node) → List (String × α) → Prop :=
  List.Forall₂ fun w e => w.1 = e.1 ∧ d.Reads r w.2 e.2

variable {d : Document} {n : Node}

lemma eq_behind_of_gives {n' : Node} (h : (d.resolve n).Gives n') : n' = d.behind n := by
  cases n with
  | aliasOf m label =>
    obtain ⟨followed, -, h⟩ := h.exists_of_bind
    obtain ⟨-, -, h⟩ := h.exists_of_bind
    split at h
    · obtain ⟨x, hx, -⟩ := h.exists_of_bind
      exact absurd hx Reading.not_gives_throw
    · exact (Reading.gives_pure_iff.1 h).symm
  | scalar | sequence | mapping | lost => exact (Reading.gives_pure_iff.1 h).symm

lemma not_gives_lostHere {x : α} : ¬ (d.lostHere : Reading α).Gives x := Reading.not_gives_throw

/-! ### Scalars and lists -/

lemma keyText?_of_gives_text {expected : Expected} {path : NodePath} {s : List Char}
    (h : (Reader.text expected d path n).Gives s) : d.keyText? n = some (String.ofList s) := by
  obtain ⟨n', hn', h⟩ := h.exists_of_bind
  obtain rfl := eq_behind_of_gives hn'
  rw [keyText?]
  cases hb : d.behind n with
  | scalar m c =>
    rw [hb] at h
    obtain rfl := Reading.gives_pure_iff.1 h
    rfl
  | sequence | mapping | aliasOf | lost =>
    rw [hb] at h
    exact absurd h (by simp [not_gives_lostHere])

lemma reads_of_gives_items {r : Reader α} {path : NodePath} {i : Nat} {ns : List Node}
    {xs : List α} (h : (Reader.items r d path i ns).Gives xs) :
    List.Forall₂ (d.Reads r) ns xs := by
  induction ns generalizing i xs with
  | nil =>
    rw [← Reading.gives_pure_iff.1 h]
    exact .nil
  | cons n ns ih =>
    obtain ⟨x, hx, h⟩ := h.exists_of_bind
    obtain ⟨rest, hrest, h⟩ := h.exists_of_bind
    rw [← Reading.gives_pure_iff.1 h]
    exact .cons ⟨_, hx⟩ (ih hrest)

/-- A list is read from the items of a sequence, one by one. -/
lemma Reads.list {r : Reader α} {xs : List α} (h : d.Reads (.list r) n xs) :
    List.Forall₂ (d.Reads r) (d.items n) xs := by
  obtain ⟨path, h⟩ := h
  obtain ⟨n', hn', h⟩ := h.exists_of_bind
  obtain rfl := eq_behind_of_gives hn'
  rw [items]
  cases hb : d.behind n with
  | sequence m ns =>
    rw [hb] at h
    exact reads_of_gives_items (Reading.gives_placing_iff.1 h)
  | scalar m s =>
    rw [hb] at h
    simp only at h
    split at h
    · rw [← Reading.gives_pure_iff.1 h]
      exact .nil
    · exact absurd h (by simp)
  | mapping | aliasOf | lost =>
    rw [hb] at h
    exact absurd h (by simp [not_gives_lostHere])

/-! ### Mappings -/

/-- A state is reached from another by one step for each entry. -/
inductive Folds (step : String → σ → Node → σ → Prop) : List (String × Node) → σ → σ → Prop where
  | nil {s : σ} : Folds step [] s s
  | cons {key : String} {node : Node} {entries : List (String × Node)} {s s' s'' : σ}
      (h : step key s node s') (hrest : Folds step entries s' s'') :
      Folds step ((key, node) :: entries) s s''

lemma folds_of_gives_foldEntries {path : NodePath} {expected : Expected}
    {entry : String → σ → NodePath → Node → Reading σ} {entries : List (Node × Node)} {s s' : σ}
    (h : (Reader.foldEntries d path expected entry entries s).Gives s') :
    Folds (fun key s node s' => ∃ path, (entry key s path node).Gives s')
      (d.namedEntries entries) s s' := by
  induction entries generalizing s with
  | nil =>
    rw [← Reading.gives_pure_iff.1 h]
    exact .nil
  | cons e entries ih =>
    obtain ⟨k, v⟩ := e
    obtain ⟨name, hname, h⟩ := h.exists_of_bind
    obtain ⟨s₁, hs₁, h⟩ := h.exists_of_bind
    have hnamed : d.namedEntries ((k, v) :: entries) =
        (String.ofList name, v) :: d.namedEntries entries := by
      simp [namedEntries, keyText?_of_gives_text hname]
    rw [hnamed]
    exact .cons ⟨_, hs₁⟩ (ih h)

/-- A mapping is read by one step for each of its entries. -/
lemma Reads.mapping {expectedValue expectedKey : Expected} {start s : σ}
    {entry : Document → String → σ → NodePath → Node → Reading σ} {finish : σ → Reading σ}
    (h : d.Reads (.mapping expectedValue expectedKey start entry finish) n s) :
    ∃ s₀, Folds (fun key s node s' => ∃ path, (entry d key s path node).Gives s')
      (d.written n) start s₀ ∧ (finish s₀).Gives s := by
  obtain ⟨path, h⟩ := h
  obtain ⟨n', hn', h⟩ := h.exists_of_bind
  obtain rfl := eq_behind_of_gives hn'
  rw [written]
  cases hb : d.behind n with
  | mapping m entries =>
    rw [hb] at h
    obtain ⟨s₀, hs₀, h⟩ := (Reading.gives_placing_iff.1 h).exists_of_bind
    exact ⟨s₀, folds_of_gives_foldEntries hs₀, h⟩
  | scalar m c =>
    rw [hb] at h
    simp only at h
    split at h
    · exact ⟨start, .nil, Reading.gives_placing_iff.1 h⟩
    · exact absurd h (by simp)
  | sequence | aliasOf | lost =>
    rw [hb] at h
    exact absurd h (by simp [not_gives_lostHere])

/-- A map is read from all entries of a mapping, and holds the last one of each key. -/
lemma Reads.map {r : Reader α} {m : KeyMap α} (h : d.Reads (.map r) n m) :
    ∃ es, d.ReadsEntries r (d.written n) es ∧ m = .ofList es := by
  obtain ⟨m', hfolds, hfinish⟩ := h.mapping
  rw [← Reading.gives_pure_iff.1 hfinish]
  -- the entries read so far are in the map that the rest is put into
  suffices hall : ∀ {ws : List (String × Node)} {m₀ m₁ : KeyMap α},
      Folds (fun key m node m' => ∃ path,
        (do return m.insert key (← r d path node) : Reading (KeyMap α)).Gives m') ws m₀ m₁ →
      ∃ es, d.ReadsEntries r ws es ∧ m₁ = es.foldl (fun m e => m.insert e.1 e.2) m₀ from
    hall hfolds
  intro ws m₀ m₁ hfolds
  induction hfolds with
  | nil => exact ⟨[], .nil, rfl⟩
  | @cons key node ws s s' s'' hstep _ ih =>
    obtain ⟨es, hes, rfl⟩ := ih
    obtain ⟨path, hstep⟩ := hstep
    obtain ⟨x, hx, hinsert⟩ := hstep.exists_of_bind
    rw [← Reading.gives_pure_iff.1 hinsert]
    exact ⟨(key, x) :: es, .cons ⟨rfl, path, hx⟩ hes, rfl⟩

/-! ### Records -/

lemma gives_once {name : String} {current : σ → Option α} {assign : σ → α → σ} {r : Reader α}
    {s s' : σ} {path : NodePath}
    (h : ((Field.once name current assign r).read d s path n).Gives s') :
    current s = none ∧ ∃ x, d.Reads r n x ∧ s' = assign s x := by
  simp only [Field.once] at h
  split at h
  · obtain ⟨x, hx, -⟩ := h.exists_of_bind
    exact absurd hx Reading.not_gives_mismatch
  · rename_i hnone
    obtain ⟨x, hx, h⟩ := h.exists_of_bind
    exact ⟨by simpa using hnone, x, ⟨path, hx⟩, (Reading.gives_pure_iff.1 h).symm⟩

/-- Reading a field does not change some other part of the record. -/
def Keeps (current : σ → Option α) (f : Field σ) : Prop :=
  ∀ (d : Document) (s s' : σ) (path : NodePath) (n : Node), (f.read d s path n).Gives s' →
    current s' = current s

lemma keeps_once {name : String} {current : σ → Option α} {own : σ → Option β}
    {assign : σ → β → σ} {r : Reader β} (h : ∀ s x, current (assign s x) = current s) :
    Keeps current (.once name own assign r) := by
  intro d s s' path n hgives
  obtain ⟨-, x, -, rfl⟩ := gives_once hgives
  exact h s x

section Record

variable {name : String} {start s : σ} {fields : List (Field σ)} {missing : σ → Option String}
  {field : String} {current : σ → Option α} {assign : σ → α → σ} {r : Reader α}

/-- The field is one of those of a record, and its value is not changed by the other fields. -/
structure HasField (fields : List (Field σ)) (field : String) (current : σ → Option α)
    (assign : σ → α → σ) (r : Reader α) : Prop where
  find : fields.find? (·.name == field) = some (.once field current assign r)
  current_assign : ∀ s x, current (assign s x) = some x
  current_other : ∀ f ∈ fields, f.name ≠ field → Keeps current f

/-- Of the entries of a record at most one has the name of a field, and its node is read as the
value of the field. -/
lemma HasField.reads_of_folds (hfield : HasField fields field current assign r)
    {ws : List (String × Node)} {s s' : σ}
    (h : Folds (fun key s node s' => ∃ path,
      (match fields.find? (·.name == key) with
        | some f => f.read d s path node
        | none => do
          Reader.ignore d path node
          return s : Reading σ).Gives s') ws s s') :
    (∀ x, current s = some x →
      (ws.filter (·.1 == field)).map (·.2) = [] ∧ current s' = some x) ∧
    (current s = none →
      List.Forall₂ (d.Reads r) ((ws.filter (·.1 == field)).map (·.2)) (current s').toList) := by
  induction h with
  | nil => exact ⟨fun x hx => ⟨rfl, hx⟩, fun hnone => by simp [hnone]⟩
  | @cons key node ws s s₁ s' hstep _ ih =>
    obtain ⟨path, hstep⟩ := hstep
    by_cases hkey : key = field
    · -- the field itself, which has no value yet; from here on it has one
      subst hkey
      rw [hfield.find] at hstep
      obtain ⟨hnone, x, hx, rfl⟩ := gives_once hstep
      obtain ⟨hnil, hcurrent⟩ := ih.1 x (hfield.current_assign s x)
      refine ⟨fun y hy => ?_, fun _ => ?_⟩
      · rw [hnone] at hy
        cases hy
      · simp only [List.filter_cons, beq_self_eq_true, if_true, List.map_cons, hnil, hcurrent]
        exact .cons hx .nil
    · -- another field, or a key that is passed over
      have hsame : current s₁ = current s := by
        split at hstep
        · rename_i f hf
          have hname : f.name = key := by simpa using List.find?_some hf
          exact hfield.current_other f (List.mem_of_find?_eq_some hf) (hname ▸ hkey) d s s₁ path
            node hstep
        · obtain ⟨-, -, hstep⟩ := hstep.exists_of_bind
          rw [Reading.gives_pure_iff.1 hstep]
      have hskip : ((key, node) :: ws).filter (·.1 == field) = ws.filter (·.1 == field) := by
        simp [hkey]
      rw [hskip, ← hsame]
      exact ih

/-- The value of a field is read from the only node that is written under its name. -/
lemma Reads.record (h : d.Reads (.record name start fields missing) n s)
    (hfield : HasField fields field current assign r) (hstart : current start = none) :
    List.Forall₂ (d.Reads r) (d.under field n) (current s).toList := by
  obtain ⟨s₀, hfolds, hfinish⟩ := h.mapping
  have hs : s₀ = s := by
    split at hfinish
    · exact absurd hfinish Reading.not_gives_mismatch
    · exact Reading.gives_pure_iff.1 hfinish
  subst hs
  exact (hfield.reads_of_folds hfolds).2 hstart

end Record

lemma Reads.record_single {name field : String} {r : Reader α} {missing : Option α → Option String}
    {o : Option α}
    (h : d.Reads (.record name none [.once field id (fun _ x => some x) r] missing) n o) :
    List.Forall₂ (d.Reads r) (d.under field n) o.toList := by
  have hfield : HasField [Field.once field id (fun _ x => some x) r] field id
      (fun _ x => some x) r := by
    refine ⟨by simp [Field.once], fun _ _ => rfl, fun f hf hname => ?_⟩
    rw [List.mem_singleton.1 hf] at hname
    exact absurd rfl hname
  exact h.record hfield rfl

end Document

end ShardCheck.Yaml
