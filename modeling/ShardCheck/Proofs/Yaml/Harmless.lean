import Mathlib.Data.List.Pairwise
import Mathlib.Tactic.Common
import ShardCheck.Proofs.Yaml.Edit

/-!
# Harmless edits

An edit is harmless to a reader that takes an edited node for the value that it took the first node
for, wherever the two stand. The node may come from another document and from another place in it,
so its mark, its path and the aliases followed before must not matter; no alias is followed in an
edited part.
-/

namespace ShardCheck.Yaml

variable {α β σ : Type}

/-! ### Readings without aliases -/

namespace Reading

/-- A reading ends with a value and follows no alias. -/
def Returns (r : Reading α) (x : α) : Prop := ∀ count, r count = .ok (x, count)

lemma gives_bind_pure_iff {r : Reading α} {f : α → β} {y : β} :
    Gives (do return f (← r)) y ↔ ∃ x, r.Gives x ∧ f x = y := by
  constructor
  · intro h
    obtain ⟨x, hx, hy⟩ := h.exists_of_bind
    exact ⟨x, hx, gives_pure_iff.1 hy⟩
  · rintro ⟨x, ⟨n, n', hx⟩, rfl⟩
    refine ⟨n, n', ?_⟩
    change (r n >>= fun p => .ok (f p.1, p.2)) = .ok (f x, n')
    rw [hx]
    rfl

lemma returns_pure (x : α) : Returns (pure x) x := fun _ => rfl

lemma Returns.bind {r : Reading α} {f : α → Reading β} {x : α} {y : β} (h : r.Returns x)
    (hf : (f x).Returns y) : (r >>= f).Returns y := by
  intro count
  change (r count >>= fun p => f p.1 p.2) = .ok (y, count)
  rw [h count]
  exact hf count

lemma Returns.placing {r : Reading α} {x : α} (h : r.Returns x) (m : Mark) (path : NodePath) :
    (r.placing m path).Returns x := by
  intro count
  rw [Reading.placing, h count]
  rfl

end Reading

/-- Wherever the node stands, a reader takes it for a value. -/
def Document.Takes (d : Document) (r : Reader α) (n : Node) (x : α) : Prop :=
  ∀ path, (r d path n).Returns x

/-- A reader takes an edited node for the same value. A plain node that it takes for a value may
also stay as it is. -/
structure Edit.IsHarmless (e : Edit) (r : Reader α) : Prop where
  takes : ∀ ⦃d d' : Document⦄ ⦃n n' : Node⦄ ⦃x : α⦄, e.Allows n n' → d.Reads r n x → d'.Takes r n' x
  refl : ∀ ⦃d : Document⦄ ⦃n : Node⦄ ⦃x : α⦄, n.IsPlain → d.Reads r n x → e.Allows n n

namespace Edit

open Reading Document

/-! ### Scalars and lists -/

lemma resolve_scalar (d : Document) (m : Mark) (c : Scalar) :
    d.resolve (.scalar m c) = pure (.scalar m c) := rfl

lemma isHarmless_string : keep.IsHarmless .string where
  takes := by
    rintro d d' n n' x h ⟨path, hread⟩
    cases h with
    | @scalar m m' c =>
      obtain rfl : String.ofList c.text = x := gives_pure_iff.1 hread
      exact fun path => returns_pure _
    | sequence h => exact h.elim
    | mapping h => exact h.elim
  refl := by
    rintro d n x hplain ⟨path, hread⟩
    obtain ⟨s, hs, -⟩ := hread.exists_of_bind
    have htext := keyText?_of_gives_text hs
    cases hplain with
    | scalar => exact .scalar
    | sequence => cases htext
    | mapping => cases htext

lemma isHarmless_bool : keep.IsHarmless .bool where
  takes := by
    rintro d d' n n' x h ⟨path, hread⟩ path'
    cases h with
    | @scalar m m' c =>
      simp only [Reader.bool, resolve_scalar, pure_bind] at hread ⊢
      cases hbool : c.asBool? with
      | some b =>
        simp only [hbool] at hread ⊢
        rw [← gives_pure_iff.1 hread]
        exact returns_pure b
      | none => simp [hbool] at hread
    | sequence h => exact h.elim
    | mapping h => exact h.elim
  refl := by
    rintro d n x hplain ⟨path, hread⟩
    cases hplain with
    | scalar => exact .scalar
    | @sequence m =>
      change Gives ((Reading.mismatch (.wrongType .sequence .bool)).placing m path) x at hread
      simp at hread
    | @mapping m =>
      change Gives ((Reading.mismatch (.wrongType .mapping .bool)).placing m path) x at hread
      simp at hread

variable {e : Edit} {r : Reader α}

lemma IsHarmless.bind_pure (h : e.IsHarmless r) (f : α → β) :
    e.IsHarmless fun d path n => do return f (← r d path n) where
  takes := by
    rintro d d' n n' y hn ⟨path, hread⟩ path'
    obtain ⟨x, hx, rfl⟩ := gives_bind_pure_iff.1 hread
    exact (h.takes hn ⟨path, hx⟩ path').bind (returns_pure _)
  refl := by
    rintro d n y hplain ⟨path, hread⟩
    obtain ⟨x, hx, -⟩ := gives_bind_pure_iff.1 hread
    exact h.refl hplain ⟨path, hx⟩

lemma IsHarmless.optional (h : e.IsHarmless r) : e.IsHarmless (.optional r) := by
  have hsome := h.bind_pure some
  refine ⟨?_, ?_⟩
  · rintro d d' n n' o hn ⟨path, hread⟩ path'
    cases hn with
    | @scalar m m' c =>
      simp only [Reader.optional, resolve_scalar, pure_bind] at hread ⊢
      cases habsent : c.isAbsent with
      | ok b =>
        cases b with
        | true =>
          simp only [habsent] at hread ⊢
          rw [← gives_pure_iff.1 hread]
          exact returns_pure none
        | false =>
          simp only [habsent] at hread ⊢
          exact hsome.takes .scalar ⟨path, hread⟩ path'
      | error tag => simp [habsent] at hread
    | @sequence m m' ns ns' hns => exact hsome.takes (.sequence hns) ⟨path, hread⟩ path'
    | @mapping m m' es es' hes => exact hsome.takes (.mapping hes) ⟨path, hread⟩ path'
  · rintro d n o hplain ⟨path, hread⟩
    cases hplain with
    | scalar => exact .scalar
    | sequence hns => exact hsome.refl (.sequence hns) ⟨path, hread⟩
    | mapping hnames hnodup hes => exact hsome.refl (.mapping hnames hnodup hes) ⟨path, hread⟩

lemma returns_items {d : Document} {ns : List Node} {xs : List α}
    (h : List.Forall₂ (d.Takes r) ns xs) (path : NodePath) (i : Nat) :
    (Reader.items r d path i ns).Returns xs := by
  induction h generalizing i with
  | nil => exact returns_pure []
  | cons hx _ ih => exact (hx _).bind ((ih (i + 1)).bind (returns_pure _))

lemma forall₂_takes (h : e.IsHarmless r) {d d' : Document} {ns ns' : List Node} {xs : List α}
    (hns : List.Forall₂ e.Allows ns ns') (hxs : List.Forall₂ (d.Reads r) ns xs) :
    List.Forall₂ (d'.Takes r) ns' xs := by
  induction hns generalizing xs with
  | nil =>
    cases hxs
    exact .nil
  | cons hn _ ih =>
    cases hxs with
    | cons hx hxs => exact .cons (h.takes hn hx) (ih hxs)

lemma forall₂_refl (h : e.IsHarmless r) {d : Document} {ns : List Node} {xs : List α}
    (hns : ∀ n ∈ ns, n.IsPlain) (hxs : List.Forall₂ (d.Reads r) ns xs) :
    List.Forall₂ e.Allows ns ns := by
  induction hxs with
  | nil => exact .nil
  | cons hx _ ih =>
    obtain ⟨hn, hns⟩ := List.forall_mem_cons.1 hns
    exact .cons (h.refl hn hx) (ih hns)

lemma IsHarmless.list (h : e.IsHarmless r) : e.list.IsHarmless (.list r) where
  takes := by
    intro d d' n n' xs hn hread path'
    cases hn with
    | @scalar m m' c =>
      obtain ⟨path, hread⟩ := hread
      change Gives (if c.isMissing then pure []
        else (Reading.mismatch (c.mismatch .sequence)).placing m path) xs at hread
      change Returns (if c.isMissing then pure []
        else (Reading.mismatch (c.mismatch .sequence)).placing m' path') xs
      split at hread
      · rename_i hmissing
        rw [if_pos hmissing, ← gives_pure_iff.1 hread]
        exact returns_pure []
      · simp at hread
    | @sequence m m' ns ns' hns =>
      exact (returns_items (forall₂_takes h hns hread.list) path' 0).placing m' path'
    | mapping h => exact h.elim
  refl := by
    intro d n xs hplain hread
    cases hplain with
    | scalar => exact .scalar
    | @sequence m ns hns => exact .list (forall₂_refl h hns hread.list)
    | @mapping m =>
      obtain ⟨path, hread⟩ := hread
      change Gives ((Reading.mismatch (.wrongType .mapping .sequence)).placing m path) xs at hread
      simp at hread

/-! ### Steps over entries -/

end Edit

section Steps

variable {step step' : String → σ → Node → σ → Prop} {ws ws' : List (String × Node)} {s s' : σ}

open Document Edit

/-- Steps for two entries may be taken in the other order. -/
def Swaps (step : String → σ → Node → σ → Prop) (w w' : String × Node) : Prop :=
  ∀ ⦃s s₁ s' : σ⦄, step w.1 s w.2 s₁ → step w'.1 s₁ w'.2 s' →
    ∃ s₂, step w'.1 s w'.2 s₂ ∧ step w.1 s₂ w.2 s'

lemma Document.Folds.perm (h : Folds step ws s s') (hperm : ws.Perm ws')
    (hswaps : ws.Pairwise fun w w' => Swaps step w w' ∧ Swaps step w' w) : Folds step ws' s s' := by
  induction hperm generalizing s with
  | nil => exact h
  | cons w _ ih =>
    cases h with
    | cons hstep hrest => exact .cons hstep (ih hrest (List.pairwise_cons.1 hswaps).2)
  | swap w w' ws =>
    -- the only case in which steps change places
    cases h with
    | cons hstep hrest =>
      cases hrest with
      | cons hstep' hrest =>
        have hswap := ((List.pairwise_cons.1 hswaps).1 _ List.mem_cons_self).1
        obtain ⟨s₂, hfirst, hsecond⟩ := hswap hstep hstep'
        exact .cons hfirst (.cons hsecond hrest)
  | trans hperm _ ih ih' =>
    exact ih' (ih h hswaps) ((hperm.pairwise_iff fun h => h.symm).1 hswaps)

/-- Steps for the entries of a mapping can be taken for edited entries instead, if this can be done
for every known entry, and others need no step. -/
lemma Edit.Entries.folds {known : String → Option Edit} {es es' : List (Node × Node)}
    (h : Entries known es es')
    (hswaps : (named es).Pairwise fun w w' => Swaps step w w' ∧ Swaps step w' w)
    (hedit : ∀ ⦃name e v v' s s'⦄, known name = some e → e.Allows v v' → step name s v s' →
      step' name s v' s')
    (htake : ∀ ⦃name v s s'⦄, known name = none → step name s v s' → s' = s)
    (hput : ∀ ⦃name v⦄, known name = none → v.isBroken = false → ∀ s, step' name s v s)
    (hfolds : Folds step (named es) s s') : Folds step' (named es') s s' := by
  induction h generalizing s with
  | nil =>
    cases hfolds
    exact .nil
  | edit hname hk hk' hv _ ih =>
    rw [named_cons hk] at hswaps hfolds
    rw [named_cons hk']
    cases hfolds with
    | cons hstep hrest =>
      exact .cons (hedit hname hv hstep) (ih (List.pairwise_cons.1 hswaps).2 hrest)
  | take hname hk _ ih =>
    rw [named_cons hk] at hswaps hfolds
    cases hfolds with
    | cons hstep hrest =>
      obtain rfl := htake hname hstep
      exact ih (List.pairwise_cons.1 hswaps).2 hrest
  | put hname hk hv _ ih =>
    rw [named_cons hk]
    exact .cons (hput hname hv s) (ih hswaps hfolds)
  -- the steps of the one text are put into the order of the other before the induction goes on
  | perm hperm _ ih =>
    have hnamed := named_perm hperm
    exact ih ((hnamed.pairwise_iff fun h => h.symm).1 hswaps) (hfolds.perm hnamed hswaps)

/-- Entries may stay as they are if this holds of all known ones, and others have no lost part. -/
lemma Edit.Entries.refl {known : String → Option Edit} {es : List (Node × Node)}
    (hnames : HaveNames es) (hplain : ∀ e ∈ es, e.2.IsPlain)
    (hedit : ∀ ⦃name e v s s'⦄, known name = some e → v.IsPlain → step name s v s' → e.Allows v v)
    (hother : ∀ ⦃name v s s'⦄, known name = none → step name s v s' → v.isBroken = false)
    (hfolds : Folds step (named es) s s') : Entries known es es := by
  induction es generalizing s with
  | nil => exact .nil
  | cons e es ih =>
    obtain ⟨k, v⟩ := e
    obtain ⟨⟨name, hname⟩, hnames⟩ := List.forall_mem_cons.1 hnames
    obtain ⟨hv, hplain⟩ := List.forall_mem_cons.1 hplain
    rw [named_cons hname] at hfolds
    cases hfolds with
    | cons hstep hrest =>
      cases hknown : known name with
      | some e => exact .edit hknown hname hname (hedit hknown hv hstep) (ih hnames hplain hrest)
      | none =>
        exact .take hknown hname
          (.put hknown hname (hother hknown hstep) (ih hnames hplain hrest))

lemma Document.Folds.returns_foldEntries {d : Document} {expected : Expected}
    {entry : String → σ → NodePath → Node → Reading σ} {es : List (Node × Node)}
    (hnames : HaveNames es)
    (h : Folds (fun key s node s' => ∀ path, (entry key s path node).Returns s') (named es) s s')
    (path : NodePath) : (Reader.foldEntries d path expected entry es s).Returns s' := by
  induction es generalizing s with
  | nil =>
    cases h
    exact Reading.returns_pure _
  | cons e es ih =>
    obtain ⟨k, v⟩ := e
    obtain ⟨⟨name, hname⟩, hes⟩ := List.forall_mem_cons.1 hnames
    obtain ⟨m, c, rfl, rfl⟩ := Node.exists_of_text?_eq hname
    rw [named_cons hname] at h
    cases h with
    | cons hstep hrest =>
      have htext : (Reader.text expected d path (.scalar m c)).Returns c.text :=
        Reading.returns_pure _
      exact htext.bind ((hstep _).bind (ih hes hrest))

end Steps

/-! ### Mappings -/

namespace Edit

open Reading Document

section Mapping

variable {e : Edit} {start : σ} {entry : Document → String → σ → NodePath → Node → Reading σ}
  {finish : σ → Reading σ} {expectedValue expectedKey : Expected}

/-- A reader of mappings takes edited entries for the same value if it comes to the same state by
steps that follow no alias. -/
lemma isHarmless_mapping (hitems : ∀ ns ns', ¬ e.items ns ns')
    (hfinish : ∀ s s', (finish s).Gives s' → (finish s).Returns s')
    (hentries : ∀ d d' ⦃es es' s⦄, e.entries es es' →
      Folds (fun key s node s' => ∃ path, (entry d key s path node).Gives s')
        (d.namedEntries es) start s →
      HaveNames es' ∧ Folds (fun key s node s' => ∀ path, (entry d' key s path node).Returns s')
        (named es') start s)
    (hrefl : ∀ ⦃d es s⦄, HaveNames es → ((named es).map Prod.fst).Nodup →
      (∀ e ∈ es, e.2.IsPlain) →
      Folds (fun key s node s' => ∃ path, (entry d key s path node).Gives s') (named es) start s →
      e.entries es es) :
    e.IsHarmless (.mapping expectedValue expectedKey start entry finish) where
  takes := by
    intro d d' n n' x hn hread path'
    cases hn with
    | @scalar m m' c =>
      -- a value left out is a mapping without entries
      obtain ⟨path, hread⟩ := hread
      change Gives (if c.isMissing then (finish start).placing m path
        else (Reading.mismatch (c.mismatch expectedValue)).placing m path) x at hread
      change Returns (if c.isMissing then (finish start).placing m' path'
        else (Reading.mismatch (c.mismatch expectedValue)).placing m' path') x
      split at hread
      · rename_i hmissing
        rw [if_pos hmissing]
        exact (hfinish _ _ (gives_placing_iff.1 hread)).placing m' path'
      · simp at hread
    | sequence h => exact absurd h (hitems _ _)
    | @mapping m m' es es' hes =>
      obtain ⟨s, hfolds, hx⟩ := hread.mapping
      obtain ⟨hnames, hfolds'⟩ := hentries d d' hes hfolds
      exact ((hfolds'.returns_foldEntries hnames path').bind (hfinish _ _ hx)).placing m' path'
  refl := by
    intro d n x hplain hread
    cases hplain with
    | scalar => exact .scalar
    | @sequence m =>
      obtain ⟨path, hread⟩ := hread
      change Gives ((Reading.mismatch (.wrongType .sequence expectedValue)).placing m path) x
        at hread
      simp at hread
    | @mapping m es hnames hnodup hes =>
      obtain ⟨s, hfolds, -⟩ := hread.mapping
      have hwritten : d.written (.mapping m es) = named es := namedEntries_eq hnames
      rw [hwritten] at hfolds
      exact .mapping (hrefl hnames hnodup hes hfolds)

end Mapping

lemma swaps_insert {d : Document} {r : Reader α} {w w' : String × Node} (hne : w.1 ≠ w'.1) :
    Swaps (fun key (m : KeyMap α) node m' => ∃ path,
      (do return m.insert key (← r d path node) : Reading (KeyMap α)).Gives m') w w' := by
  rintro m m₁ m₂ ⟨path, hfirst⟩ ⟨path', hsecond⟩
  obtain ⟨x, hx, rfl⟩ := gives_bind_pure_iff.1 hfirst
  obtain ⟨y, hy, rfl⟩ := gives_bind_pure_iff.1 hsecond
  exact ⟨m.insert w'.1 y, ⟨path', gives_bind_pure_iff.2 ⟨y, hy, rfl⟩⟩, path,
    gives_bind_pure_iff.2 ⟨x, hx, KeyMap.insert_comm m hne.symm y x⟩⟩

lemma IsHarmless.map {value : Edit} {r : Reader α} (h : value.IsHarmless r) :
    value.map.IsHarmless (.map r) := by
  refine isHarmless_mapping (fun _ _ => id) ?_ ?_ ?_
  · intro m m' hm
    rw [← gives_pure_iff.1 hm]
    exact returns_pure m
  · rintro d d' es es' m ⟨hnodup, hes⟩ hfolds
    obtain ⟨hnames, hnames'⟩ := hes.haveNames
    rw [namedEntries_eq hnames] at hfolds
    refine ⟨hnames', hes.folds ?_ ?_ (fun _ _ _ _ => nofun) (fun _ _ => nofun) hfolds⟩
    · exact (List.pairwise_map.1 hnodup).imp fun hne => ⟨swaps_insert hne, swaps_insert hne.symm⟩
    · rintro name e v v' m m' he hv ⟨path, hstep⟩ path'
      obtain rfl := Option.some.inj he
      obtain ⟨x, hx, rfl⟩ := gives_bind_pure_iff.1 hstep
      exact (h.takes hv ⟨path, hx⟩ _).bind (returns_pure _)
  · intro d es m hnames hnodup hplain hfolds
    refine ⟨hnodup, .refl hnames hplain ?_ (fun _ _ _ _ => nofun) hfolds⟩
    rintro name e v m m' he hv ⟨path, hstep⟩
    obtain rfl := Option.some.inj he
    obtain ⟨x, hx, -⟩ := gives_bind_pure_iff.1 hstep
    exact h.refl hv ⟨path, hx⟩

end Edit

/-! ### Records -/

namespace Field

open Reading Document

/-- A node is read for a field, which changes the record. -/
def Steps (f : Field σ) (d : Document) (s : σ) (n : Node) (s' : σ) : Prop :=
  ∃ path, (f.read d s path n).Gives s'

/-- A field that was read is not read again. -/
def IsOnce (f : Field σ) : Prop :=
  ∀ ⦃d s n s₁ n' s'⦄, f.Steps d s n s₁ → ¬ f.Steps d s₁ n' s'

def Commute (f g : Field σ) : Prop :=
  ∀ d s n n' s', (∃ s₁, f.Steps d s n s₁ ∧ g.Steps d s₁ n' s') ↔
    ∃ s₁, g.Steps d s n' s₁ ∧ f.Steps d s₁ n s'

instance : Std.Symm (Commute : Field σ → Field σ → Prop) :=
  ⟨fun _ _ h d s n n' s' => (h d s n' n s').symm⟩

/-- Every field is read once, and any two of them in either order. -/
structure AreIndependent (fields : List (Field σ)) : Prop where
  once : ∀ f ∈ fields, f.IsOnce
  commute : fields.Pairwise Commute

lemma AreIndependent.nil : AreIndependent ([] : List (Field σ)) :=
  ⟨fun _ hf => absurd hf List.not_mem_nil, .nil⟩

lemma AreIndependent.cons {f : Field σ} {fields : List (Field σ)} (hf : f.IsOnce)
    (hcommute : ∀ g ∈ fields, f.Commute g) (h : AreIndependent fields) :
    AreIndependent (f :: fields) :=
  ⟨List.forall_mem_cons.2 ⟨hf, h.once⟩, List.pairwise_cons.2 ⟨hcommute, h.commute⟩⟩

section Once

variable {name name' : String} {current : σ → Option α} {assign : σ → α → σ} {r : Reader α}
  {current' : σ → Option β} {assign' : σ → β → σ} {r' : Reader β}

lemma steps_once_iff {d : Document} {s s' : σ} {n : Node} :
    (once name current assign r).Steps d s n s' ↔
      current s = none ∧ ∃ x, d.Reads r n x ∧ assign s x = s' := by
  constructor
  · rintro ⟨path, h⟩
    obtain ⟨hnone, x, hx, rfl⟩ := gives_once h
    exact ⟨hnone, x, hx, rfl⟩
  · rintro ⟨hnone, x, ⟨path, hx⟩, rfl⟩
    refine ⟨path, ?_⟩
    simp only [once, hnone, Option.isSome_none, Bool.false_eq_true, if_false]
    exact gives_bind_pure_iff.2 ⟨x, hx, rfl⟩

lemma isOnce_once (h : ∀ s x, current (assign s x) = some x) :
    (once name current assign r).IsOnce := by
  intro d s n s₁ n' s' hfirst hsecond
  obtain ⟨-, x, -, rfl⟩ := steps_once_iff.1 hfirst
  obtain ⟨hnone, -⟩ := steps_once_iff.1 hsecond
  rw [h] at hnone
  cases hnone

lemma commute_once (h : ∀ s x, current' (assign s x) = current' s)
    (h' : ∀ s y, current (assign' s y) = current s)
    (hassign : ∀ s x y, assign' (assign s x) y = assign (assign' s y) x) :
    Commute (once name current assign r) (once name' current' assign' r') := by
  intro d s n n' s'
  simp only [steps_once_iff]
  constructor
  · rintro ⟨_, ⟨hnone, x, hx, rfl⟩, hnone', y, hy, rfl⟩
    rw [h] at hnone'
    exact ⟨_, ⟨hnone', y, hy, rfl⟩, (h' s y).trans hnone, x, hx, (hassign s x y).symm⟩
  · rintro ⟨_, ⟨hnone', y, hy, rfl⟩, hnone, x, hx, rfl⟩
    rw [h'] at hnone
    exact ⟨_, ⟨hnone, x, hx, rfl⟩, (h s x).trans hnone', y, hy, hassign s x y⟩

lemma areIndependent_single (h : ∀ s x, current (assign s x) = some x) :
    AreIndependent [once name current assign r] :=
  .cons (isOnce_once h) (fun _ hg => absurd hg List.not_mem_nil) .nil

end Once

end Field

namespace Edit

open Reading Document Yaml.Field

/-- A field takes an edited node for the same value. -/
structure IsHarmlessField (e : Edit) (f : Field σ) : Prop where
  returns : ∀ ⦃d d' : Document⦄ ⦃n n' : Node⦄ ⦃s s' : σ⦄, e.Allows n n' → f.Steps d s n s' →
    ∀ path, (f.read d' s path n').Returns s'
  refl : ∀ ⦃d : Document⦄ ⦃n : Node⦄ ⦃s s' : σ⦄, n.IsPlain → f.Steps d s n s' → e.Allows n n

lemma IsHarmless.once {e : Edit} {r : Reader α} (h : e.IsHarmless r) {name : String}
    {current : σ → Option α} {assign : σ → α → σ} :
    e.IsHarmlessField (.once name current assign r) where
  returns := by
    intro d d' n n' s s' hn hsteps path
    obtain ⟨hnone, x, hx, rfl⟩ := steps_once_iff.1 hsteps
    simp only [Field.once, hnone, Option.isSome_none, Bool.false_eq_true, if_false]
    exact (h.takes hn hx path).bind (returns_pure _)
  refl := by
    intro d n s s' hplain hsteps
    obtain ⟨-, x, hx, -⟩ := steps_once_iff.1 hsteps
    exact h.refl hplain hx

/-- Every field has an edit that is harmless to it. -/
def AreHarmless (edits : List (String × Edit)) (fields : List (Field σ)) : Prop :=
  List.Forall₂ (fun e f => f.name = e.1 ∧ e.2.IsHarmlessField f) edits fields

section Record

variable {edits : List (String × Edit)} {fields : List (Field σ)} {key : String}

lemma AreHarmless.find? (h : AreHarmless edits fields) (key : String) :
    edits.lookup key = none ∧ fields.find? (·.name == key) = none ∨
      ∃ e f, edits.lookup key = some e ∧ fields.find? (·.name == key) = some f ∧
        e.IsHarmlessField f := by
  induction h with
  | nil => exact .inl ⟨rfl, rfl⟩
  | @cons e f edits fields hf _ ih =>
    obtain ⟨name, e⟩ := e
    obtain ⟨hname, hf⟩ := hf
    by_cases hkey : key = name
    · have hfirst : f.name = key := hname.trans hkey.symm
      exact .inr ⟨e, f, by simp [hkey], by simp [hfirst], hf⟩
    · have hb : (key == name) = false := by simpa using hkey
      have hfirst : f.name ≠ key := fun heq => hkey (heq.symm.trans hname)
      rw [List.lookup_cons, hb, List.find?_cons_of_neg (by simpa using hfirst)]
      exact ih

lemma AreHarmless.find?_eq_none (h : AreHarmless edits fields) (hkey : edits.lookup key = none) :
    fields.find? (·.name == key) = none := by
  rcases h.find? key with ⟨-, hnone⟩ | ⟨e, f, he, -⟩
  · exact hnone
  · simp [hkey] at he

lemma AreHarmless.exists_find? (h : AreHarmless edits fields) {e : Edit}
    (hkey : edits.lookup key = some e) :
    ∃ f, fields.find? (·.name == key) = some f ∧ e.IsHarmlessField f := by
  rcases h.find? key with ⟨hnone, -⟩ | ⟨e', f, he', hf, hharmless⟩
  · simp [hkey] at hnone
  · obtain rfl : e' = e := Option.some.inj (he'.symm.trans hkey)
    exact ⟨f, hf, hharmless⟩

/-- An entry is read for the field of its name, or it is passed over. -/
def EntrySteps (fields : List (Field σ)) (d : Document) (key : String) (s : σ) (n : Node)
    (s' : σ) : Prop :=
  ∃ path, (match fields.find? (·.name == key) with
    | some f => f.read d s path n
    | none => do
      Reader.ignore d path n
      return s : Reading σ).Gives s'

variable {d : Document} {s s' : σ} {n : Node} {f : Field σ}

lemma entrySteps_of_some (hf : fields.find? (·.name == key) = some f) :
    EntrySteps fields d key s n s' ↔ f.Steps d s n s' := by
  rw [EntrySteps, hf]
  rfl

lemma entrySteps_of_none (hf : fields.find? (·.name == key) = none) :
    EntrySteps fields d key s n s' ↔ d.Reads Reader.ignore n () ∧ s = s' := by
  rw [EntrySteps, hf]
  constructor
  · rintro ⟨path, h⟩
    obtain ⟨_, hignore, rfl⟩ := gives_bind_pure_iff.1 h
    exact ⟨⟨path, hignore⟩, rfl⟩
  · rintro ⟨⟨path, hignore⟩, rfl⟩
    exact ⟨path, gives_bind_pure_iff.2 ⟨(), hignore, rfl⟩⟩

/-- Any two entries may be read in either order, for no field is read twice. -/
lemma swaps_entries (hfields : AreIndependent fields) (w w' : String × Node) :
    Swaps (EntrySteps fields d) w w' := by
  intro s s₁ s' hfirst hsecond
  cases hf : fields.find? (·.name == w.1) with
  | none =>
    obtain ⟨hignore, rfl⟩ := (entrySteps_of_none hf).1 hfirst
    exact ⟨s', hsecond, (entrySteps_of_none hf).2 ⟨hignore, rfl⟩⟩
  | some f =>
    cases hg : fields.find? (·.name == w'.1) with
    | none =>
      obtain ⟨hignore, rfl⟩ := (entrySteps_of_none hg).1 hsecond
      exact ⟨s, (entrySteps_of_none hg).2 ⟨hignore, rfl⟩, hfirst⟩
    | some g =>
      rw [entrySteps_of_some hf] at hfirst
      rw [entrySteps_of_some hg] at hsecond
      simp only [entrySteps_of_some hf, entrySteps_of_some hg]
      have hmem := List.mem_of_find?_eq_some hf
      by_cases hfg : f = g
      · subst hfg
        exact absurd hsecond (hfields.once f hmem hfirst)
      · have hcommute := hfields.commute.forall hmem (List.mem_of_find?_eq_some hg) hfg
        exact (hcommute d s w.2 w'.2 s').1 ⟨s₁, hfirst, hsecond⟩

/-- Harmless edits of all fields make one of the record, if the fields are independent. -/
lemma isHarmless_record (hedits : AreHarmless edits fields) (hfields : AreIndependent fields)
    {name : String} {start : σ} {missing : σ → Option String} :
    (record edits).IsHarmless (.record name start fields missing) := by
  refine isHarmless_mapping (fun _ _ => id) ?finish ?entries ?refl
  case finish =>
    intro s s' hs
    split at hs
    · exact absurd hs not_gives_mismatch
    · rw [← gives_pure_iff.1 hs]
      exact returns_pure s
  case entries =>
    intro d d' es es' s hes h
    obtain ⟨hnames, hnames'⟩ := hes.haveNames
    rw [namedEntries_eq hnames] at h
    change Folds (EntrySteps fields d) (named es) start s at h
    -- fields are independent, so steps may be taken in any order
    have hswaps : (named es).Pairwise fun w w' =>
        Swaps (EntrySteps fields d) w w' ∧ Swaps (EntrySteps fields d) w' w :=
      List.pairwise_of_forall fun w w' => ⟨swaps_entries hfields w w', swaps_entries hfields w' w⟩
    refine ⟨hnames', hes.folds hswaps ?edit ?take ?put h⟩
    case edit =>
      intro key e v v' s s' he hv hstep path
      obtain ⟨f, hf, hharmless⟩ := hedits.exists_find? he
      simp only [hf]
      exact hharmless.returns hv ((entrySteps_of_some hf).1 hstep) path
    case take =>
      intro key v s s' hkey hstep
      exact ((entrySteps_of_none (hedits.find?_eq_none hkey)).1 hstep).2.symm
    -- a key that is no field is passed over, whatever its value
    case put =>
      intro key v hkey hv s path
      have hignore : (Reader.ignore d' path v).Returns () := by
        rw [Reader.ignore, hv]
        exact returns_pure ()
      simp only [hedits.find?_eq_none hkey]
      exact hignore.bind (returns_pure s)
  case refl =>
    intro d es s hnames _ hplain h
    change Folds (EntrySteps fields d) (named es) start s at h
    refine .refl hnames hplain ?edit ?other h
    case edit =>
      intro key e v s s' he hv hstep
      obtain ⟨f, hf, hharmless⟩ := hedits.exists_find? he
      exact hharmless.refl hv ((entrySteps_of_some hf).1 hstep)
    case other =>
      intro key v s s' hkey hstep
      obtain ⟨⟨path, hignore⟩, -⟩ := (entrySteps_of_none (hedits.find?_eq_none hkey)).1 hstep
      rw [Reader.ignore] at hignore
      split at hignore
      · exact absurd hignore not_gives_lostHere
      · simpa using ‹¬ v.isBroken = true›

end Record

end Edit

end ShardCheck.Yaml
