import Mathlib.Tactic.Common
import ShardCheck.Injection
import ShardCheck.Proofs.Inventory
import ShardCheck.Proofs.Listing

/-!
# References to configurations

A variable of a container of a job can take its value from a config map. The references of a job
file are those of its variables, in the order in which the file lists jobs, containers and
variables, and each names the place of its container. What is wrong with references is found in
their order.
-/

namespace ShardCheck

/-! ### Places in a job file -/

/-- The place of a job in a file. -/
inductive JobPlace where
  | presubmit (repo : String) (position : Nat)
  | postsubmit (repo : String) (position : Nat)
  | periodic (position : Nat)

namespace JobPlace

def kind : JobPlace → JobKind
  | .presubmit _ _ => .presubmit
  | .postsubmit _ _ => .postsubmit
  | .periodic _ => .periodic

/-- The order of repositories and positions: the bytes of the repository, then the position. -/
abbrev BeforeInMap : String × Nat → String × Nat → Prop :=
  Prod.Lex (InvImage (· < ·) Text.bytes) (· < ·)

/-- The order of jobs: presubmits, postsubmits, periodics. -/
def Before : JobPlace → JobPlace → Prop
  | .presubmit repo n, .presubmit repo' n' | .postsubmit repo n, .postsubmit repo' n' =>
    BeforeInMap (repo, n) (repo', n')
  | .periodic n, .periodic n' => n < n'
  | .presubmit _ _, _ | .postsubmit _ _, .periodic _ => True
  | _, _ => False

instance : Std.Asymm Before where
  asymm
    | .presubmit _ _, .presubmit _ _, h, h' => asymm_of BeforeInMap h h'
    | .postsubmit _ _, .postsubmit _ _, h, h' => asymm_of BeforeInMap h h'
    | .periodic _, .periodic _, h, h' => Nat.lt_asymm h h'

end JobPlace

/-- The place of a variable in a job file. -/
structure Site where
  job : JobPlace
  container : Nat
  env : Nat

/-- The order of variables: by the job, then by the container in its pod, then by the variable in
its environment. -/
def Site.Before : Site → Site → Prop :=
  InvImage (Prod.Lex JobPlace.Before (Prod.Lex (· < ·) (· < ·))) fun s =>
    (s.job, s.container, s.env)

instance : Std.Asymm Site.Before :=
  InvImage.asymm _

namespace JobConfig

def jobAt? (c : JobConfig) : JobPlace → Option Job
  | .presubmit repo n => (c.presubmits.get? repo).bind (·[n]?)
  | .postsubmit repo n => (c.postsubmits.get? repo).bind (·[n]?)
  | .periodic n => c.periodics[n]?

/-- The variable at a place takes a configuration from a config map, and this is the reference. -/
def HasReferenceAt (c : JobConfig) (sourceFile : String) (s : Site) (x : InjectionReference) :
    Prop :=
  ∃ job spec container v key, c.jobAt? s.job = some job ∧ job.spec = some spec ∧
    spec.containers[s.container]? = some container ∧ container.env[s.env]? = some v ∧
    v.name = "CONFIG_SPEC" ∧ v.valueFrom = some ⟨some key⟩ ∧
    x = ⟨key.key, key.name, ⟨sourceFile, s.job.kind, job.name, s.container⟩⟩

end JobConfig

/-! ### The references of a file -/

lemma EnvVar.injected?_eq_some_iff {v : EnvVar} {key : ConfigMapKey} :
    v.injected? = some key ↔ v.name = "CONFIG_SPEC" ∧ v.valueFrom = some ⟨some key⟩ := by
  rw [injected?, configSpec]
  split
  · rename_i hname
    rw [beq_iff_eq] at hname
    simp only [hname, true_and, Option.bind_eq_some_iff]
    constructor
    · rintro ⟨⟨_⟩, hsource, rfl⟩
      exact hsource
    · intro hsource
      exact ⟨_, hsource, rfl⟩
  · rename_i hname
    simp_all

/-- The references of a pod are those of its variables, by container and then by variable. -/
lemma PodSpec.isListing_references (spec : PodSpec) (sourceFile : String) (kind : JobKind)
    (job : String) :
    IsListing (Prod.Lex (· < ·) (· < ·))
      (fun (p : Nat × Nat) (x : InjectionReference) =>
        ∃ (container : Container) (v : EnvVar) (key : ConfigMapKey),
          spec.containers[p.1]? = some container ∧ container.env[p.2]? = some v ∧
          v.injected? = some key ∧ x = ⟨key.key, key.name, ⟨sourceFile, kind, job, p.1⟩⟩)
      (spec.references sourceFile kind job) := by
  have henv : ∀ container : Container × Nat, IsListing (· < ·)
      (fun (i : Nat) (x : InjectionReference) => ∃ key : ConfigMapKey,
        (∃ v, container.1.env[i]? = some v ∧ v.injected? = some key) ∧
          ⟨key.key, key.name, ⟨sourceFile, kind, job, container.2⟩⟩ = x)
      ((container.1.env.filterMap EnvVar.injected?).map fun key =>
        ⟨key.key, key.name, ⟨sourceFile, kind, job, container.2⟩⟩) := fun container =>
    ((isListing_getElem? container.1.env).filterMap EnvVar.injected?).map _
  refine ((isListing_zipIdx spec.containers).flatMap henv).congr fun p x => ?_
  constructor
  · rintro ⟨container, v, key, hcontainer, hv, hkey, rfl⟩
    exact ⟨(container, p.1), ⟨rfl, hcontainer⟩, key, ⟨v, hv, hkey⟩, rfl⟩
  · rintro ⟨⟨container, i⟩, ⟨rfl, hcontainer⟩, key, ⟨v, hv, hkey⟩, rfl⟩
    exact ⟨container, v, key, hcontainer, hv, hkey, rfl⟩

namespace JobConfig

/-- The jobs of all repositories are listed by repository and position. -/
lemma isListing_flatten_values (jobs : KeyMap (List Job)) (kind : JobKind)
    (place : String → Nat → JobPlace)
    (hbefore : ∀ p q, JobPlace.BeforeInMap p q → (place p.1 p.2).Before (place q.1 q.2)) :
    IsListing JobPlace.Before
      (fun p x => ∃ repo n, p = place repo n ∧ x.1 = kind ∧
        (jobs.get? repo).bind (·[n]?) = some x.2)
      (jobs.values.flatten.map (kind, ·)) := by
  have hjobs := ((isListing_values jobs).flatMap isListing_getElem?).map (kind, ·)
  rw [List.flatMap_id'] at hjobs
  refine hjobs.relabel (fun p => place p.1 p.2) hbefore fun p x => ?_
  simp only [Option.bind_eq_some_iff, Prod.exists]
  constructor
  · rintro ⟨repo, n, rfl, rfl, js, hjs, hjob⟩
    exact ⟨repo, n, rfl, x.2, ⟨js, hjs, hjob⟩, rfl⟩
  · rintro ⟨repo, n, rfl, job, ⟨js, hjs, hjob⟩, rfl⟩
    exact ⟨repo, n, rfl, rfl, js, hjs, hjob⟩

/-- The jobs of a file are those at its places, with the kinds of the places. -/
lemma isListing_jobs (c : JobConfig) :
    IsListing JobPlace.Before (fun p x => x.1 = p.kind ∧ c.jobAt? p = some x.2) c.jobs := by
  have hpre := isListing_flatten_values c.presubmits .presubmit .presubmit
    fun _ _ h => h
  have hpost := isListing_flatten_values c.postsubmits .postsubmit .postsubmit
    fun _ _ h => h
  have hperiodic : IsListing JobPlace.Before _ (c.periodics.map (JobKind.periodic, ·)) :=
    ((isListing_getElem? c.periodics).map _).relabel .periodic (fun _ _ h => h)
      fun _ _ => Iff.rfl
  refine ((hpre.append hpost ?_).append hperiodic ?_).congr fun p x => ?_
  · rintro _ _ _ _ ⟨_, _, rfl, -⟩ ⟨_, _, rfl, -⟩
    trivial
  · rintro _ _ _ _ (⟨_, _, rfl, -⟩ | ⟨_, _, rfl, -⟩) ⟨_, rfl, -⟩ <;> trivial
  · cases p <;> simp [JobPlace.kind, jobAt?, Prod.ext_iff, eq_comm, and_comm]

lemma isListing_jobsWithSpec (c : JobConfig) :
    IsListing JobPlace.Before
      (fun p x => x.1 = p.kind ∧ c.jobAt? p = some x.2.1 ∧ x.2.1.spec = some x.2.2)
      c.jobsWithSpec := by
  refine (c.isListing_jobs.filterMap fun x => x.2.spec.map (x.1, x.2, ·)).congr fun p x => ?_
  constructor
  · rintro ⟨hkind, hjob, hspec⟩
    exact ⟨(x.1, x.2.1), ⟨hkind, hjob⟩, Option.map_eq_some_iff.2 ⟨x.2.2, hspec, rfl⟩⟩
  · rintro ⟨_, ⟨hkind, hjob⟩, hx⟩
    obtain ⟨spec, hspec, rfl⟩ := Option.map_eq_some_iff.1 hx
    exact ⟨hkind, hjob, hspec⟩

/-- The references of a file are those at its sites. -/
lemma isListing_references (c : JobConfig) (sourceFile : String) :
    IsListing Site.Before (c.HasReferenceAt sourceFile) (c.references sourceFile) := by
  have hspecs := c.isListing_jobsWithSpec.flatMap fun x =>
    x.2.2.isListing_references sourceFile x.1 x.2.1.name
  refine hspecs.relabel (fun p => (⟨p.1, p.2.1, p.2.2⟩ : Site)) (fun _ _ h => h) fun s x => ?_
  constructor
  · rintro ⟨job, spec, container, v, key, hjob, hspec, hcontainer, hv, hname, hsource, rfl⟩
    exact ⟨(s.job, s.container, s.env), rfl, (s.job.kind, job, spec), ⟨rfl, hjob, hspec⟩,
      container, v, key, hcontainer, hv, EnvVar.injected?_eq_some_iff.2 ⟨hname, hsource⟩, rfl⟩
  · rintro ⟨⟨p, i, j⟩, rfl, ⟨kind, job, spec⟩, ⟨rfl, hjob, hspec⟩, container, v, key,
      hcontainer, hv, hkey, rfl⟩
    obtain ⟨hname, hsource⟩ := EnvVar.injected?_eq_some_iff.1 hkey
    exact ⟨job, spec, container, v, key, hjob, hspec, hcontainer, hv, hname, hsource, rfl⟩

end JobConfig

/-! ### What is wrong with references -/

namespace Injection

/-- What is wrong with a reference: the index does not know its key, or leads to a record of another
bundle. -/
inductive Offends (index : ConfigIndex) (x : InjectionReference) : Failure → Prop where
  | unknown (h : index.get? x.key = none) : Offends index x (.unknownConfigKey x.location x.key)
  | wrong {record : PathRecord} (h : index.get? x.key = some record)
      (hbundle : x.bundle ≠ record.bundle) :
      Offends index x (.wrongInjectedBundle x.location x.key x.bundle record.bundle)

lemma checkReference_eq_some_iff {index : ConfigIndex} {x : InjectionReference} {f : Failure} :
    checkReference index x = some f ↔ Offends index x f := by
  rw [checkReference]
  constructor
  · intro h
    split at h
    · rename_i hkey
      cases h
      exact .unknown hkey
    · rename_i record hkey
      split at h
      · cases h
      · rename_i hbundle
        cases h
        exact .wrong hkey (by simpa using hbundle)
  · intro h
    cases h with
    | unknown hkey => simp [hkey]
    | wrong hkey hbundle => simp [hkey, hbundle]

/-- The failures are those of the references that offend, in the order of the references. -/
lemma isListing_failures (references : List InjectionReference) (index : ConfigIndex) :
    IsListing (· < ·) (fun (i : Nat) f => ∃ x, references[i]? = some x ∧ Offends index x f)
      (check references index).failures := by
  refine ((isListing_getElem? references).filterMap (checkReference index)).congr fun i f => ?_
  simp only [checkReference_eq_some_iff]

end Injection

/-- The references of a job file are the list of those at its sites, in the order of the sites. What
is wrong with a list of references is the list of what is wrong with each that offends, in their
order. -/
theorem references_and_failures_exact (c : JobConfig) (sourceFile : String) :
    (∀ xs, xs = c.references sourceFile ↔
      IsListing Site.Before (c.HasReferenceAt sourceFile) xs) ∧
    ∀ references index, (Injection.check references index).warnings = [] ∧
      ∀ failures, failures = (Injection.check references index).failures ↔
        IsListing (· < ·)
          (fun (i : Nat) f => ∃ x, references[i]? = some x ∧ Injection.Offends index x f)
          failures :=
  ⟨fun _ => (c.isListing_references sourceFile).eq_iff,
    fun references index => ⟨rfl, fun _ => (Injection.isListing_failures references index).eq_iff⟩⟩

end ShardCheck
