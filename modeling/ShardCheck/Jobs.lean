import ShardCheck.Yaml.Reader

/-!
# Job configurations

Jobs run before a merge, after it, or at set times. Of a job only the environments of the
containers in its pod matter here: a variable can take its value from a key of a config map.
-/

namespace ShardCheck

/-! ### Jobs -/

/-- A key of a config map. -/
structure ConfigMapKey where
  name : String
  key : String
  deriving Repr, DecidableEq

/-- Where a variable takes its value from. -/
structure ValueSource where
  configMapKey : Option ConfigMapKey
  deriving Repr, DecidableEq

/-- A variable of an environment. -/
structure EnvVar where
  name : String
  valueFrom : Option ValueSource
  deriving Repr, DecidableEq

/-- A container with its environment. -/
structure Container where
  env : List EnvVar
  deriving Repr, DecidableEq

/-- The pod that a job runs. -/
structure PodSpec where
  containers : List Container
  deriving Repr, DecidableEq

/-- A job. -/
structure Job where
  name : String
  spec : Option PodSpec
  deriving Repr, DecidableEq

/-- When a job runs. -/
inductive JobKind where
  | presubmit
  | postsubmit
  | periodic
  deriving Repr, DecidableEq

def JobKind.text : JobKind → String
  | .presubmit => "presubmit"
  | .postsubmit => "postsubmit"
  | .periodic => "periodic"

/-- The jobs of a file: those around merges by repository, and the periodic ones. -/
structure JobConfig where
  presubmits : KeyMap (List Job)
  postsubmits : KeyMap (List Job)
  periodics : List Job
  deriving DecidableEq

namespace EnvVar

/-- The variable that holds an injected configuration. -/
def configSpec : String := "CONFIG_SPEC"

/-- The config map key whose content the variable injects as a configuration. -/
def injected? (e : EnvVar) : Option ConfigMapKey :=
  if e.name == configSpec then e.valueFrom.bind (·.configMapKey) else none

end EnvVar

namespace JobConfig

def empty : JobConfig := ⟨∅, ∅, []⟩

/-- All jobs with their kinds: presubmits and postsubmits by repository, then periodics. -/
def jobs (c : JobConfig) : List (JobKind × Job) :=
  c.presubmits.values.flatten.map (.presubmit, ·) ++
    c.postsubmits.values.flatten.map (.postsubmit, ·) ++ c.periodics.map (.periodic, ·)

/-- The jobs that run a pod. -/
def jobsWithSpec (c : JobConfig) : List (JobKind × Job × PodSpec) :=
  c.jobs.filterMap fun (kind, job) => job.spec.map (kind, job, ·)

end JobConfig

/-! ### Reading -/

/-- A job, a variable or a config map key under construction: a name and one more part. -/
structure NamedDraft (α : Type) where
  name : Option String
  part : Option α

/-- Reads a record with a name and one more part. -/
def NamedDraft.reader {α : Type} (record part : String) (r : Yaml.Reader α)
    (missing : NamedDraft α → Option String) : Yaml.Reader (NamedDraft α) :=
  Yaml.Reader.record record ⟨none, none⟩
    [.once "name" NamedDraft.name (fun s x => { s with name := some x }) .string,
      .once part NamedDraft.part (fun s x => { s with part := some x }) r]
    missing

/-- Reads a record with a single part, which may be left out. -/
def singleReader {α : Type} (record part : String) (absent : α) (r : Yaml.Reader α) :
    Yaml.Reader α := fun d path n => do
  let x ← Yaml.Reader.record record (none : Option α) [.once part id (fun _ x => some x) r]
    (fun _ => none) d path n
  return x.getD absent

/-- Reads a config map key. The name of the map may be left out, the key may not. -/
def ConfigMapKey.reader : Yaml.Reader ConfigMapKey := fun d path n => do
  let draft ← NamedDraft.reader "ConfigMapKeySelector" "key" .string
    (fun s => if s.part.isNone then some "key" else none) d path n
  return ⟨draft.name.getD "", draft.part.getD ""⟩

def ValueSource.reader : Yaml.Reader ValueSource := fun d path n => do
  return ⟨← singleReader "EnvVarSource" "configMapKeyRef" none
    (.optional ConfigMapKey.reader) d path n⟩

/-- Reads a variable, which must have a name. -/
def EnvVar.reader : Yaml.Reader EnvVar := fun d path n => do
  let draft ← NamedDraft.reader "EnvVar" "valueFrom" (.optional ValueSource.reader)
    (fun s => if s.name.isNone then some "name" else none) d path n
  return ⟨draft.name.getD "", draft.part.getD none⟩

def Container.reader : Yaml.Reader Container := fun d path n => do
  return ⟨← singleReader "Container" "env" [] (.list EnvVar.reader) d path n⟩

def PodSpec.reader : Yaml.Reader PodSpec := fun d path n => do
  return ⟨← singleReader "PodSpec" "containers" [] (.list Container.reader) d path n⟩

/-- Reads a job, which must have a name. -/
def Job.reader : Yaml.Reader Job := fun d path n => do
  let draft ← NamedDraft.reader "Job" "spec" (.optional PodSpec.reader)
    (fun s => if s.name.isNone then some "name" else none) d path n
  return ⟨draft.name.getD "", draft.part.getD none⟩

namespace JobConfig

/-- A job configuration under construction. -/
structure Draft where
  presubmits : Option (KeyMap (List Job))
  postsubmits : Option (KeyMap (List Job))
  periodics : Option (List Job)

def reader : Yaml.Reader JobConfig := fun d path n => do
  let draft ← Yaml.Reader.record "JobConfig" (⟨none, none, none⟩ : Draft)
    [.once "presubmits" Draft.presubmits (fun s x => { s with presubmits := some x })
        (.map (.list Job.reader)),
      .once "postsubmits" Draft.postsubmits (fun s x => { s with postsubmits := some x })
        (.map (.list Job.reader)),
      .once "periodics" Draft.periodics (fun s x => { s with periodics := some x })
        (.list Job.reader)]
    (fun _ => none) d path n
  return ⟨draft.presubmits.getD ∅, draft.postsubmits.getD ∅, draft.periodics.getD []⟩

end JobConfig

end ShardCheck
