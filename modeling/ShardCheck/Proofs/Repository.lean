import Mathlib.Tactic.Common
import ShardCheck.Proofs.Inventory
import ShardCheck.Validate

/-!
# Repositories as they are read

A validation first reads everything and then checks what it has read. The check itself needs neither
files nor log, so it is a function of the repository that was read and of the matcher.
-/

namespace ShardCheck

/-- The source of a matcher that is there for every pattern. -/
def Matcher.source (matches? : Matcher) : MatcherSource := fun _ => .ok matches?

/-- A repository as it is read: the rules, and what is in the two trees. -/
structure Repository where
  rules : RuleSet
  configs : ConfigInventory
  jobs : JobInventory
  deriving DecidableEq

namespace Repository

def read (fs : FileSystem) (root : String) : Run Repository := do
  let rules ← liftM (fs.loadRules (Layout.pluginConfig root))
  let configs ← ConfigInventory.build fs root (Layout.configTree root)
  let jobs ← JobInventory.build fs root (Layout.jobTree root)
  return ⟨rules, configs, jobs⟩

/-- The files of both trees, configurations first. -/
def records (repo : Repository) : List PathRecord := repo.configs.records ++ repo.jobs.records

def check (repo : Repository) (matches? : Matcher) : Outcome :=
  Partition.check repo.records repo.rules matches? ++
    Injection.check repo.jobs.injections repo.configs.index

lemma isAdding_matcher (rules : RuleSet) (source : MatcherSource) :
    Run.IsAdding (rules.matcher source) := by
  unfold RuleSet.matcher
  split
  · exact Run.isAdding_pure _
  · exact Run.isAdding_throw _

lemma value_matcher (rules : RuleSet) (source : MatcherSource) :
    (rules.matcher source).value = (source rules.keys).mapError Halt.crash := by
  unfold RuleSet.matcher
  cases source rules.keys with
  | error reason => rfl
  | ok m => rfl

/-- The parts of a repository that was read are those that were read one by one. -/
lemma value_read_eq_ok_iff {fs : FileSystem} {root : String} {repo : Repository} :
    (read fs root).value = .ok repo ↔
      fs.loadRules (Layout.pluginConfig root) = .ok repo.rules ∧
        (ConfigInventory.build fs root (Layout.configTree root)).value = .ok repo.configs ∧
        (JobInventory.build fs root (Layout.jobTree root)).value = .ok repo.jobs := by
  have hjobs : ∀ rules configs, Run.IsAdding
      (JobInventory.build fs root (Layout.jobTree root) >>= fun jobs =>
        pure (⟨rules, configs, jobs⟩ : Repository)) := fun rules configs =>
    Run.isAdding_bind JobInventory.isAdding_build fun jobs => Run.isAdding_pure _
  rw [read, Run.value_bind _ fun rules =>
    Run.isAdding_bind ConfigInventory.isAdding_build (hjobs rules)]
  simp only [Run.value_bind _ (hjobs _), Run.value_bind _ fun _ => Run.isAdding_pure _,
    Run.value_liftM, Run.value_pure, Fallible.bind_eq_ok_iff, Fallible.mapError_eq_ok_iff,
    Except.ok.injEq]
  constructor
  · rintro ⟨rules, hrules, configs, hconfigs, jobs, hjobs, rfl⟩
    exact ⟨hrules, hconfigs, hjobs⟩
  · rintro ⟨hrules, hconfigs, hjobs⟩
    exact ⟨_, hrules, _, hconfigs, _, hjobs, rfl⟩

lemma isAdding_read (fs : FileSystem) (root : String) : Run.IsAdding (read fs root) :=
  Run.isAdding_bind (Run.isAdding_liftM _) fun _ =>
    Run.isAdding_bind ConfigInventory.isAdding_build fun _ =>
      Run.isAdding_bind JobInventory.isAdding_build fun _ => Run.isAdding_pure _

lemma value_read_eq_error_iff {fs : FileSystem} {root : String} {halt : Halt} :
    (read fs root).value = .error halt ↔
      (∃ e, fs.loadRules (Layout.pluginConfig root) = .error e ∧ Halt.error e = halt) ∨
        ∃ rules, fs.loadRules (Layout.pluginConfig root) = .ok rules ∧
          ((ConfigInventory.build fs root (Layout.configTree root)).value = .error halt ∨
            ∃ configs, (ConfigInventory.build fs root (Layout.configTree root)).value =
                .ok configs ∧
              (JobInventory.build fs root (Layout.jobTree root)).value = .error halt) := by
  have hjobs : ∀ rules configs, Run.IsAdding
      (JobInventory.build fs root (Layout.jobTree root) >>= fun jobs =>
        pure (⟨rules, configs, jobs⟩ : Repository)) := fun rules configs =>
    Run.isAdding_bind JobInventory.isAdding_build fun jobs => Run.isAdding_pure _
  rw [read, Run.value_bind _ fun rules =>
    Run.isAdding_bind ConfigInventory.isAdding_build (hjobs rules)]
  simp only [Run.value_bind _ (hjobs _), Run.value_bind _ fun _ => Run.isAdding_pure _,
    Run.value_liftM, Run.value_pure, Fallible.bind_eq_error_iff, Fallible.mapError_eq_error_iff,
    Fallible.mapError_eq_ok_iff, reduceCtorEq, and_false, exists_false, or_false]

/-- An event of a file of one of the two trees. -/
def IsOfFileEvent (fs : FileSystem) (root : String) (event : LogEvent) : Prop :=
  event.IsOfTree fs root (Layout.configTree root) ∨ event.IsOfTree fs root (Layout.jobTree root)

lemma logsOnly_read (fs : FileSystem) (root : String) :
    Run.LogsOnly (IsOfFileEvent fs root) (read fs root) := by
  refine Run.logsOnly_bind (Run.isAdding_liftM _)
    (fun _ => Run.isAdding_bind ConfigInventory.isAdding_build fun _ =>
      Run.isAdding_bind JobInventory.isAdding_build fun _ => Run.isAdding_pure _)
    (Run.logsOnly_liftM _) fun _ _ =>
    Run.logsOnly_bind ConfigInventory.isAdding_build
      (fun _ => Run.isAdding_bind JobInventory.isAdding_build fun _ => Run.isAdding_pure _)
      ?_ fun _ _ =>
      Run.logsOnly_bind JobInventory.isAdding_build (fun _ => Run.isAdding_pure _)
        ?_ fun _ _ => Run.logsOnly_pure _
  · intro event hevent
    exact .inl (ConfigInventory.logsOnly_build event hevent)
  · intro event hevent
    exact .inr (JobInventory.logsOnly_build event hevent)

/-- What a validation does with a repository that was read. -/
def report (repo : Repository) (source : MatcherSource) : Run Outcome := do
  Run.log .info "Loaded release repository."
    [("rules", .number repo.rules.size), ("configs", .number repo.configs.records.length),
      ("jobs", .number repo.jobs.records.length),
      ("injections", .number repo.jobs.injections.length)]
  let matches? ← repo.rules.matcher source
  return repo.check matches?

lemma validateRepo_eq (fs : FileSystem) (source : MatcherSource) (root : String) :
    validateRepo fs source root = read fs root >>= fun repo => repo.report source := by
  simp only [validateRepo, read, report, bind_assoc, pure_bind]
  rfl

lemma isAdding_report (repo : Repository) (source : MatcherSource) :
    Run.IsAdding (repo.report source) :=
  Run.isAdding_bind (Run.isLogging_log _ _ _).1 fun _ =>
    Run.isAdding_bind (isAdding_matcher _ _) fun _ => Run.isAdding_pure _

lemma value_report (repo : Repository) (source : MatcherSource) :
    (repo.report source).value = ((source repo.rules.keys).mapError Halt.crash).map repo.check := by
  rw [report, Run.value_bind _ fun _ =>
      Run.isAdding_bind (isAdding_matcher _ _) fun _ => Run.isAdding_pure _,
    (Run.isLogging_log _ _ _).2]
  change (repo.rules.matcher source >>= _).value = _
  rw [Run.value_bind _ fun _ => Run.isAdding_pure _, value_matcher]
  cases source repo.rules.keys with
  | error reason => rfl
  | ok m => rfl

lemma isAdding_validateRepo (fs : FileSystem) (source : MatcherSource) (root : String) :
    Run.IsAdding (validateRepo fs source root) := by
  rw [validateRepo_eq]
  exact Run.isAdding_bind (isAdding_read fs root) fun repo => repo.isAdding_report source

section Events

variable {p : LogEvent → Prop} {fs : FileSystem} {root : String}
  (hloaded : ∀ fields, fields.lookup "source_file" = none →
    p ⟨.info, "Loaded release repository.", fields⟩)

include hloaded

lemma logsOnly_report (repo : Repository) (source : MatcherSource) :
    Run.LogsOnly p (repo.report source) := by
  have hmatcher : Run.LogsOnly p (repo.rules.matcher source) := by
    unfold RuleSet.matcher
    split
    · exact Run.logsOnly_pure _
    · exact Run.logsOnly_throw _
  refine Run.logsOnly_bind (Run.isLogging_log _ _ _).1
    (fun _ => Run.isAdding_bind (isAdding_matcher _ _) fun _ => Run.isAdding_pure _)
    (Run.logsOnly_log (hloaded _ rfl)) fun _ _ => ?_
  exact Run.logsOnly_bind (isAdding_matcher _ _) (fun _ => Run.isAdding_pure _) hmatcher
    fun _ _ => Run.logsOnly_pure _

/-- Before the findings there are only the events of the files, and one that names no file. -/
lemma logsOnly_validateRepo (hfile : ∀ event, IsOfFileEvent fs root event → p event)
    (source : MatcherSource) : Run.LogsOnly p (validateRepo fs source root) := by
  rw [validateRepo_eq]
  exact Run.logsOnly_bind (isAdding_read fs root) (fun repo => repo.isAdding_report source)
    (fun event hevent => hfile event (logsOnly_read fs root event hevent))
    fun repo _ => logsOnly_report hloaded repo source

end Events

/-- A validation reads the repository, asks for the matcher and checks what was read. -/
lemma value_validateRepo (fs : FileSystem) (source : MatcherSource) (root : String) :
    (validateRepo fs source root).value =
      (read fs root).value >>= fun repo =>
        ((source repo.rules.keys).mapError Halt.crash).map repo.check := by
  rw [validateRepo_eq, Run.value_bind _ fun repo => repo.isAdding_report source]
  simp only [value_report]

lemma value_validateRepo_eq_ok_iff {fs : FileSystem} {source : MatcherSource} {root : String}
    {outcome : Outcome} :
    (validateRepo fs source root).value = .ok outcome ↔
      ∃ repo, (read fs root).value = .ok repo ∧
        ∃ matches?, source repo.rules.keys = .ok matches? ∧ repo.check matches? = outcome := by
  rw [value_validateRepo, Fallible.bind_eq_ok_iff]
  simp only [Fallible.map_eq_ok_iff, Fallible.mapError_eq_ok_iff]

/-! ### A small repository -/

/-- A plugin configuration with a rule for each tree. -/
def samplePlugins : String :=
  "config_updater:\n maps:\n  ci-operator/config/*:\n   name: ci-operator-misc-configs\n" ++
    "  ci-operator/jobs/*:\n   name: job-config-misc\n"

/-- A job file with one job, which injects a configuration. -/
def sampleJobs : String :=
  "periodics:\n- name: unit\n  spec:\n   containers:\n   - env:\n     - name: CONFIG_SPEC\n" ++
    "       valueFrom:\n        configMapKeyRef:\n         name: ci-operator-misc-configs\n" ++
    "         key: a.yaml\n"

/-- The files of a small repository at the root of a file system. -/
def sampleFiles : FileSystem where
  workDir := []
  entries :=
    [(["core-services"], .dir), (["core-services", "prow"], .dir),
      (["core-services", "prow", "02_config"], .dir),
      (["core-services", "prow", "02_config", "_plugins.yaml"], .file (some samplePlugins)),
      (["ci-operator"], .dir), (["ci-operator", "config"], .dir),
      (["ci-operator", "config", "a.yaml"], .file (some "")), (["ci-operator", "jobs"], .dir),
      (["ci-operator", "jobs", "a.yaml"], .file (some sampleJobs))]

def sample : Repository where
  rules := .ofList
    [("ci-operator/config/*", ⟨"ci-operator-misc-configs", ∅, none⟩),
      ("ci-operator/jobs/*", ⟨"job-config-misc", ∅, none⟩)]
  configs :=
    ⟨[⟨"ci-operator/config/a.yaml", "ci-operator-misc-configs"⟩],
      .ofList [("a.yaml", ⟨"ci-operator/config/a.yaml", "ci-operator-misc-configs"⟩)]⟩
  jobs :=
    ⟨[⟨"ci-operator/jobs/a.yaml", "job-config-misc"⟩],
      [⟨"a.yaml", "ci-operator-misc-configs",
        ⟨"ci-operator/jobs/a.yaml", .periodic, "unit", 0⟩⟩]⟩

def sampleJobConfig : JobConfig where
  presubmits := ∅
  postsubmits := ∅
  periodics :=
    [⟨"unit", some ⟨[⟨[⟨"CONFIG_SPEC",
      some ⟨some ⟨"ci-operator-misc-configs", "a.yaml"⟩⟩⟩]⟩]⟩⟩]

/-- The rules of the small repository, of which the first goes to the default cluster. -/
def aliasPlugins : String :=
  "config_updater:\n maps:\n  ci-operator/config/*:\n   name: ci-operator-misc-configs\n" ++
    "   clusters:\n    default:\n  ci-operator/jobs/*:\n   name: job-config-misc\n"

def aliasFiles : FileSystem :=
  sampleFiles.write [] ["core-services", "prow", "02_config", "_plugins.yaml"]
    (.file (some aliasPlugins))

def aliasRules : RuleSet :=
  .ofList
    [("ci-operator/config/*", ⟨"ci-operator-misc-configs", .ofList [("default", none)], none⟩),
      ("ci-operator/jobs/*", ⟨"job-config-misc", ∅, none⟩)]

lemma readText_samplePlugins :
    RuleSet.reader.readText samplePlugins.toList = .ok sample.rules := by decide +kernel

lemma readText_aliasPlugins :
    RuleSet.reader.readText aliasPlugins.toList = .ok aliasRules := by decide +kernel

lemma readText_sampleJobs :
    JobConfig.reader.readText sampleJobs.toList = .ok sampleJobConfig := by decide +kernel

/-- A checkout with the trees of the small repository is read as that repository, with the rules
that the checkout has. -/
lemma read_eq_sample {fs : FileSystem} {root plugins : String} {rules : RuleSet}
    (config job : String) (hisFile : fs.isFile (Layout.pluginConfig root) = true)
    (hplugins : fs.readText (Layout.pluginConfig root) = .ok plugins)
    (hblank : Text.allBlank plugins.toList = false)
    (hread : RuleSet.reader.readText plugins.toList = .ok rules)
    (hconfigs : fs.yamlFiles (Layout.configTree root) = .ok [config])
    (hload : ∃ c, fs.loadConfig config = .ok c)
    (hjobs : fs.yamlFiles (Layout.jobTree root) = .ok [job])
    (htext : fs.readText job = .ok sampleJobs)
    (hconfig : sample.configs = ⟨[config].map (.ofPath .ciOperator root (Layout.configTree root)),
      ConfigInventory.indexOf root (Layout.configTree root) [config]⟩)
    (hjob : sample.jobs = ⟨[job].map (.ofPath .job root (Layout.jobTree root)),
      [(job, sampleJobConfig)].flatMap fun x => x.2.references (Path.relativeTo root x.1)⟩) :
    (read fs root).value = .ok ⟨rules, sample.configs, sample.jobs⟩ := by
  have hrules : fs.loadRules (Layout.pluginConfig root) = .ok rules := by
    rw [FileSystem.loadRules, if_pos hisFile]
    exact FileSystem.load_of_readText hplugins hblank hread
  have hloadJobs : fs.loadJobs job = .ok sampleJobConfig :=
    FileSystem.load_of_readText htext (by decide +kernel) readText_sampleJobs
  obtain ⟨c, hload⟩ := hload
  refine value_read_eq_ok_iff.2 ⟨hrules, ?_, ?_⟩
  · exact ConfigInventory.value_build_eq_ok_iff.2
      ⟨[config], hconfigs, ⟨[c], .cons hload .nil⟩, hconfig⟩
  · exact JobInventory.value_build_eq_ok_iff.2
      ⟨[job], hjobs, [sampleJobConfig], .cons hloadJobs .nil, hjob⟩

lemma read_sample : (read sampleFiles "/").value = .ok sample :=
  read_eq_sample "/ci-operator/config/a.yaml" "/ci-operator/jobs/a.yaml"
    (by decide +kernel) (by decide +kernel) (by decide +kernel) readText_samplePlugins
    (by decide +kernel) ⟨.empty, by decide +kernel⟩ (by decide +kernel) (by decide +kernel)
    (by decide +kernel) (by decide +kernel)

lemma read_aliasFiles :
    (read aliasFiles "/").value = .ok ⟨aliasRules, sample.configs, sample.jobs⟩ :=
  read_eq_sample "/ci-operator/config/a.yaml" "/ci-operator/jobs/a.yaml"
    (by decide +kernel) (by decide +kernel) (by decide +kernel) readText_aliasPlugins
    (by decide +kernel) ⟨.empty, by decide +kernel⟩ (by decide +kernel) (by decide +kernel)
    (by decide +kernel) (by decide +kernel)

end Repository

end ShardCheck
