import Mathlib.Tactic.Common
import ShardCheck.Proofs.Verdict
import ShardCheck.Proofs.WalkFault

/-!
# Where reading stops

A repository is read as a whole or not at all. Of everything that is wrong with it the first counts,
and the order is that of reading: the rules, the configuration tree, the job tree. In a tree the
walk comes to its end before a file is opened, so a fault of the walk comes before those of all
files.
-/

namespace ShardCheck

namespace FileSystem

variable {fs : FileSystem} {α : Type}

/-! ### Files -/

/-- Why a file cannot be loaded. A blank file is loaded without being parsed. -/
inductive LoadFault (fs : FileSystem) (r : Yaml.Reader α) (path : String) : RunError → Prop where
  | read {fault : IoFault} (h : fs.readText path = .error fault) :
      LoadFault fs r path (.configReadFailed path fault.message)
  | parse {s : String} {fault : Yaml.ReadError} (htext : fs.readText path = .ok s)
      (hblank : Text.allBlank s.toList = false) (h : r.readText s.toList = .error fault) :
      LoadFault fs r path (.configParseFailed path fault.message)

lemma load_eq_error_iff {r : Yaml.Reader α} (empty : α) {path : String} {e : RunError} :
    fs.load r empty path = .error e ↔ fs.LoadFault r path e := by
  constructor
  · intro h
    rw [load] at h
    split at h
    · rename_i fault hread
      cases h
      exact .read hread
    · rename_i s htext
      split at h
      · cases h
      · rename_i hblank
        obtain ⟨fault, hfault, rfl⟩ := Fallible.mapError_eq_error_iff.1 h
        exact .parse htext (Bool.eq_false_iff.2 hblank) hfault
  · intro h
    cases h with
    | read hread => rw [load, hread]
    | parse htext hblank hfault =>
      rw [load, htext]
      simp only [hblank, Bool.false_eq_true, if_false, hfault]
      rfl

lemma exists_load_eq_ok_iff {r : Yaml.Reader α} (empty : α) {path : String} :
    (∃ x, fs.load r empty path = .ok x) ↔ ∀ e, ¬ fs.LoadFault r path e := by
  simp only [← load_eq_error_iff empty]
  cases fs.load r empty path with
  | ok x => simp
  | error e => simp

/-- Why the rules cannot be loaded. -/
inductive RulesFault (fs : FileSystem) (path : String) : RunError → Prop where
  | noFile (h : fs.isFile path = false) :
      RulesFault fs path (.configReadFailed path "file does not exist")
  | file {e : RunError} (hfile : fs.isFile path = true) (h : fs.LoadFault RuleSet.reader path e) :
      RulesFault fs path e

lemma loadRules_eq_error_iff {path : String} {e : RunError} :
    fs.loadRules path = .error e ↔ fs.RulesFault path e := by
  rw [loadRules]
  split
  · rename_i hfile
    rw [load_eq_error_iff]
    constructor
    · intro h
      exact .file hfile h
    · intro h
      cases h with
      | noFile hnot => rw [hfile] at hnot; cases hnot
      | file _ h => exact h
  · rename_i hfile
    constructor
    · intro h
      cases h
      exact .noFile (Bool.eq_false_iff.2 hfile)
    · intro h
      cases h with
      | noFile _ => rfl
      | file hnot _ => exact absurd hnot hfile

/-! ### Trees -/

/-- The first thing that is wrong with a tree. -/
inductive TreeFault (fs : FileSystem) (r : Yaml.Reader α) (tree : String) : RunError → Prop where
  | noDir (h : fs.isDir tree = false) : TreeFault fs r tree (.dirNotFound tree)
  | walk {f : WalkFault} (h : fs.IsFirstFault tree f) :
      TreeFault fs r tree (.walkFailed f.path f.message)
  | file {before after : List String} {path : String} {e : RunError}
      (hfiles : fs.yamlFiles tree = .ok (before ++ path :: after))
      (hbefore : ∀ p ∈ before, ∀ e, ¬ fs.LoadFault r p e) (h : fs.LoadFault r path e) :
      TreeFault fs r tree e

/-- A tree is a directory that can be walked to the end, and every configuration file in it can be
loaded. -/
structure IsLoadable (fs : FileSystem) (r : Yaml.Reader α) (tree : String) : Prop where
  isDir : fs.isDir tree = true
  noFault : fs.HasNoFault tree
  files : ∀ path, fs.HasFile tree path → Path.extension? path = some "yaml" →
    ∀ e, ¬ fs.LoadFault r path e

lemma treeFault_iff {r : Yaml.Reader α} (empty : α) {tree : String} {e : RunError} :
    fs.TreeFault r tree e ↔ fs.yamlFiles tree = .error e ∨ ∃ before path after,
      fs.yamlFiles tree = .ok (before ++ path :: after) ∧
        (∀ p ∈ before, ∃ x, fs.load r empty p = .ok x) ∧ fs.load r empty path = .error e := by
  simp only [yamlFiles_eq_error_iff, exists_load_eq_ok_iff empty, load_eq_error_iff empty]
  constructor
  · intro h
    cases h with
    | noDir h => exact .inl (.inl ⟨h, rfl⟩)
    | walk h => exact .inl (.inr ⟨_, h, rfl⟩)
    | file hfiles hbefore h => exact .inr ⟨_, _, _, hfiles, hbefore, h⟩
  · rintro ((⟨h, rfl⟩ | ⟨f, h, rfl⟩) | ⟨before, path, after, hfiles, hbefore, h⟩)
    · exact .noDir h
    · exact .walk h
    · exact .file hfiles hbefore h

lemma isLoadable_iff {r : Yaml.Reader α} (empty : α) {tree : String} :
    fs.IsLoadable r tree ↔ ∃ files, fs.yamlFiles tree = .ok files ∧
      ∃ loaded, List.Forall₂ (fun p x => fs.load r empty p = .ok x) files loaded := by
  simp only [← Fallible.mapM_eq_ok_iff]
  constructor
  · intro h
    obtain ⟨l, htree⟩ := isDir_iff.1 h.isDir
    obtain ⟨listed, hwalk⟩ := (exists_walk_eq_ok_iff htree).2 h.noFault
    have hfiles := yamlFiles_eq_ok_iff.2 ⟨h.isDir, listed, hwalk, rfl⟩
    refine ⟨_, hfiles, ?_⟩
    cases hload : (listed.filter isYaml).mapM (fs.load r empty) with
    | ok loaded => exact ⟨loaded, rfl⟩
    | error e =>
      -- the file that cannot be loaded is one of the tree
      obtain ⟨before, path, after, hsplit, -, he⟩ := Fallible.mapM_eq_error_iff.1 hload
      have hmem : path ∈ listed.filter isYaml := by simp [hsplit]
      obtain ⟨hfile, hext⟩ := (mem_yamlFiles_iff hfiles path).1 hmem
      exact absurd ((load_eq_error_iff empty).1 he) (h.files path hfile hext e)
  · rintro ⟨files, hfiles, loaded, hloaded⟩
    obtain ⟨hdir, listed, hwalk, -⟩ := yamlFiles_eq_ok_iff.1 hfiles
    obtain ⟨l, htree⟩ := isDir_iff.1 hdir
    refine ⟨hdir, (exists_walk_eq_ok_iff htree).1 ⟨listed, hwalk⟩, fun path hfile hext e he => ?_⟩
    have hmem := (mem_yamlFiles_iff hfiles path).2 ⟨hfile, hext⟩
    obtain ⟨e', he'⟩ := Fallible.exists_error_of_mem (fs.load r empty) hmem
      ((load_eq_error_iff empty).2 he)
    cases hloaded.symm.trans he'

section Build

variable {σ : Type} {readFile : σ → String → Run σ} {r : Yaml.Reader α} {empty : α}
  {add : σ → String → α → σ} (hadding : ∀ s path, Run.IsAdding (readFile s path))
  (hvalue : ∀ s path, (readFile s path).value =
    ((fs.load r empty path).mapError Halt.error).map (add s path))
  {tree : String} {start : σ}

include hadding hvalue

lemma exists_value_readFiles_eq_ok_iff :
    (∃ v, (liftM (fs.yamlFiles tree) >>= fun files => files.foldlM readFile start : Run σ).value =
      .ok v) ↔ fs.IsLoadable r tree := by
  rw [isLoadable_iff empty]
  simp only [value_readFiles_eq_ok_iff hadding hvalue]
  constructor
  · rintro ⟨v, files, hfiles, loaded, hloaded, -⟩
    exact ⟨files, hfiles, loaded, hloaded⟩
  · rintro ⟨files, hfiles, loaded, hloaded⟩
    exact ⟨_, files, hfiles, loaded, hloaded, rfl⟩

lemma value_readFiles_eq_error_iff_treeFault {halt : Halt} :
    (liftM (fs.yamlFiles tree) >>= fun files => files.foldlM readFile start : Run σ).value =
      .error halt ↔ ∃ e, halt = .error e ∧ fs.TreeFault r tree e := by
  rw [value_readFiles_eq_error_iff hadding hvalue]
  simp only [treeFault_iff empty]

end Build

end FileSystem

namespace ConfigInventory

variable {fs : FileSystem} {root tree : String}

lemma exists_value_build_eq_ok_iff :
    (∃ v, (build fs root tree).value = .ok v) ↔ fs.IsLoadable CiOperatorConfig.reader tree :=
  FileSystem.exists_value_readFiles_eq_ok_iff isAdding_readFile value_readFile

lemma value_build_eq_error_iff {halt : Halt} : (build fs root tree).value = .error halt ↔
    ∃ e, halt = .error e ∧ fs.TreeFault CiOperatorConfig.reader tree e :=
  FileSystem.value_readFiles_eq_error_iff_treeFault isAdding_readFile value_readFile

end ConfigInventory

namespace JobInventory

variable {fs : FileSystem} {root tree : String}

lemma exists_value_build_eq_ok_iff :
    (∃ v, (build fs root tree).value = .ok v) ↔ fs.IsLoadable JobConfig.reader tree :=
  FileSystem.exists_value_readFiles_eq_ok_iff isAdding_readFile value_readFile

lemma value_build_eq_error_iff {halt : Halt} : (build fs root tree).value = .error halt ↔
    ∃ e, halt = .error e ∧ fs.TreeFault JobConfig.reader tree e :=
  FileSystem.value_readFiles_eq_error_iff_treeFault isAdding_readFile value_readFile

end JobInventory

namespace Repository

variable {fs : FileSystem} {root : String}

/-! ### Repositories -/

/-- The first thing that is wrong with a repository. -/
inductive ReadFault (fs : FileSystem) (root : String) : RunError → Prop where
  | rules {e : RunError} (h : fs.RulesFault (Layout.pluginConfig root) e) : ReadFault fs root e
  | configs {e : RunError} (hrules : ∀ e, ¬ fs.RulesFault (Layout.pluginConfig root) e)
      (h : fs.TreeFault CiOperatorConfig.reader (Layout.configTree root) e) : ReadFault fs root e
  | jobs {e : RunError} (hrules : ∀ e, ¬ fs.RulesFault (Layout.pluginConfig root) e)
      (hconfigs : fs.IsLoadable CiOperatorConfig.reader (Layout.configTree root))
      (h : fs.TreeFault JobConfig.reader (Layout.jobTree root) e) : ReadFault fs root e

/-- The rules and both trees of a repository can be loaded. -/
structure IsReadable (fs : FileSystem) (root : String) : Prop where
  rules : ∀ e, ¬ fs.RulesFault (Layout.pluginConfig root) e
  configs : fs.IsLoadable CiOperatorConfig.reader (Layout.configTree root)
  jobs : fs.IsLoadable JobConfig.reader (Layout.jobTree root)

lemma exists_loadRules_eq_ok_iff :
    (∃ rules, fs.loadRules (Layout.pluginConfig root) = .ok rules) ↔
      ∀ e, ¬ fs.RulesFault (Layout.pluginConfig root) e := by
  simp only [← FileSystem.loadRules_eq_error_iff]
  cases fs.loadRules (Layout.pluginConfig root) with
  | ok rules => simp
  | error e => simp

lemma exists_value_read_eq_ok_iff : (∃ repo, (read fs root).value = .ok repo) ↔
    IsReadable fs root := by
  simp only [value_read_eq_ok_iff]
  constructor
  · rintro ⟨repo, hrules, hconfigs, hjobs⟩
    exact ⟨exists_loadRules_eq_ok_iff.1 ⟨_, hrules⟩,
      ConfigInventory.exists_value_build_eq_ok_iff.1 ⟨_, hconfigs⟩,
      JobInventory.exists_value_build_eq_ok_iff.1 ⟨_, hjobs⟩⟩
  · intro h
    obtain ⟨rules, hrules⟩ := exists_loadRules_eq_ok_iff.2 h.rules
    obtain ⟨configs, hconfigs⟩ := ConfigInventory.exists_value_build_eq_ok_iff.2 h.configs
    obtain ⟨jobs, hjobs⟩ := JobInventory.exists_value_build_eq_ok_iff.2 h.jobs
    exact ⟨⟨rules, configs, jobs⟩, hrules, hconfigs, hjobs⟩

/-- Reading fails with the first thing that is wrong. -/
lemma value_read_eq_error_iff_readFault {halt : Halt} :
    (read fs root).value = .error halt ↔ ∃ e, halt = .error e ∧ ReadFault fs root e := by
  rw [value_read_eq_error_iff]
  constructor
  · rintro (⟨e, he, rfl⟩ | ⟨rules, hrules, h | ⟨configs, hok, h⟩⟩)
    · exact ⟨e, rfl, .rules (FileSystem.loadRules_eq_error_iff.1 he)⟩
    · obtain ⟨e, rfl, he⟩ := ConfigInventory.value_build_eq_error_iff.1 h
      exact ⟨e, rfl, .configs (exists_loadRules_eq_ok_iff.1 ⟨_, hrules⟩) he⟩
    · obtain ⟨e, rfl, he⟩ := JobInventory.value_build_eq_error_iff.1 h
      exact ⟨e, rfl, .jobs (exists_loadRules_eq_ok_iff.1 ⟨_, hrules⟩)
        (ConfigInventory.exists_value_build_eq_ok_iff.1 ⟨_, hok⟩) he⟩
  · rintro ⟨e, rfl, h⟩
    cases h with
    | rules h => exact .inl ⟨e, FileSystem.loadRules_eq_error_iff.2 h, rfl⟩
    | configs hrules h =>
      obtain ⟨rules, hrules⟩ := exists_loadRules_eq_ok_iff.2 hrules
      exact .inr ⟨rules, hrules, .inl (ConfigInventory.value_build_eq_error_iff.2 ⟨e, rfl, h⟩)⟩
    | jobs hrules hloadable h =>
      obtain ⟨rules, hrules⟩ := exists_loadRules_eq_ok_iff.2 hrules
      obtain ⟨configs, hok⟩ := ConfigInventory.exists_value_build_eq_ok_iff.2 hloadable
      exact .inr ⟨rules, hrules, .inr ⟨configs, hok,
        JobInventory.value_build_eq_error_iff.2 ⟨e, rfl, h⟩⟩⟩

lemma value_validateRepo_eq_error_iff {source : MatcherSource} {e : RunError} :
    (validateRepo fs source root).value = .error (.error e) ↔ ReadFault fs root e := by
  rw [value_validateRepo, Fallible.bind_eq_error_iff]
  simp only [Fallible.map_eq_error_iff, Fallible.mapError_eq_error_iff, reduceCtorEq, and_false,
    exists_false, or_false, value_read_eq_error_iff_readFault, Halt.error.injEq]
  constructor
  · rintro ⟨e', rfl, he'⟩
    exact he'
  · intro he
    exact ⟨e, rfl, he⟩

/-- Nothing but the files that were read is in the log of a validation that could not read all. -/
lemma isOfFileEvent_of_mem_events_validate {source : MatcherSource} {halt : Halt}
    (h : (read fs root).value = .error halt) {event : LogEvent}
    (hevent : event ∈ (validate fs source root).events) : IsOfFileEvent fs root event := by
  have hvalue : (validateRepo fs source root).value = .error halt := by
    rw [value_validateRepo, h]
    rfl
  rw [validate_eq, Run.events_bind_of_error (isAdding_validateRepo fs source root)
    Outcome.isAdding_conclude hvalue, validateRepo_eq,
    Run.events_bind_of_error (isAdding_read fs root) (fun repo => repo.isAdding_report source) h]
    at hevent
  exact logsOnly_read fs root event hevent

/-- A validation gives an outcome exactly if the rules and both trees can be loaded. Then there is
one record for every file of each tree, in the order of the walk, and the references are those of
the job files in this order. Otherwise the validation ends with the first thing that is wrong, and
nothing is logged but the files that were read before. -/
theorem validateRepo_stops_at_first_fault (fs : FileSystem) (root : String) :
    (∀ matches? : Matcher,
      (∃ outcome, (validateRepo fs matches?.source root).value = .ok outcome) ↔
        IsReadable fs root) ∧
    (∀ source outcome, (validateRepo fs source root).value = .ok outcome →
      ∃ (repo : Repository) (matches? : Matcher) (configFiles jobFiles : List String)
          (jobs : List JobConfig),
        fs.loadRules (Layout.pluginConfig root) = .ok repo.rules ∧
        fs.yamlFiles (Layout.configTree root) = .ok configFiles ∧
        repo.configs.records =
          configFiles.map (.ofPath .ciOperator root (Layout.configTree root)) ∧
        repo.configs.index =
          ConfigInventory.indexOf root (Layout.configTree root) configFiles ∧
        fs.yamlFiles (Layout.jobTree root) = .ok jobFiles ∧
        repo.jobs.records = jobFiles.map (.ofPath .job root (Layout.jobTree root)) ∧
        List.Forall₂ (fun path c => fs.loadJobs path = .ok c) jobFiles jobs ∧
        repo.jobs.injections =
          (jobFiles.zip jobs).flatMap (fun x => x.2.references (Path.relativeTo root x.1)) ∧
        source repo.rules.keys = .ok matches? ∧ outcome = repo.check matches?) ∧
    (∀ source e,
      (validateRepo fs source root).value = .error (.error e) ↔ ReadFault fs root e) ∧
    ∀ source e, ReadFault fs root e →
      (validate fs source root).value = .error (.error e) ∧
        ∀ event ∈ (validate fs source root).events,
          event.level = .debug ∧ event.message ≠ "Loaded release repository." := by
  refine ⟨fun matches? => ?_, fun source outcome h => ?_,
    fun source e => value_validateRepo_eq_error_iff, fun source e he => ⟨?_, ?_⟩⟩
  · rw [← exists_value_read_eq_ok_iff]
    simp only [value_validateRepo_eq_ok_iff]
    constructor
    · rintro ⟨-, repo, hread, -⟩
      exact ⟨repo, hread⟩
    · rintro ⟨repo, hread⟩
      exact ⟨_, repo, hread, matches?, rfl, rfl⟩
  · obtain ⟨⟨rules, configs, jobs⟩, hread, matches?, hsource, rfl⟩ :=
      value_validateRepo_eq_ok_iff.1 h
    obtain ⟨hrules, hconfigs, hjobs⟩ := value_read_eq_ok_iff.1 hread
    obtain ⟨configFiles, hconfigFiles, -, rfl⟩ :=
      ConfigInventory.value_build_eq_ok_iff.1 hconfigs
    obtain ⟨jobFiles, hjobFiles, loaded, hloaded, rfl⟩ :=
      JobInventory.value_build_eq_ok_iff.1 hjobs
    exact ⟨_, matches?, configFiles, jobFiles, loaded, hrules, hconfigFiles, rfl, rfl, hjobFiles,
      rfl, hloaded, rfl, hsource, rfl⟩
  · rw [validate_eq, Run.value_bind _ Outcome.isAdding_conclude,
      value_validateRepo_eq_error_iff.2 he]
    rfl
  · intro event hevent
    obtain ⟨_, -, _, -, hfile⟩ | ⟨_, -, _, -, hfile⟩ := isOfFileEvent_of_mem_events_validate
      (value_read_eq_error_iff_readFault.2 ⟨e, rfl, he⟩) hevent
    all_goals exact ⟨hfile.level, hfile.message⟩

/-! ### A repository with several faults -/

/-- A repository with an open flow sequence in a configuration, a link that leads nowhere behind it,
and no job tree. -/
def faultyFiles : FileSystem where
  workDir := []
  entries :=
    [(["core-services"], .dir), (["core-services", "prow"], .dir),
      (["core-services", "prow", "02_config"], .dir),
      (["core-services", "prow", "02_config", "_plugins.yaml"], .file (some "\n")),
      (["ci-operator"], .dir), (["ci-operator", "config"], .dir),
      (["ci-operator", "config", "a.yaml"], .file (some "[")),
      (["ci-operator", "config", "b"], .dir), (["ci-operator", "config", "b", "c"], .link "d")]

def faultyLink : RunError :=
  .walkFailed "/ci-operator/config/b/c"
    "IO error for operation on /ci-operator/config/b/c: No such file or directory (os error 2)"

lemma readFault_faultyFiles : ReadFault faultyFiles "/" faultyLink := by
  have htree : faultyFiles.resolve (Layout.configTree "/") =
      .ok (["ci-operator", "config"], .dir) := by decide +kernel
  have hwalk : faultyFiles.walk (Layout.configTree "/") =
      .error (.unreachable "/ci-operator/config/b/c" .notFound) := by decide +kernel
  have hrules : faultyFiles.loadRules (Layout.pluginConfig "/") = .ok ∅ := by decide +kernel
  have hfirst := FileSystem.TreeFault.walk (r := CiOperatorConfig.reader)
    ((FileSystem.walk_eq_error_iff htree).1 hwalk)
  exact .configs (exists_loadRules_eq_ok_iff.1 ⟨∅, hrules⟩) hfirst

/-- The link counts, and neither the configuration before it nor the missing tree. The small
repository can be read. -/
theorem validateRepo_faultyFiles :
    (faultyFiles.loadConfig "/ci-operator/config/a.yaml").isOk = false ∧
      faultyFiles.isDir (Layout.jobTree "/") = false ∧
      (validateRepo faultyFiles Glob.matcherFor "/").value = .error (.error faultyLink) ∧
      (validate faultyFiles Glob.matcherFor "/").value = .error (.error faultyLink) ∧
      (∀ event ∈ (validate faultyFiles Glob.matcherFor "/").events, event.level = .debug) ∧
      ∃ outcome, (validateRepo sampleFiles Glob.matcher.source "/").value = .ok outcome := by
  obtain ⟨-, -, herror, hlog⟩ := validateRepo_stops_at_first_fault faultyFiles "/"
  obtain ⟨hvalidate, hevents⟩ := hlog Glob.matcherFor faultyLink readFault_faultyFiles
  have hsample : IsReadable sampleFiles "/" := exists_value_read_eq_ok_iff.1 ⟨_, read_sample⟩
  refine ⟨by decide +kernel, by decide +kernel, ?_, hvalidate, fun event h => (hevents event h).1,
    ((validateRepo_stops_at_first_fault sampleFiles "/").1 Glob.matcher).2 hsample⟩
  exact (herror Glob.matcherFor faultyLink).2 readFault_faultyFiles

end Repository

end ShardCheck
