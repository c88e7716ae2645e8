import Mathlib.Tactic.Common
import ShardCheck.Glob
import ShardCheck.Proofs.Repository
import ShardCheck.Proofs.WalkOrder

/-!
# What an outcome depends on

The outcome of a validation is a function of the rules, of the ways to the configuration files, and
of the ways to the job files with their jobs. Where the repository lies and how its root is spelled,
what else is in it, and what is written in the configurations makes no difference: the records and
the references of a file name it by its way, and a walk takes the ways in their own order.
-/

namespace ShardCheck

open ShardCheck.Path

/-! ### Trees -/

lemma Layout.configTree_eq (root : String) :
    configTree root = joinAll root ["ci-operator", "config"] := by
  have hnames : configTreePath = "ci-operator" ++ "/" ++ "config" := by decide
  rw [configTree, hnames, join_append_slash (by decide) (by decide)]
  rfl

lemma Layout.jobTree_eq (root : String) :
    jobTree root = joinAll root ["ci-operator", "jobs"] := by
  have hnames : jobTreePath = "ci-operator" ++ "/" ++ "jobs" := by decide
  rw [jobTree, hnames, join_append_slash (by decide) (by decide)]
  rfl

/-! ### Files by their ways -/

section Way

variable {way : List String} (h : ∀ name ∈ way, IsFileName name) (hne : way ≠ [])

include h hne

lemma Path.relativeTo_joinAll (root : String) :
    relativeTo root (joinAll root way) = forwardSlashes (ofSegments way) := by
  rw [relativeTo, strip?_joinAll root h hne]
  rfl

lemma FileInfo.namesUnder_joinAll (tree : String) : namesUnder tree (joinAll tree way) = way := by
  rw [namesUnder, strip?_joinAll tree h hne]
  exact names_ofSegments h hne

lemma FileInfo.ofPath_joinAll (k : ConfigKind) (tree tree' : String) :
    ofPath k tree (joinAll tree way) = ofPath k tree' (joinAll tree' way) := by
  unfold ofPath
  rw [namesUnder_joinAll h hne, namesUnder_joinAll h hne,
    fileName?_joinAll tree h hne, fileName?_joinAll tree' h hne]

variable {place : List String} (hplace : ∀ name ∈ place, IsFileName name)

include hplace

/-- The path of a file in the repository does not depend on the root. -/
lemma Path.relativeTo_joinAll_joinAll (root : String) :
    relativeTo root (joinAll (joinAll root place) way) =
      forwardSlashes (ofSegments (place ++ way)) := by
  have hall : ∀ name ∈ place ++ way, IsFileName name := by
    intro name hname
    rcases List.mem_append.1 hname with hname | hname
    · exact hplace name hname
    · exact h name hname
  rw [← joinAll_append]
  exact relativeTo_joinAll hall (List.append_ne_nil_of_right_ne_nil place hne) root

/-- The record of a file does not depend on the root. -/
lemma PathRecord.ofPath_joinAll (k : ConfigKind) (root root' : String) :
    ofPath k root (joinAll root place) (joinAll (joinAll root place) way) =
      ofPath k root' (joinAll root' place) (joinAll (joinAll root' place) way) := by
  unfold ofPath
  rw [relativeTo_joinAll_joinAll h hne hplace, relativeTo_joinAll_joinAll h hne hplace,
    FileInfo.ofPath_joinAll h hne k _ (joinAll root' place)]

end Way

namespace FileSystem.AreAt

variable {root root' : String} {place : List String} (hplace : ∀ name ∈ place, IsFileName name)
  {files files' : List String} {ways : List (List String)}
  (h : AreAt files (joinAll root place) ways) (h' : AreAt files' (joinAll root' place) ways)
  (hne : [] ∉ ways)

include hplace h h' hne

lemma map_ofPath (k : ConfigKind) :
    files.map (.ofPath k root (joinAll root place)) =
      files'.map (PathRecord.ofPath k root' (joinAll root' place)) := by
  rw [h.files_eq, h'.files_eq, List.map_map, List.map_map]
  refine List.map_congr_left fun way hway => ?_
  exact PathRecord.ofPath_joinAll (h.names way hway) (fun hnil => hne (hnil ▸ hway)) hplace k root
    root'

lemma indexOf_eq :
    ConfigInventory.indexOf root (joinAll root place) files =
      ConfigInventory.indexOf root' (joinAll root' place) files' := by
  rw [ConfigInventory.indexOf_eq_ofList, ConfigInventory.indexOf_eq_ofList, h.files_eq,
    h'.files_eq, List.map_map, List.map_map]
  refine congrArg KeyMap.ofList (List.map_congr_left fun way hway => ?_)
  have hway' : way ≠ [] := fun hnil => hne (hnil ▸ hway)
  simp only [Function.comp_apply]
  rw [PathRecord.ofPath_joinAll (h.names way hway) hway' hplace .ciOperator root root',
    FileInfo.ofPath_joinAll (h.names way hway) hway' .ciOperator _ (joinAll root' place)]

end FileSystem.AreAt

/-! ### Jobs -/

/-- The way leads from a tree to a job file with the given jobs. -/
def FileSystem.HasJobs (fs : FileSystem) (tree : String) (way : List String)
    (jobs : List (JobKind × Job)) : Prop :=
  fs.HasYaml tree way ∧ ∃ config, fs.loadJobs (joinAll tree way) = .ok config ∧ config.jobs = jobs

lemma JobConfig.references_congr {c c' : JobConfig} (h : c.jobs = c'.jobs) (sourceFile : String) :
    c.references sourceFile = c'.references sourceFile := by
  rw [references, references, jobsWithSpec, jobsWithSpec, h]

/-- Job files at the same ways with the same jobs have the same references. -/
lemma JobInventory.flatMap_references_eq {fs fs' : FileSystem} {root root' : String}
    {place : List String} (hplace : ∀ name ∈ place, IsFileName name) {ways : List (List String)}
    (hways : ∀ way ∈ ways, way ≠ [] ∧ fs.HasYaml (joinAll root place) way)
    (hjobs : ∀ way jobs, fs.HasJobs (joinAll root place) way jobs →
      fs'.HasJobs (joinAll root' place) way jobs)
    {configs configs' : List JobConfig}
    (h : List.Forall₂ (fun p c => fs.loadJobs p = .ok c) (ways.map (joinAll (joinAll root place)))
      configs)
    (h' : List.Forall₂ (fun p c => fs'.loadJobs p = .ok c)
      (ways.map (joinAll (joinAll root' place))) configs') :
    (((ways.map (joinAll (joinAll root place))).zip configs).flatMap fun x =>
        x.2.references (relativeTo root x.1)) =
      ((ways.map (joinAll (joinAll root' place))).zip configs').flatMap fun x =>
        x.2.references (relativeTo root' x.1) := by
  -- along the ways, which both lists of loaded files go with
  induction ways generalizing configs configs' with
  | nil => simp only [List.map_nil, List.zip_nil_left, List.flatMap_nil]
  | cons way ways ih =>
    rw [List.map_cons, List.forall₂_cons_left_iff] at h h'
    obtain ⟨c, configs, hload, hrest, rfl⟩ := h
    obtain ⟨c', configs', hload', hrest', rfl⟩ := h'
    obtain ⟨hne, hyaml⟩ := hways way List.mem_cons_self
    have hsame : c.jobs = c'.jobs := by
      obtain ⟨-, c'', hload'', heq⟩ := hjobs way c.jobs ⟨hyaml, c, hload, rfl⟩
      cases hload'.symm.trans hload''
      exact heq.symm
    have hpath := relativeTo_joinAll_joinAll hyaml.names hne hplace
    rw [List.map_cons, List.map_cons, List.zip_cons_cons, List.zip_cons_cons, List.flatMap_cons,
      List.flatMap_cons, ih (fun w hw => hways w (List.mem_cons_of_mem _ hw)) hrest hrest', hpath,
      hpath, JobConfig.references_congr hsame]

/-! ### Agreement -/

/-- Two repositories agree on what a validation claims to read: on the rules, on where the
configuration files are, and on where the job files are and which jobs they have. -/
structure Agree (fs : FileSystem) (root : String) (fs' : FileSystem) (root' : String) : Prop where
  rules : fs.loadRules (Layout.pluginConfig root) = fs'.loadRules (Layout.pluginConfig root')
  configs : ∀ way, fs.HasYaml (Layout.configTree root) way ↔
    fs'.HasYaml (Layout.configTree root') way
  jobs : ∀ way jobs, fs.HasJobs (Layout.jobTree root) way jobs ↔
    fs'.HasJobs (Layout.jobTree root') way jobs

namespace Repository

variable {fs fs' : FileSystem} {root root' : String}

lemma exists_hasJobs {tree : String} {files : List String} {configs : List JobConfig}
    (hfiles : fs.yamlFiles tree = .ok files)
    (hloaded : List.Forall₂ (fun p c => fs.loadJobs p = .ok c) files configs)
    {way : List String} (h : fs.HasYaml tree way) : ∃ jobs, fs.HasJobs tree way jobs := by
  have hmem := (FileSystem.mem_yamlFiles_iff hfiles _).2 ⟨h.file, h.extension⟩
  obtain ⟨config, -, hload⟩ := Fallible.exists_mem_zip_left hloaded hmem
  exact ⟨config.jobs, h, config, hload, rfl⟩

/-- Files at the same ways are listed at the same ways. -/
lemma exists_ways (hfs : fs.HasFileNames) (hfs' : fs'.HasFileNames) {tree tree' : String}
    {files files' : List String} (h : fs.yamlFiles tree = .ok files)
    (h' : fs'.yamlFiles tree' = .ok files')
    (hsame : ∀ way, fs.HasYaml tree way ↔ fs'.HasYaml tree' way) :
    ∃ ways, FileSystem.AreAt files tree ways ∧ FileSystem.AreAt files' tree' ways ∧
      [] ∉ ways ∧ ∀ way ∈ ways, fs.HasYaml tree way := by
  obtain ⟨ways, hat, hne, hways⟩ := FileSystem.exists_areAt_yamlFiles hfs h
  obtain ⟨ways', hat', -, hways'⟩ := FileSystem.exists_areAt_yamlFiles hfs' h'
  have heq : ways = ways' := by
    refine List.Pairwise.eq_of_mem_iff hat.sorted hat'.sorted fun way => ?_
    rw [hways, hways', hsame]
  subst heq
  exact ⟨ways, hat, hat', hne, fun way hway => (hways way).1 hway⟩

/-- Repositories that agree are the same as they are read. -/
lemma eq_of_agree (hfs : fs.HasFileNames) (hfs' : fs'.HasFileNames)
    (hagree : Agree fs root fs' root') {repo repo' : Repository}
    (hread : (read fs root).value = .ok repo) (hread' : (read fs' root').value = .ok repo') :
    repo = repo' := by
  obtain ⟨rules, configs, jobs⟩ := repo
  obtain ⟨rules', configs', jobs'⟩ := repo'
  obtain ⟨hrules, hconfigs, hjobs⟩ := value_read_eq_ok_iff.1 hread
  obtain ⟨hrules', hconfigs', hjobs'⟩ := value_read_eq_ok_iff.1 hread'
  have hrulesEq : rules = rules' := by
    have h := hrules.symm.trans (hagree.rules.trans hrules')
    exact Except.ok.inj h
  have hconfigsEq : configs = configs' := by
    obtain ⟨files, hfiles, -, rfl⟩ := ConfigInventory.value_build_eq_ok_iff.1 hconfigs
    obtain ⟨files', hfiles', -, rfl⟩ := ConfigInventory.value_build_eq_ok_iff.1 hconfigs'
    obtain ⟨ways, hat, hat', hne, -⟩ := exists_ways hfs hfs' hfiles hfiles' hagree.configs
    simp only [Layout.configTree_eq] at hat hat' ⊢
    rw [hat.map_ofPath (by decide) hat' hne, hat.indexOf_eq (by decide) hat' hne]
  have hjobsEq : jobs = jobs' := by
    obtain ⟨files, hfiles, loaded, hloaded, rfl⟩ := JobInventory.value_build_eq_ok_iff.1 hjobs
    obtain ⟨files', hfiles', loaded', hloaded', rfl⟩ :=
      JobInventory.value_build_eq_ok_iff.1 hjobs'
    have hways : ∀ way, fs.HasYaml (Layout.jobTree root) way ↔
        fs'.HasYaml (Layout.jobTree root') way := by
      intro way
      constructor
      · intro h
        obtain ⟨jobs, hjobs⟩ := exists_hasJobs hfiles hloaded h
        exact ((hagree.jobs way jobs).1 hjobs).1
      · intro h
        obtain ⟨jobs, hjobs⟩ := exists_hasJobs hfiles' hloaded' h
        exact ((hagree.jobs way jobs).2 hjobs).1
    obtain ⟨ways, hat, hat', hne, hyaml⟩ := exists_ways hfs hfs' hfiles hfiles' hways
    have hsame := fun way jobs => (hagree.jobs way jobs).1
    -- both trees are the same names joined to a root
    simp only [Layout.jobTree_eq] at hat hat' hyaml hsame ⊢
    rw [hat.map_ofPath (by decide) hat' hne]
    rw [hat.files_eq] at hloaded ⊢
    rw [hat'.files_eq] at hloaded' ⊢
    exact congrArg (JobInventory.mk _) <| JobInventory.flatMap_references_eq (by decide)
      (fun way hway => ⟨fun hnil => hne (hnil ▸ hway), hyaml way hway⟩) hsame hloaded hloaded'
  rw [hrulesEq, hconfigsEq, hjobsEq]

/-- Two repositories that can be read and that agree on the rules, on the ways to their
configuration files and on the ways to their job files with the jobs in them get the same outcome,
wherever they lie and whatever else there is in them. -/
theorem validateRepo_eq_of_agree (fs fs' : FileSystem) (root root' : String)
    (hfs : fs.HasFileNames) (hfs' : fs'.HasFileNames) (repo repo' : Repository)
    (hread : (read fs root).value = .ok repo) (hread' : (read fs' root').value = .ok repo')
    (hagree : Agree fs root fs' root') :
    (∀ matches? : Matcher, ∃ outcome,
      (validateRepo fs matches?.source root).value = .ok outcome ∧
        (validateRepo fs' matches?.source root').value = .ok outcome) ∧
    ∀ source, (validateRepo fs source root).value = (validateRepo fs' source root').value := by
  have heq := eq_of_agree hfs hfs' hagree hread hread'
  subst heq
  refine ⟨fun matches? => ⟨repo.check matches?, ?_, ?_⟩, fun source => ?_⟩
  · exact value_validateRepo_eq_ok_iff.2 ⟨repo, hread, matches?, rfl, rfl⟩
  · exact value_validateRepo_eq_ok_iff.2 ⟨repo, hread', matches?, rfl, rfl⟩
  · rw [value_validateRepo, value_validateRepo, hread, hread']

/-! ### Two checkouts of one repository -/

/-- The small repository in another place, with more in it and with metadata in its configuration,
and its entries in another order. -/
def otherFiles : FileSystem where
  workDir := ["home"]
  entries :=
    [(["home", "r", "ci-operator", "jobs", "a.yaml"], .file (some sampleJobs)),
      (["home", "r", "ci-operator", "jobs", "z.yaml"], .dir),
      (["home", "r", "ci-operator", "jobs"], .dir),
      (["home", "r", "ci-operator", "config", "README"], .file none),
      (["home", "r", "ci-operator", "config", "a.yaml"],
        .file (some "zz_generated_metadata:\n branch: b\n")),
      (["home", "r", "ci-operator", "config"], .dir), (["home", "r", "ci-operator"], .dir),
      (["home", "r", "core-services", "prow", "02_config", "_plugins.yaml"],
        .file (some samplePlugins)),
      (["home", "r", "core-services", "prow", "02_config"], .dir),
      (["home", "r", "core-services", "prow"], .dir), (["home", "r", "core-services"], .dir),
      (["home", "r"], .dir), (["home"], .dir)]

/-- The root of the other checkout, from its working directory. -/
def otherRoot : String := "../home//r/."

lemma hasYaml_iff_of_yamlFiles_eq_singleton (hfs : fs.HasFileNames) {tree : String}
    {way : List String} (hway : ∀ name ∈ way, IsFileName name)
    (h : fs.yamlFiles tree = .ok [joinAll tree way]) (way' : List String) :
    fs.HasYaml tree way' ↔ way' = way := by
  obtain ⟨ways, hat, -, hmem⟩ := FileSystem.exists_areAt_yamlFiles hfs h
  obtain ⟨w, rfl, hw⟩ := List.map_eq_singleton_iff.1 hat.files_eq.symm
  have heq : w = way := joinAll_injective tree (hat.names w (List.mem_singleton_self w)) hway hw
  rw [← hmem, List.mem_singleton, heq]

lemma hasJobs_iff_of_yamlFiles_eq_singleton (hfs : fs.HasFileNames) {tree : String}
    {way : List String} (hway : ∀ name ∈ way, IsFileName name)
    (h : fs.yamlFiles tree = .ok [joinAll tree way]) {config : JobConfig}
    (hload : fs.loadJobs (joinAll tree way) = .ok config) (way' : List String)
    (jobs : List (JobKind × Job)) :
    fs.HasJobs tree way' jobs ↔ way' = way ∧ config.jobs = jobs := by
  rw [FileSystem.HasJobs, hasYaml_iff_of_yamlFiles_eq_singleton hfs hway h]
  refine and_congr_right fun hway' => ?_
  subst hway'
  simp only [hload, Except.ok.injEq, exists_eq_left']

lemma loadJobs_otherFiles :
    otherFiles.loadJobs (joinAll (Layout.jobTree otherRoot) ["a.yaml"]) = .ok sampleJobConfig :=
  FileSystem.load_of_readText (by decide +kernel) (by decide +kernel) readText_sampleJobs

lemma read_otherFiles : (read otherFiles otherRoot).value = .ok sample :=
  read_eq_sample (joinAll (Layout.configTree otherRoot) ["a.yaml"])
    (joinAll (Layout.jobTree otherRoot) ["a.yaml"])
    (by decide +kernel) (by decide +kernel) (by decide +kernel) readText_samplePlugins
    (by decide +kernel) ⟨⟨some ⟨"", "", "b", none⟩⟩, by decide +kernel⟩
    (by decide +kernel) (by decide +kernel) (by decide +kernel) (by decide +kernel)

lemma agree_sampleFiles_otherFiles : Agree sampleFiles "/" otherFiles otherRoot where
  rules := (value_read_eq_ok_iff.1 read_sample).1.trans
    (value_read_eq_ok_iff.1 read_otherFiles).1.symm
  configs way := by
    have hway : ∀ name ∈ ["a.yaml"], IsFileName name := by decide
    rw [hasYaml_iff_of_yamlFiles_eq_singleton (by decide) hway (by decide +kernel),
      hasYaml_iff_of_yamlFiles_eq_singleton (by decide) hway (by decide +kernel)]
  jobs way jobs := by
    have hload : sampleFiles.loadJobs (joinAll (Layout.jobTree "/") ["a.yaml"]) =
        .ok sampleJobConfig :=
      FileSystem.load_of_readText (by decide +kernel) (by decide +kernel) readText_sampleJobs
    rw [hasJobs_iff_of_yamlFiles_eq_singleton (by decide) (by decide) (by decide +kernel) hload,
      hasJobs_iff_of_yamlFiles_eq_singleton (by decide) (by decide) (by decide +kernel)
        loadJobs_otherFiles]

/-- The two checkouts of the small repository have the same outcome. -/
theorem validateRepo_otherFiles_eq :
    sampleFiles.HasFileNames ∧ otherFiles.HasFileNames ∧
      (read sampleFiles "/").value = .ok sample ∧ (read otherFiles otherRoot).value = .ok sample ∧
      Agree sampleFiles "/" otherFiles otherRoot ∧
      ∃ outcome, (validateRepo sampleFiles Glob.matcher.source "/").value = .ok outcome ∧
        (validateRepo otherFiles Glob.matcher.source otherRoot).value = .ok outcome := by
  have hfs : sampleFiles.HasFileNames := by decide
  have hfs' : otherFiles.HasFileNames := by decide
  refine ⟨hfs, hfs', read_sample, read_otherFiles, agree_sampleFiles_otherFiles, ?_⟩
  exact (validateRepo_eq_of_agree sampleFiles otherFiles "/" otherRoot hfs hfs' sample sample
    read_sample read_otherFiles agree_sampleFiles_otherFiles).1 Glob.matcher

end Repository

end ShardCheck
