import Mathlib.Tactic.Common
import ShardCheck.Proofs.Verdict
import ShardCheck.Proofs.Walk

/-!
# What a clean run guarantees

A run without findings says something about the cluster: a job that takes a configuration from a
config map finds it there. The guarantee goes from a job file over the reference and the index to a
configuration file, and from its record to the one rule that fills its config map.
-/

namespace ShardCheck

namespace Repository

variable {fs : FileSystem} {root : String} {repo : Repository}

/-- The record of a configuration stands under a key of the index only if a file of the tree has
that name, and it is one of the records that the partition is checked for. -/
lemma exists_config_of_get?_index (hread : (read fs root).value = .ok repo) {key : String}
    {r : PathRecord} (h : repo.configs.index.get? key = some r) :
    ∃ path, fs.HasFile (Layout.configTree root) path ∧ Path.extension? path = some "yaml" ∧
      Path.fileName? path = some key ∧
      r = .ofPath .ciOperator root (Layout.configTree root) path ∧ r ∈ repo.configs.records := by
  obtain ⟨-, hconfigs, -⟩ := value_read_eq_ok_iff.1 hread
  obtain ⟨files, hfiles, -, hv⟩ := ConfigInventory.value_build_eq_ok_iff.1 hconfigs
  rw [hv] at h ⊢
  obtain ⟨path, hpath, hkey, hr⟩ := ConfigInventory.exists_of_get?_indexOf h
  obtain ⟨hfile, hext⟩ := (FileSystem.mem_yamlFiles_iff hfiles path).1 hpath
  obtain ⟨name, hname⟩ := Path.exists_fileName?_of_extension? hext
  rw [FileInfo.key_ofPath, hname, Option.getD_some] at hkey
  subst hkey
  exact ⟨path, hfile, hext, hname, hr, List.mem_map.2 ⟨path, hpath, hr.symm⟩⟩

/-- Every job file was loaded, and what its jobs inject is among the references. -/
lemma exists_jobs_of_hasFile (hread : (read fs root).value = .ok repo) {file : String}
    (hfile : fs.HasFile (Layout.jobTree root) file) (hext : Path.extension? file = some "yaml") :
    ∃ config, fs.loadJobs file = .ok config ∧
      ∀ x ∈ config.references (Path.relativeTo root file), x ∈ repo.jobs.injections := by
  obtain ⟨-, -, hjobs⟩ := value_read_eq_ok_iff.1 hread
  obtain ⟨files, hfiles, configs, hloaded, hv⟩ := JobInventory.value_build_eq_ok_iff.1 hjobs
  have hmem : file ∈ files := (FileSystem.mem_yamlFiles_iff hfiles file).2 ⟨hfile, hext⟩
  obtain ⟨config, hzip, hload⟩ := Fallible.exists_mem_zip_left hloaded hmem
  refine ⟨config, hload, fun x hx => ?_⟩
  rw [hv]
  exact List.mem_flatMap.2 ⟨(file, config), hzip, hx⟩

/-- After a clean run every job file loads, and every configuration that one of its jobs takes from
a config map is a file of the configuration tree, whose path a single rule matches, and that rule
fills the config map that the job names. -/
theorem injected_config_of_clean_run (fs : FileSystem) (root : String) (matches? : Matcher)
    (hclean : (validate fs matches?.source root).value = .ok ()) :
    ∃ rules, fs.loadRules (Layout.pluginConfig root) = .ok rules ∧
      ∀ file, fs.HasFile (Layout.jobTree root) file → Path.extension? file = some "yaml" →
        ∃ config, fs.loadJobs file = .ok config ∧
          ∀ name key, config.Injects name key →
            ∃ path, fs.HasFile (Layout.configTree root) path ∧
              Path.extension? path = some "yaml" ∧ Path.fileName? path = some key ∧
              ∃ rule ∈ rules.entries, rule.2.name = name ∧
                ∀ glob ∈ rules.keys,
                  matches? glob (Path.relativeTo root path) = .ok true ↔ glob = rule.1 := by
  obtain ⟨repo, hread, hrepo⟩ := value_validate_eq_ok_iff.1 hclean
  refine ⟨repo.rules, (value_read_eq_ok_iff.1 hread).1, fun file hfile hext => ?_⟩
  obtain ⟨config, hload, hreferences⟩ := exists_jobs_of_hasFile hread hfile hext
  refine ⟨config, hload, fun name key hinjects => ?_⟩
  obtain ⟨x, hx, rfl, rfl⟩ := hinjects.exists_mem_references (Path.relativeTo root file)
  -- the reference is in order, so the index has a record with the config map that it names
  obtain ⟨r, hget, hbundle⟩ := hrepo.injections x (hreferences x hx)
  obtain ⟨path, hpath, hpathExt, hkey, hr, hrecord⟩ := exists_config_of_get?_index hread hget
  -- this record is one of a file, which a single rule matches
  obtain ⟨rule, hrule, hmatch, hname, honly⟩ :=
    hrepo.partition r (List.mem_append_left _ hrecord)
  have hplace : r.path = Path.relativeTo root path := by rw [hr]; rfl
  rw [hplace] at hmatch honly
  refine ⟨path, hpath, hpathExt, hkey, rule, hrule, hname.trans hbundle, fun glob hglob => ?_⟩
  constructor
  · exact honly glob hglob
  · rintro rfl
    exact hmatch

/-! ### A clean run -/

lemma loadJobs_sampleFiles :
    sampleFiles.loadJobs "/ci-operator/jobs/a.yaml" = .ok sampleJobConfig :=
  FileSystem.load_of_readText (by decide +kernel) (by decide +kernel) readText_sampleJobs

lemma injects_sampleJobConfig :
    sampleJobConfig.Injects "ci-operator-misc-configs" "a.yaml" := by
  refine ⟨.periodic, _, _, List.mem_singleton_self _, rfl, ?_⟩
  exact ⟨_, List.mem_singleton_self _, _, List.mem_singleton_self _, rfl, rfl⟩

lemma hasFile_sampleFiles :
    sampleFiles.HasFile (Layout.jobTree "/") "/ci-operator/jobs/a.yaml" := by
  have hjoin : Path.join (Layout.jobTree "/") "a.yaml" = "/ci-operator/jobs/a.yaml" := by
    decide +kernel
  have hat : sampleFiles.at? (["ci-operator", "jobs"] ++ ["a.yaml"]) =
      some (.file (some sampleJobs)) := by decide +kernel
  refine ⟨["ci-operator", "jobs"], by decide +kernel, ?_⟩
  rw [← hjoin]
  exact .file hat rfl

/-- The job of the small repository finds its configuration. -/
theorem injected_config_sample :
    (validate sampleFiles Glob.matcher.source "/").value = .ok () ∧
      ∃ path, sampleFiles.HasFile (Layout.configTree "/") path ∧
        Path.fileName? path = some "a.yaml" ∧
        ∃ rules, sampleFiles.loadRules (Layout.pluginConfig "/") = .ok rules ∧
          ∃ rule ∈ rules.entries, rule.2.name = "ci-operator-misc-configs" ∧
            ∀ glob ∈ rules.keys,
              Glob.matcher glob (Path.relativeTo "/" path) = .ok true ↔ glob = rule.1 := by
  have hclean : (validate sampleFiles Glob.matcher.source "/").value = .ok () :=
    value_validate_eq_ok_iff.2 ⟨sample, read_sample, isConsistent_sample⟩
  refine ⟨hclean, ?_⟩
  obtain ⟨rules, hrules, hfiles⟩ :=
    injected_config_of_clean_run sampleFiles "/" Glob.matcher hclean
  obtain ⟨config, hload, hinjected⟩ := hfiles _ hasFile_sampleFiles (by decide +kernel)
  cases loadJobs_sampleFiles.symm.trans hload
  obtain ⟨path, hpath, -, hname, hrule⟩ := hinjected _ _ injects_sampleJobConfig
  exact ⟨path, hpath, hname, rules, hrules, hrule⟩

end Repository

end ShardCheck
