import Mathlib.Tactic.Common
import ShardCheck.Proofs.Agreement
import ShardCheck.Proofs.Verdict

/-!
# The path of a record

The path of a record is the way to its file from the root of the repository, with slashes in place
of backslashes. Joined to the root it leads back to the file exactly if there is no backslash on the
way, and then no other such file has the same path. All that a validation says of files it says
under the paths of their records.
-/

namespace ShardCheck

namespace Path

/-! ### Backslashes -/

lemma length_forwardSlashes (s : String) :
    (forwardSlashes s).toList.length = s.toList.length := by
  simp [forwardSlashes]

lemma forwardSlashes_eq_self_iff {s : String} : forwardSlashes s = s ↔ '\\' ∉ s.toList := by
  rw [← String.toList_inj, forwardSlashes, String.toList_ofList]
  induction s.toList with
  | nil => simp
  | cons c cs ih =>
    rw [List.map_cons, List.cons.injEq, ih, List.mem_cons, not_or]
    refine and_congr_left fun _ => ?_
    by_cases hc : c = '\\'
    · simp [hc]
    · simp [hc, Ne.symm hc]

lemma toList_suffix_join (base p : String) : p.toList <:+ (join base p).toList := by
  unfold join
  split
  · exact List.suffix_refl _
  · split <;> simp only [String.toList_append] <;> exact List.suffix_append _ _

/-- Nothing but a backslash makes a difference behind a base. -/
lemma join_forwardSlashes_eq_iff {base s : String} :
    join base (forwardSlashes s) = join base s ↔ '\\' ∉ s.toList := by
  rw [← forwardSlashes_eq_self_iff]
  constructor
  · intro h
    -- both are the last characters of one path, and as many
    have hsuffix := toList_suffix_join base (forwardSlashes s)
    rw [h] at hsuffix
    have hlast := List.suffix_of_suffix_length_le hsuffix (toList_suffix_join base s)
      (Nat.le_of_eq (length_forwardSlashes s))
    exact String.toList_inj.1 (hlast.eq_of_length (length_forwardSlashes s))
  · intro h
    rw [h]

/-- The path goes on below a base, without a backslash. -/
def IsPlainBelow (base p : String) : Prop := ∃ s, strip? base p = some s ∧ '\\' ∉ s.toList

/-- The path of a file as seen from a root leads back to the file if it has no backslash. -/
lemma join_relativeTo_eq_iff {root : String} {names : List String}
    (h : ∀ name ∈ names, IsFileName name) (hne : names ≠ []) :
    join root (relativeTo root (joinAll root names)) = joinAll root names ↔
      IsPlainBelow root (joinAll root names) := by
  rw [relativeTo_joinAll h hne, ← join_ofSegments root h hne, join_forwardSlashes_eq_iff,
    IsPlainBelow, join_ofSegments root h hne, strip?_joinAll root h hne]
  simp only [Option.some.injEq, exists_eq_left']

end Path

open ShardCheck.Path

/-! ### What is said of files -/

/-- An event names its file as the failure does that it is about. -/
lemma Failure.lookup_fields (f : Failure) :
    f.fields.lookup "source_file" = f.sourceFile?.map .shown := by
  cases f <;> rfl

/-- A failure of a reference is about the file that the reference stands in. -/
lemma Injection.sourceFile?_of_checkReference {index : ConfigIndex} {x : InjectionReference}
    {f : Failure} (h : checkReference index x = some f) :
    f.sourceFile? = some x.location.sourceFile := by
  unfold checkReference at h
  split at h
  · cases h
    rfl
  · split at h
    · cases h
    · cases h
      rfl

namespace Repository

variable {fs : FileSystem} {root : String}

/-- The record is that of a configuration file of one of the two trees. -/
inductive IsRecordOf (fs : FileSystem) (root : String) : String → PathRecord → Prop where
  | config {files : List String} {file : String}
      (hfiles : fs.yamlFiles (Layout.configTree root) = .ok files) (h : file ∈ files) :
      IsRecordOf fs root file (.ofPath .ciOperator root (Layout.configTree root) file)
  | job {files : List String} {file : String}
      (hfiles : fs.yamlFiles (Layout.jobTree root) = .ok files) (h : file ∈ files) :
      IsRecordOf fs root file (.ofPath .job root (Layout.jobTree root) file)

/-- The path is that of the record of a file. -/
def IsRecordPath (fs : FileSystem) (root path : String) : Prop :=
  ∃ file r, IsRecordOf fs root file r ∧ r.path = path

lemma IsRecordOf.path_eq {file : String} {r : PathRecord} (h : IsRecordOf fs root file r) :
    r.path = relativeTo root file := by
  cases h <;> rfl

/-- A file of a tree is at some names from the root. -/
lemma IsRecordOf.exists_names (hfs : fs.HasFileNames) {file : String} {r : PathRecord}
    (h : IsRecordOf fs root file r) :
    ∃ names, (∀ name ∈ names, IsFileName name) ∧ names ≠ [] ∧ file = joinAll root names := by
  obtain ⟨place, files, hplace, hfiles, hmem⟩ : ∃ (place files : List String),
      (∀ name ∈ place, IsFileName name) ∧ fs.yamlFiles (joinAll root place) = .ok files ∧
        file ∈ files := by
    cases h with
    | config hfiles h => exact ⟨_, _, by decide, Layout.configTree_eq root ▸ hfiles, h⟩
    | job hfiles h => exact ⟨_, _, by decide, Layout.jobTree_eq root ▸ hfiles, h⟩
  obtain ⟨ways, hat, hne, -⟩ := FileSystem.exists_areAt_yamlFiles hfs hfiles
  rw [hat.files_eq] at hmem
  obtain ⟨way, hway, rfl⟩ := List.mem_map.1 hmem
  refine ⟨place ++ way, fun name hname => ?_, ?_, (joinAll_append root place way).symm⟩
  · rcases List.mem_append.1 hname with hname | hname
    · exact hplace name hname
    · exact hat.names way hway name hname
  · exact List.append_ne_nil_of_right_ne_nil place fun hnil => hne (hnil ▸ hway)

lemma IsRecordOf.join_path_eq_iff (hfs : fs.HasFileNames) {file : String} {r : PathRecord}
    (h : IsRecordOf fs root file r) : join root r.path = file ↔ IsPlainBelow root file := by
  obtain ⟨names, hnames, hne, rfl⟩ := h.exists_names hfs
  rw [h.path_eq]
  exact join_relativeTo_eq_iff hnames hne

/-! ### Records and references that were read -/

/-- The records that were read are those of the files of both trees. -/
lemma exists_forall₂_isRecordOf {repo : Repository} (h : (read fs root).value = .ok repo) :
    ∃ configFiles jobFiles, fs.yamlFiles (Layout.configTree root) = .ok configFiles ∧
      fs.yamlFiles (Layout.jobTree root) = .ok jobFiles ∧
      List.Forall₂ (IsRecordOf fs root) (configFiles ++ jobFiles) repo.records := by
  obtain ⟨-, hconfigs, hjobs⟩ := value_read_eq_ok_iff.1 h
  obtain ⟨configFiles, hconfigFiles, -, hconfigs⟩ :=
    ConfigInventory.value_build_eq_ok_iff.1 hconfigs
  obtain ⟨jobFiles, hjobFiles, _, -, hjobs⟩ := JobInventory.value_build_eq_ok_iff.1 hjobs
  refine ⟨configFiles, jobFiles, hconfigFiles, hjobFiles, ?_⟩
  rw [records, hconfigs, hjobs]
  refine List.rel_append ?_ ?_
  · exact List.forall₂_map_right_iff.2 (List.forall₂_same.2 fun _ => .config hconfigFiles)
  · exact List.forall₂_map_right_iff.2 (List.forall₂_same.2 fun _ => .job hjobFiles)

lemma isRecordPath_of_mem_records {repo : Repository} (h : (read fs root).value = .ok repo)
    {r : PathRecord} (hr : r ∈ repo.records) : IsRecordPath fs root r.path := by
  obtain ⟨configFiles, jobFiles, -, -, hfiles⟩ := exists_forall₂_isRecordOf h
  obtain ⟨file, -, hfile⟩ := Fallible.exists_mem_zip_right hfiles hr
  exact ⟨file, r, hfile, rfl⟩

/-- A reference names the job file that it stands in. -/
lemma isRecordPath_of_mem_injections {repo : Repository} (h : (read fs root).value = .ok repo)
    {x : InjectionReference} (hx : x ∈ repo.jobs.injections) :
    IsRecordPath fs root x.location.sourceFile := by
  obtain ⟨-, -, hjobs⟩ := value_read_eq_ok_iff.1 h
  obtain ⟨files, hfiles, configs, -, hjobs⟩ := JobInventory.value_build_eq_ok_iff.1 hjobs
  rw [hjobs] at hx
  obtain ⟨⟨file, config⟩, hmem, hx⟩ := List.mem_flatMap.1 hx
  rw [JobConfig.sourceFile_of_mem_references hx]
  exact ⟨file, _, .job hfiles (List.of_mem_zip hmem).1, rfl⟩

lemma isRecordPath_of_mem_failures {repo : Repository} (h : (read fs root).value = .ok repo)
    {matches? : Matcher} {f : Failure} (hf : f ∈ (repo.check matches?).failures) {path : String}
    (hpath : f.sourceFile? = some path) : IsRecordPath fs root path := by
  rw [check, Outcome.failures_append, Partition.failures_check_eq] at hf
  rcases List.mem_append.1 hf with hf | hf
  · rcases List.mem_append.1 hf with hrule | hfile
    · obtain ⟨rule, -, hrule⟩ := List.mem_flatMap.1 hrule
      rw [(Partition.about_of_mem_ruleFailures hrule).1] at hpath
      cases hpath
    · obtain ⟨r, hr, hfile⟩ := List.mem_flatMap.1 hfile
      rw [Partition.sourceFile?_of_mem_fileFailures hfile] at hpath
      exact Option.some.inj hpath ▸ isRecordPath_of_mem_records h hr
  · obtain ⟨x, hx, hfailure⟩ := List.mem_filterMap.1 hf
    rw [Injection.sourceFile?_of_checkReference hfailure] at hpath
    exact Option.some.inj hpath ▸ isRecordPath_of_mem_injections h hx

lemma isRecordPath_of_mem_warnings {repo : Repository} (h : (read fs root).value = .ok repo)
    {matches? : Matcher} {w : Warning} (hw : w ∈ (repo.check matches?).warnings) :
    IsRecordPath fs root w.sourceFile := by
  rw [check, Outcome.warnings_append, Partition.check, Outcome.warnings_append,
    Partition.checkRules_eq, Partition.checkPaths_eq, Injection.check, List.nil_append,
    List.append_nil] at hw
  obtain ⟨r, hr, hw⟩ := List.mem_flatMap.1 hw
  obtain ⟨rule, -, hw⟩ := List.mem_filterMap.1 hw
  split at hw
  · cases hw
  · cases hw
    exact isRecordPath_of_mem_records h hr

/-! ### The log -/

/-- If the event names a file, it does so by the path of a record. -/
def NamesRecord (fs : FileSystem) (root : String) (event : LogEvent) : Prop :=
  ∀ path, event.fields.lookup "source_file" = some (.shown path) → IsRecordPath fs root path

lemma namesRecord_of_lookup_eq_none {event : LogEvent}
    (h : event.fields.lookup "source_file" = none) : NamesRecord fs root event := by
  intro path hpath
  rw [h] at hpath
  cases hpath

lemma IsOfFileEvent.namesRecord {event : LogEvent} (h : IsOfFileEvent fs root event) :
    NamesRecord fs root event := by
  intro path hpath
  rcases h with ⟨files, hfiles, file, hfile, hevent⟩ | ⟨files, hfiles, file, hfile, hevent⟩
  all_goals rw [hevent.sourceFile] at hpath
  · exact ⟨file, _, .config hfiles hfile, FieldValue.shown.inj (Option.some.inj hpath)⟩
  · exact ⟨file, _, .job hfiles hfile, FieldValue.shown.inj (Option.some.inj hpath)⟩

lemma logsOnly_conclude {repo : Repository} (h : (read fs root).value = .ok repo)
    (matches? : Matcher) :
    Run.LogsOnly (NamesRecord fs root) (repo.check matches?).conclude := by
  intro event hevent
  rw [Outcome.events_conclude, Outcome.events] at hevent
  rcases List.mem_append.1 hevent with hfound | hverdict
  · intro path hpath
    rcases List.mem_append.1 hfound with hw | hf
    · obtain ⟨w, hmem, rfl⟩ := List.mem_map.1 hw
      cases hpath
      exact isRecordPath_of_mem_warnings h hmem
    · obtain ⟨f, hmem, rfl⟩ := List.mem_map.1 hf
      rw [Failure.event, Failure.lookup_fields, Option.map_eq_some_iff] at hpath
      obtain ⟨path', hpath', heq⟩ := hpath
      cases heq
      exact isRecordPath_of_mem_failures h hmem hpath'
  · unfold Outcome.verdict at hverdict
    split at hverdict
    · rw [List.mem_singleton.1 hverdict]
      exact namesRecord_of_lookup_eq_none rfl
    · cases hverdict

/-- A validation names files by the paths of their records only. -/
lemma logsOnly_validate (fs : FileSystem) (source : MatcherSource) (root : String) :
    Run.LogsOnly (NamesRecord fs root) (validate fs source root) := by
  rw [validate_eq]
  refine Run.logsOnly_bind (isAdding_validateRepo fs source root) Outcome.isAdding_conclude ?_ ?_
  · exact logsOnly_validateRepo (fun _ h => namesRecord_of_lookup_eq_none h)
      (fun _ hevent => hevent.namesRecord) source
  · intro outcome houtcome
    obtain ⟨repo, hread, matches?, -, rfl⟩ := value_validateRepo_eq_ok_iff.1 houtcome
    exact logsOnly_conclude hread matches?

/-! ### Paths and files -/

/-- Joined to the root, the path of a record leads back to its file exactly if there is no backslash
on the way from the root to the file, and two such files have different paths. A repository that was
read has one record for every file, and whatever a check finds wrong with a file or a validation
writes about it goes under the path of its record. -/
theorem record_path_identifies_file (fs : FileSystem) (root : String) (hfs : fs.HasFileNames) :
    (∀ file r, IsRecordOf fs root file r →
      (join root r.path = file ↔ IsPlainBelow root file)) ∧
    (∀ file r file' r', IsRecordOf fs root file r → IsRecordOf fs root file' r' →
      IsPlainBelow root file → IsPlainBelow root file' → file ≠ file' → r.path ≠ r'.path) ∧
    (∀ repo, (read fs root).value = .ok repo →
      (∃ configFiles jobFiles, fs.yamlFiles (Layout.configTree root) = .ok configFiles ∧
        fs.yamlFiles (Layout.jobTree root) = .ok jobFiles ∧
        List.Forall₂ (IsRecordOf fs root) (configFiles ++ jobFiles) repo.records) ∧
      ∀ matches? : Matcher,
        (∀ f ∈ (repo.check matches?).failures, ∀ path, f.sourceFile? = some path →
          IsRecordPath fs root path) ∧
        ∀ w ∈ (repo.check matches?).warnings, IsRecordPath fs root w.sourceFile) ∧
    ∀ source, ∀ event ∈ (validate fs source root).events, ∀ path,
      event.fields.lookup "source_file" = some (.shown path) → IsRecordPath fs root path := by
  refine ⟨fun file r h => h.join_path_eq_iff hfs, ?_, fun repo hread => ⟨?_, fun matches? => ?_⟩,
    fun source => logsOnly_validate fs source root⟩
  · intro file r file' r' h h' hplain hplain' hne hpath
    refine hne ?_
    rw [← (h.join_path_eq_iff hfs).2 hplain, hpath, (h'.join_path_eq_iff hfs).2 hplain']
  · exact exists_forall₂_isRecordOf hread
  · exact ⟨fun f hf path hpath => isRecordPath_of_mem_failures hread hf hpath,
      fun w hw => isRecordPath_of_mem_warnings hread hw⟩

/-! ### A backslash in a name -/

/-- Two configurations, one in a directory and one with a backslash in its name. -/
def twinFiles : FileSystem where
  workDir := []
  entries :=
    [(["ci-operator"], .dir), (["ci-operator", "config"], .dir),
      (["ci-operator", "config", "a"], .dir),
      (["ci-operator", "config", "a", "b.yaml"], .file (some "")),
      (["ci-operator", "config", "a\\b.yaml"], .file (some ""))]

lemma yamlFiles_twinFiles :
    twinFiles.yamlFiles (Layout.configTree "/") =
      .ok ["/ci-operator/config/a/b.yaml", "/ci-operator/config/a\\b.yaml"] := by
  decide +kernel

/-- The records of the two files have one path, and it leads to the first of them only. -/
theorem record_path_twinFiles :
    twinFiles.HasFileNames ∧ ∃ r r',
      IsRecordOf twinFiles "/" "/ci-operator/config/a/b.yaml" r ∧
        IsRecordOf twinFiles "/" "/ci-operator/config/a\\b.yaml" r' ∧
        r.path = r'.path ∧ join "/" r'.path = "/ci-operator/config/a/b.yaml" := by
  refine ⟨by decide, _, _, .config yamlFiles_twinFiles (by simp),
    .config yamlFiles_twinFiles (by simp), ?_, ?_⟩
  · decide +kernel
  · decide +kernel

/-- The two files of the small repository have different paths, which lead back to them, and a check
whose patterns match nothing names them both by these paths. -/
theorem record_path_sample :
    sampleFiles.HasFileNames ∧ (read sampleFiles "/").value = .ok sample ∧
      ∃ r r', IsRecordOf sampleFiles "/" "/ci-operator/config/a.yaml" r ∧
        IsRecordOf sampleFiles "/" "/ci-operator/jobs/a.yaml" r' ∧
        join "/" r.path = "/ci-operator/config/a.yaml" ∧
        join "/" r'.path = "/ci-operator/jobs/a.yaml" ∧ r.path ≠ r'.path ∧
        .uncovered "ci-operator/config/a.yaml" ∈
          (sample.check fun _ _ => .ok false).failures ∧
        IsRecordPath sampleFiles "/" "ci-operator/config/a.yaml" := by
  have hfs : sampleFiles.HasFileNames := by decide
  have hconfig : sampleFiles.yamlFiles (Layout.configTree "/") =
      .ok ["/ci-operator/config/a.yaml"] := by decide +kernel
  have hjob : sampleFiles.yamlFiles (Layout.jobTree "/") =
      .ok ["/ci-operator/jobs/a.yaml"] := by decide +kernel
  have hplain : IsPlainBelow "/" "/ci-operator/config/a.yaml" :=
    ⟨"ci-operator/config/a.yaml", by decide +kernel, by decide⟩
  have hplain' : IsPlainBelow "/" "/ci-operator/jobs/a.yaml" :=
    ⟨"ci-operator/jobs/a.yaml", by decide +kernel, by decide⟩
  have hrecord := IsRecordOf.config hconfig (List.mem_singleton_self _)
  have hrecord' := IsRecordOf.job hjob (List.mem_singleton_self _)
  obtain ⟨hjoin, hne, hnamed, -⟩ := record_path_identifies_file sampleFiles "/" hfs
  have huncovered : .uncovered "ci-operator/config/a.yaml" ∈
      (sample.check fun _ _ => .ok false).failures := by decide +kernel
  refine ⟨hfs, read_sample, _, _, hrecord, hrecord', ?_, ?_, ?_, huncovered, ?_⟩
  · exact (hjoin _ _ hrecord).2 hplain
  · exact (hjoin _ _ hrecord').2 hplain'
  · exact hne _ _ _ _ hrecord hrecord' hplain hplain' (by decide)
  · exact ((hnamed sample read_sample).2 fun _ _ => .ok false).1 _ huncovered _ rfl

end Repository

end ShardCheck
