import Mathlib.Tactic.Common
import ShardCheck.Inventory
import ShardCheck.Proofs.Fallible
import ShardCheck.Proofs.KeyMap
import ShardCheck.Proofs.Run

/-!
# What is read from the trees

The files of a tree are loaded one after the other. When all of them can be loaded, each has one
record, in the order of the walk. The index of the configurations leads from a file name to the
record of a file with that name, and the references of the jobs are those of all job files.
-/

namespace ShardCheck

def PathRecord.ofPath (k : ConfigKind) (root tree path : String) : PathRecord :=
  ⟨Path.relativeTo root path, (FileInfo.ofPath k tree path).bundleName⟩

lemma PathRecord.bundle_ofPath (k : ConfigKind) (root tree path : String) :
    (ofPath k root tree path).bundle = (FileInfo.ofPath k tree path).bundleName := by
  rw [ofPath]

lemma Path.exists_fileName?_of_extension? {p ext : String} (h : extension? p = some ext) :
    ∃ name, fileName? p = some name := by
  unfold extension? at h
  cases hname : fileName? p with
  | none => simp [hname] at h
  | some name => exact ⟨name, rfl⟩

/-- The key of a file is its name. -/
lemma FileInfo.key_ofPath (k : ConfigKind) (tree path : String) :
    (ofPath k tree path).key = (Path.fileName? path).getD "" := by
  unfold ofPath
  simp only
  split <;> rfl

/-- A blank file is loaded as the empty one, any other as what its text is read as. -/
lemma FileSystem.load_eq_ok_iff {α : Type} {fs : FileSystem} {r : Yaml.Reader α} {empty x : α}
    {path : String} :
    fs.load r empty path = .ok x ↔ ∃ s, fs.readText path = .ok s ∧
      (Text.allBlank s.toList = true ∧ x = empty ∨
        Text.allBlank s.toList = false ∧ r.readText s.toList = .ok x) := by
  rw [load]
  cases fs.readText path with
  | error fault => simp
  | ok s =>
    cases hblank : Text.allBlank s.toList with
    | true =>
      simp only [hblank, if_true, Except.ok.injEq, exists_eq_left', true_and, Bool.true_eq_false,
        false_and, or_false]
      exact eq_comm
    | false => simp [hblank, Fallible.mapError_eq_ok_iff]

lemma FileSystem.load_of_readText {α : Type} {fs : FileSystem} {r : Yaml.Reader α} {empty x : α}
    {path s : String} (htext : fs.readText path = .ok s) (hblank : Text.allBlank s.toList = false)
    (hread : r.readText s.toList = .ok x) : fs.load r empty path = .ok x :=
  load_eq_ok_iff.2 ⟨s, htext, .inr ⟨hblank, hread⟩⟩

/-! ### Reading all files -/

section Load

variable {σ β : Type} {readFile : σ → String → Run σ} {load : String → Except RunError β}
  {add : σ → String → β → σ}

/-- All files are read if all of them can be loaded, and then they are added in their order. -/
lemma value_readFiles_eq_ok_iff (hadding : ∀ s path, Run.IsAdding (readFile s path))
    (hvalue : ∀ s path, (readFile s path).value =
      ((load path).mapError Halt.error).map (add s path))
    {x : Except RunError (List String)} {start s : σ} :
    (liftM x >>= fun files => files.foldlM readFile start : Run σ).value = .ok s ↔
      ∃ files, x = .ok files ∧
        ∃ loaded, List.Forall₂ (fun path b => load path = .ok b) files loaded ∧
          s = (files.zip loaded).foldl (fun s x => add s x.1 x.2) start := by
  rw [Run.value_bind _ fun files => Run.isAdding_foldlM hadding files start, Run.value_liftM,
    Fallible.bind_eq_ok_iff]
  simp only [Run.value_foldlM hadding, hvalue, Fallible.mapError_eq_ok_iff]
  refine exists_congr fun files => and_congr_right fun _ => ?_
  rw [Fallible.foldlM_load (fun path => (load path).mapError Halt.error) add,
    Fallible.map_eq_ok_iff]
  simp only [Fallible.mapM_eq_ok_iff, Fallible.mapError_eq_ok_iff]
  exact exists_congr fun loaded => and_congr_right fun _ => eq_comm

/-- Reading fails with the files that cannot be listed, or else with the first file that cannot be
loaded. -/
lemma value_readFiles_eq_error_iff (hadding : ∀ s path, Run.IsAdding (readFile s path))
    (hvalue : ∀ s path, (readFile s path).value =
      ((load path).mapError Halt.error).map (add s path))
    {x : Except RunError (List String)} {start : σ} {halt : Halt} :
    (liftM x >>= fun files => files.foldlM readFile start : Run σ).value = .error halt ↔
      ∃ e, halt = .error e ∧ (x = .error e ∨ ∃ before path after,
        x = .ok (before ++ path :: after) ∧ (∀ p ∈ before, ∃ b, load p = .ok b) ∧
          load path = .error e) := by
  rw [Run.value_bind _ fun files => Run.isAdding_foldlM hadding files start, Run.value_liftM,
    Fallible.bind_eq_error_iff]
  simp only [Run.value_foldlM hadding, hvalue, Fallible.mapError_eq_ok_iff,
    Fallible.foldlM_load (fun path => (load path).mapError Halt.error) add,
    Fallible.map_eq_error_iff, Fallible.mapM_eq_error_iff, Fallible.mapError_eq_error_iff]
  constructor
  · rintro (⟨e, he, rfl⟩ | ⟨files, hfiles, before, path, after, rfl, hbefore, e, he, rfl⟩)
    · exact ⟨e, rfl, .inl he⟩
    · exact ⟨e, rfl, .inr ⟨before, path, after, hfiles, hbefore, he⟩⟩
  · rintro ⟨e, rfl, he | ⟨before, path, after, hfiles, hbefore, he⟩⟩
    · exact .inl ⟨e, he, rfl⟩
    · exact .inr ⟨_, hfiles, before, path, after, rfl, hbefore, e, he, rfl⟩

/-- Files that cannot be listed are not read, and nothing is logged of any of them. -/
lemma readFiles_of_error (hadding : ∀ s path, Run.IsAdding (readFile s path)) (e : RunError)
    (start : σ) :
    (liftM (Except.error e : Except RunError (List String)) >>= fun files =>
        files.foldlM readFile start : Run σ).value = .error (.error e) ∧
      (liftM (Except.error e : Except RunError (List String)) >>= fun files =>
        files.foldlM readFile start : Run σ).events = [] := by
  have hrest := fun files => Run.isAdding_foldlM hadding files start
  constructor
  · rw [Run.value_bind _ hrest]
    rfl
  · rw [Run.events_bind_of_error (Run.isAdding_liftM _) hrest (e := .error e) rfl]
    rfl

end Load

/-- An event of a file that was read: a detail that names the file. -/
structure LogEvent.IsOfFile (path : String) (event : LogEvent) : Prop where
  level : event.level = .debug
  message : event.message ≠ "Loaded release repository."
  sourceFile : event.fields.lookup "source_file" = some (.shown path)

lemma LogEvent.isOfFile {message path : String} {fields : List (String × FieldValue)}
    (h : message ≠ "Loaded release repository.") :
    IsOfFile path ⟨.debug, message, ("source_file", .shown path) :: fields⟩ :=
  ⟨rfl, h, rfl⟩

/-- An event of one of the files of a tree, which it names as seen from a root. -/
def LogEvent.IsOfTree (fs : FileSystem) (root tree : String) (event : LogEvent) : Prop :=
  ∃ files, fs.yamlFiles tree = .ok files ∧
    ∃ path ∈ files, event.IsOfFile (Path.relativeTo root path)

/-! ### Configurations -/

namespace ConfigInventory

variable {fs : FileSystem} {root tree : String}

def addPath (root tree : String) (v : ConfigInventory) (path : String) : ConfigInventory :=
  v.add (FileInfo.ofPath .ciOperator tree path) (.ofPath .ciOperator root tree path)

lemma isLogging_logOtherBranch (r : PathRecord) (i : FileInfo) (m : Metadata) :
    Run.IsLogging (logOtherBranch r i m) := by
  unfold logOtherBranch
  split
  · exact Run.isLogging_pure
  · exact Run.isLogging_log _ _ _

def logLoaded (r : PathRecord) (i : FileInfo) (config : CiOperatorConfig) : Run Unit := do
  match config.metadata with
  | some m => logOtherBranch r i m
  | none => pure ()
  logFound r i

lemma isLogging_logLoaded (r : PathRecord) (i : FileInfo) (config : CiOperatorConfig) :
    Run.IsLogging (logLoaded r i config) := by
  unfold logLoaded
  cases config.metadata with
  | none => exact Run.isLogging_log _ _ _
  | some m => exact Run.isLogging_bind (isLogging_logOtherBranch r i m) (Run.isLogging_log _ _ _)

lemma readFile_eq (v : ConfigInventory) (path : String) :
    readFile fs root tree v path =
      (liftM (fs.loadConfig path) >>= fun config =>
        logLoaded (.ofPath .ciOperator root tree path) (.ofPath .ciOperator tree path) config >>=
          fun _ => pure (addPath root tree v path)) := by
  unfold readFile logLoaded
  congr 1
  funext config
  cases config.metadata with
  | none => rfl
  | some m => simp [addPath, PathRecord.ofPath]

lemma isAdding_readFile (v : ConfigInventory) (path : String) :
    Run.IsAdding (readFile fs root tree v path) := by
  rw [readFile_eq]
  exact Run.isAdding_load (isLogging_logLoaded _ _) _ _

lemma value_readFile (v : ConfigInventory) (path : String) :
    (readFile fs root tree v path).value =
      ((fs.loadConfig path).mapError Halt.error).map fun _ => addPath root tree v path := by
  rw [readFile_eq]
  exact Run.value_load (isLogging_logLoaded _ _) _ _

lemma isAdding_build : Run.IsAdding (build fs root tree) :=
  Run.isAdding_bind (Run.isAdding_liftM _) fun files =>
    Run.isAdding_foldlM isAdding_readFile files default

lemma logsOnly_logLoaded (r : PathRecord) (i : FileInfo) (config : CiOperatorConfig) :
    Run.LogsOnly (LogEvent.IsOfFile r.path) (logLoaded r i config) := by
  have hfound : Run.LogsOnly (LogEvent.IsOfFile r.path) (logFound r i) :=
    Run.logsOnly_log (LogEvent.isOfFile (by decide))
  unfold logLoaded
  cases config.metadata with
  | none => exact hfound
  | some m =>
    refine Run.logsOnly_bind (isLogging_logOtherBranch r i m).1
      (fun _ => (Run.isLogging_log _ _ _).1) ?_ fun _ _ => hfound
    unfold logOtherBranch
    split
    · exact Run.logsOnly_pure _
    · exact Run.logsOnly_log (LogEvent.isOfFile (by decide))

lemma logsOnly_build : Run.LogsOnly (LogEvent.IsOfTree fs root tree) (build fs root tree) := by
  refine Run.logsOnly_bind (Run.isAdding_liftM _)
    (fun files => Run.isAdding_foldlM isAdding_readFile files default) (Run.logsOnly_liftM _)
    fun files hfiles => Run.logsOnly_foldlM isAdding_readFile (fun path hpath v => ?_) default
  rw [Run.value_liftM, Fallible.mapError_eq_ok_iff] at hfiles
  rw [readFile_eq]
  refine Run.logsOnly_load (isLogging_logLoaded _ _) _ _ fun config event hevent => ?_
  exact ⟨files, hfiles, path, hpath,
    logsOnly_logLoaded (.ofPath .ciOperator root tree path) _ config event hevent⟩

def indexOf (root tree : String) (files : List String) : ConfigIndex :=
  files.foldl (fun index path => index.insert (FileInfo.ofPath .ciOperator tree path).key
    (.ofPath .ciOperator root tree path)) ∅

lemma indexOf_eq_ofList (files : List String) :
    indexOf root tree files = .ofList (files.map fun path =>
      ((FileInfo.ofPath .ciOperator tree path).key, .ofPath .ciOperator root tree path)) := by
  simp only [indexOf, KeyMap.ofList, List.foldl_map]
  congr 1

lemma foldl_addPath (files : List String) (v : ConfigInventory) :
    files.foldl (addPath root tree) v =
      ⟨v.records ++ files.map (.ofPath .ciOperator root tree),
        files.foldl (fun index path => index.insert (FileInfo.ofPath .ciOperator tree path).key
          (.ofPath .ciOperator root tree path)) v.index⟩ := by
  induction files generalizing v with
  | nil => simp
  | cons path files ih =>
    rw [List.foldl_cons, ih]
    simp [addPath, add]

/-- Files are read, one after the other, if every one of them loads. -/
lemma value_foldlM_readFile_eq_ok_iff {files : List String} {v : ConfigInventory} :
    (files.foldlM (readFile fs root tree) default).value = .ok v ↔
      (∀ file ∈ files, ∃ config, fs.loadConfig file = .ok config) ∧
        v = ⟨files.map (.ofPath .ciOperator root tree), indexOf root tree files⟩ := by
  rw [Run.value_foldlM isAdding_readFile]
  simp only [value_readFile]
  rw [Fallible.foldlM_load (fun path => (fs.loadConfig path).mapError Halt.error)
    fun v path _ => addPath root tree v path, Fallible.map_eq_ok_iff]
  simp only [Fallible.mapM_eq_ok_iff, Fallible.mapError_eq_ok_iff]
  rw [← Fallible.exists_forall₂_iff, ← exists_and_right]
  refine exists_congr fun configs => and_congr_right fun hload => ?_
  have hzip : (files.zip configs).foldl (fun v x => addPath root tree v x.1) default =
      files.foldl (addPath root tree) default := by
    rw [← List.foldl_map, List.map_fst_zip (Nat.le_of_eq hload.length_eq)]
  rw [hzip, foldl_addPath, eq_comm]
  rfl

/-- The tree is read if the walk succeeds and every file of it loads. -/
lemma value_build_eq_ok_iff {v : ConfigInventory} :
    (build fs root tree).value = .ok v ↔
      ∃ files, fs.yamlFiles tree = .ok files ∧
        (∃ configs, List.Forall₂ (fun p c => fs.loadConfig p = .ok c) files configs) ∧
        v = ⟨files.map (.ofPath .ciOperator root tree), indexOf root tree files⟩ := by
  rw [build, Run.value_bind _ fun files => Run.isAdding_foldlM isAdding_readFile files default,
    Run.value_liftM, Fallible.bind_eq_ok_iff]
  simp only [value_foldlM_readFile_eq_ok_iff, Fallible.mapError_eq_ok_iff,
    Fallible.exists_forall₂_iff]

lemma get?_foldl_insert_ofPath {files : List String} {index : ConfigIndex} {key : String}
    {r : PathRecord}
    (h : (files.foldl (fun index path =>
      index.insert (FileInfo.ofPath .ciOperator tree path).key
        (.ofPath .ciOperator root tree path)) index).get? key = some r) :
    index.get? key = some r ∨ ∃ path ∈ files,
      (FileInfo.ofPath .ciOperator tree path).key = key ∧
        r = .ofPath .ciOperator root tree path := by
  induction files generalizing index with
  | nil => exact .inl h
  | cons path files ih =>
    rw [List.foldl_cons] at h
    rcases ih h with hget | ⟨later, hmem, hlater⟩
    · rw [KeyMap.get?_insert] at hget
      split at hget
      · rename_i hkey
        exact .inr ⟨path, List.mem_cons_self, hkey.symm, (Option.some.inj hget).symm⟩
      · exact .inl hget
    · exact .inr ⟨later, List.mem_cons_of_mem _ hmem, hlater⟩

/-- A key leads to the record of a file with that key. -/
lemma exists_of_get?_indexOf {files : List String} {key : String} {r : PathRecord}
    (h : (indexOf root tree files).get? key = some r) :
    ∃ path ∈ files, (FileInfo.ofPath .ciOperator tree path).key = key ∧
      r = .ofPath .ciOperator root tree path := by
  rcases get?_foldl_insert_ofPath h with hnone | hpath
  · rw [KeyMap.get?_empty] at hnone
    cases hnone
  · exact hpath

end ConfigInventory

/-! ### Jobs -/

/-- A file has a job of some kind. -/
def JobConfig.HasJob (c : JobConfig) (job : Job) : JobKind → Prop
  | .presubmit => ∃ repo jobs, c.presubmits.get? repo = some jobs ∧ job ∈ jobs
  | .postsubmit => ∃ repo jobs, c.postsubmits.get? repo = some jobs ∧ job ∈ jobs
  | .periodic => job ∈ c.periodics

/-- A container of a job in a file takes its configuration from a key of a config map. -/
def JobConfig.Injects (c : JobConfig) (name key : String) : Prop :=
  ∃ kind job spec, c.HasJob job kind ∧ job.spec = some spec ∧
    ∃ container ∈ spec.containers, ∃ v ∈ container.env,
      v.name = "CONFIG_SPEC" ∧ v.valueFrom = some ⟨some ⟨name, key⟩⟩

namespace JobConfig

variable {c : JobConfig}

lemma mem_flatten_values_iff {jobs : KeyMap (List Job)} {job : Job} :
    job ∈ jobs.values.flatten ↔ ∃ repo js, jobs.get? repo = some js ∧ job ∈ js := by
  simp only [KeyMap.values, List.mem_flatten, List.mem_map, Prod.exists, exists_eq_right,
    KeyMap.get?_eq_some_iff]
  constructor
  · rintro ⟨js, ⟨repo, hentry⟩, hjob⟩
    exact ⟨repo, js, hentry, hjob⟩
  · rintro ⟨repo, js, hentry, hjob⟩
    exact ⟨js, ⟨repo, hentry⟩, hjob⟩

lemma mem_jobs_iff {kind : JobKind} {job : Job} : (kind, job) ∈ c.jobs ↔ c.HasJob job kind := by
  cases kind <;> simp [jobs, HasJob, ← mem_flatten_values_iff]

/-- No injected configuration of a file is lost. -/
lemma Injects.exists_mem_references {name key : String} (h : c.Injects name key)
    (sourceFile : String) : ∃ x ∈ c.references sourceFile, x.key = key ∧ x.bundle = name := by
  obtain ⟨kind, job, spec, hjob, hspec, container, hcontainer, v, hv, hname, hsource⟩ := h
  obtain ⟨i, hi, hget⟩ := List.mem_iff_getElem.1 hcontainer
  have hpod : (kind, job, spec) ∈ c.jobsWithSpec :=
    List.mem_filterMap.2 ⟨(kind, job), mem_jobs_iff.2 hjob, by simp [hspec]⟩
  have hindex : (container, i) ∈ spec.containers.zipIdx :=
    List.mem_zipIdx_iff_getElem?.2 (by rw [List.getElem?_eq_getElem hi, hget])
  have hinjected : v.injected? = some ⟨name, key⟩ := by
    simp [EnvVar.injected?, EnvVar.configSpec, hname, hsource]
  refine ⟨⟨key, name, ⟨sourceFile, kind, job.name, i⟩⟩, ?_, rfl, rfl⟩
  refine List.mem_flatMap.2 ⟨(kind, job, spec), hpod, ?_⟩
  refine List.mem_flatMap.2 ⟨(container, i), hindex, ?_⟩
  exact List.mem_map.2 ⟨⟨name, key⟩, List.mem_filterMap.2 ⟨v, hv, hinjected⟩, rfl⟩

lemma sourceFile_of_mem_references {sourceFile : String} {x : InjectionReference}
    (h : x ∈ c.references sourceFile) : x.location.sourceFile = sourceFile := by
  obtain ⟨pod, -, h⟩ := List.mem_flatMap.1 h
  obtain ⟨container, -, h⟩ := List.mem_flatMap.1 h
  obtain ⟨k, -, rfl⟩ := List.mem_map.1 h
  rfl

end JobConfig

namespace JobInventory

variable {fs : FileSystem} {root tree : String}

def addConfig (root tree : String) (v : JobInventory) (path : String) (config : JobConfig) :
    JobInventory :=
  ⟨v.records ++ [.ofPath .job root tree path],
    v.injections ++ config.references (Path.relativeTo root path)⟩

lemma isAdding_readFile (v : JobInventory) (path : String) :
    Run.IsAdding (readFile fs root tree v path) :=
  Run.isAdding_load (fun _ => Run.isLogging_log _ _ _) _ _

lemma value_readFile (v : JobInventory) (path : String) :
    (readFile fs root tree v path).value =
      ((fs.loadJobs path).mapError Halt.error).map (addConfig root tree v path) :=
  Run.value_load (fun _ => Run.isLogging_log _ _ _) _ _

lemma isAdding_build : Run.IsAdding (build fs root tree) :=
  Run.isAdding_bind (Run.isAdding_liftM _) fun files =>
    Run.isAdding_foldlM isAdding_readFile files default

lemma logsOnly_build : Run.LogsOnly (LogEvent.IsOfTree fs root tree) (build fs root tree) := by
  refine Run.logsOnly_bind (Run.isAdding_liftM _)
    (fun files => Run.isAdding_foldlM isAdding_readFile files default) (Run.logsOnly_liftM _)
    fun files hfiles => Run.logsOnly_foldlM isAdding_readFile (fun path hpath v => ?_) default
  rw [Run.value_liftM, Fallible.mapError_eq_ok_iff] at hfiles
  exact Run.logsOnly_load (fun _ => Run.isLogging_log _ _ _) _ _
    fun _ => Run.logsOnly_log ⟨files, hfiles, path, hpath, LogEvent.isOfFile (by decide)⟩

lemma foldl_addConfig (loaded : List (String × JobConfig)) (v : JobInventory) :
    loaded.foldl (fun v x => addConfig root tree v x.1 x.2) v =
      ⟨v.records ++ (loaded.map Prod.fst).map (.ofPath .job root tree),
        v.injections ++ loaded.flatMap fun x => x.2.references (Path.relativeTo root x.1)⟩ := by
  induction loaded generalizing v with
  | nil => simp
  | cons x loaded ih =>
    rw [List.foldl_cons, ih]
    simp [addConfig]

/-- The tree is read if the walk succeeds and every file of it loads. The references are those of
the files in their order. -/
lemma value_build_eq_ok_iff {v : JobInventory} :
    (build fs root tree).value = .ok v ↔
      ∃ files, fs.yamlFiles tree = .ok files ∧
        ∃ configs, List.Forall₂ (fun p c => fs.loadJobs p = .ok c) files configs ∧
        v = ⟨files.map (.ofPath .job root tree),
          (files.zip configs).flatMap fun x => x.2.references (Path.relativeTo root x.1)⟩ := by
  rw [build, value_readFiles_eq_ok_iff isAdding_readFile value_readFile]
  refine exists_congr fun files => and_congr_right fun _ => ?_
  refine exists_congr fun configs => and_congr_right fun hload => ?_
  rw [foldl_addConfig, List.map_fst_zip (Nat.le_of_eq hload.length_eq)]
  rfl

end JobInventory

end ShardCheck
