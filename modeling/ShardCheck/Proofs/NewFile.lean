import Mathlib.Tactic.Common
import ShardCheck.Proofs.Agreement
import ShardCheck.Proofs.LinkFree
import ShardCheck.Proofs.Partition

/-!
# One file more

In a repository without links a file has one place in the walk of its tree. A new file goes in there
and leaves the others as they are, so what the checks find in it stands as one block among what they
found before. Only the index of the configurations has the files look at each other: of two with one
name the later counts.
-/

namespace ShardCheck

open ShardCheck.Path

/-- One element more in a sorted list stands somewhere in between. -/
lemma exists_insert_of_mem_iff {α : Type} {r : α → α → Prop} [Std.Irrefl r] [Std.Asymm r]
    {as as' : List α} {a : α} (h : as.Pairwise r) (h' : as'.Pairwise r) (hnew : a ∉ as)
    (hmem : ∀ x, x ∈ as' ↔ x ∈ as ∨ x = a) :
    ∃ before after, as = before ++ after ∧ as' = before ++ a :: after := by
  obtain ⟨before, after, rfl⟩ := List.append_of_mem ((hmem a).2 (.inr rfl))
  refine ⟨before, after, ?_, rfl⟩
  have hrest : (before ++ after).Pairwise r :=
    h'.sublist (List.Sublist.append_left (List.sublist_cons_self a after) before)
  have hnot : a ∉ before ++ after := (List.nodup_middle.1 h'.nodup).notMem
  refine List.Pairwise.eq_of_mem_iff h hrest fun x => ?_
  constructor
  · intro hx
    have hx' := (hmem x).2 (.inl hx)
    have hne : x ≠ a := fun heq => hnew (heq ▸ hx)
    simpa [hne] using hx'
  · intro hx
    have hx' : x ∈ before ++ a :: after := by
      rcases List.mem_append.1 hx with hx | hx <;> simp [hx]
    exact ((hmem x).1 hx').resolve_right fun heq => hnot (heq ▸ hx)

/-! ### File systems -/

namespace FileSystem

/-- The second file system has a file more than the first one, at a location where nothing was. The
directories on the way to it may be new as well. -/
structure AddsFile (fs fs' : FileSystem) (l : Location) (text : Option String) : Prop where
  workDir : fs'.workDir = fs.workDir
  kept : ∀ x ∈ fs.entries, fs'.at? x.1 = fs.at? x.1
  new : fs.at? l = none
  file : fs'.at? l = some (.file text)
  others : ∀ x ∈ fs'.entries, fs'.at? x.1 = fs.at? x.1 ∨ x.1 <+: l

instance (fs fs' : FileSystem) (l : Location) (text : Option String) :
    Decidable (AddsFile fs fs' l text) :=
  decidable_of_iff
    (fs'.workDir = fs.workDir ∧ (∀ x ∈ fs.entries, fs'.at? x.1 = fs.at? x.1) ∧ fs.at? l = none ∧
      fs'.at? l = some (.file text) ∧ ∀ x ∈ fs'.entries, fs'.at? x.1 = fs.at? x.1 ∨ x.1 <+: l)
    ⟨fun ⟨h₁, h₂, h₃, h₄, h₅⟩ => ⟨h₁, h₂, h₃, h₄, h₅⟩,
      fun ⟨h₁, h₂, h₃, h₄, h₅⟩ => ⟨h₁, h₂, h₃, h₄, h₅⟩⟩

namespace AddsFile

variable {fs fs' : FileSystem} {l : Location} {text : Option String}
  (h : AddsFile fs fs' l text)

include h

lemma isExtension : Extends fs fs' where
  workDir := h.workDir
  kept := by
    intro l' e hat
    by_cases hne : l' = []
    · subst hne
      exact hat
    · rw [← hat]
      exact h.kept (l', e) (mem_entries_of_at? hat hne)

/-- Nothing else is new but what is on the way to the file. -/
lemma at?_or_prefix {l' : Location} {e : Entry} (hat : fs'.at? l' = some e) :
    fs.at? l' = some e ∨ l' <+: l := by
  by_cases hne : l' = []
  · subst hne
    exact .inl hat
  · rcases h.others (l', e) (mem_entries_of_at? hat hne) with hsame | hstart
    · exact .inl (hsame ▸ hat)
    · exact .inr hstart

section Tree

variable (htree : fs'.IsTree)

include htree

/-- On the way to the new file there are directories. -/
lemma at?_cases {l' : Location} {e : Entry} (hat : fs'.at? l' = some e) :
    fs.at? l' = some e ∨ l' = l ∧ e = .file text ∨ e = .dir := by
  rcases h.at?_or_prefix hat with hold | ⟨rest, hrest⟩
  · exact .inl hold
  · have hfile := h.file
    by_cases hnil : rest = []
    · rw [hnil, List.append_nil] at hrest
      rw [← hrest, hat] at hfile
      exact .inr (.inl ⟨hrest, Option.some.inj hfile⟩)
    · rw [← hrest] at hfile
      have hdir := htree.at?_eq_dir hnil hfile
      rw [hat] at hdir
      exact .inr (.inr (Option.some.inj hdir))

lemma at?_eq_file_iff {l' : Location} {text' : Option String} :
    fs'.at? l' = some (.file text') ↔
      fs.at? l' = some (.file text') ∨ l' = l ∧ text' = text := by
  constructor
  · intro hat
    rcases h.at?_cases htree hat with hold | ⟨rfl, heq⟩ | hdir
    · exact .inl hold
    · cases heq
      exact .inr ⟨rfl, rfl⟩
    · cases hdir
  · rintro (hold | ⟨rfl, rfl⟩)
    · exact h.isExtension.kept hold
    · exact h.file

lemma isLinkFree {place : Location} (hfree : fs.IsLinkFree place) : fs'.IsLinkFree place := by
  intro l' target hstart hat
  rcases h.at?_cases htree hat with hold | ⟨-, heq⟩ | hdir
  · exact hfree l' target hstart hold
  · cases heq
  · cases hdir

end Tree

section Trees

variable (hfs : fs.HasFileNames) (hfs' : fs'.HasFileNames) (htree : fs.IsTree)
  (htree' : fs'.IsTree) {tree : String} {place : Location} (hfree : fs.IsLinkFree place)
  (hresolve : fs.resolve tree = .ok (place, .dir))

include hfs hfs' htree htree' hfree hresolve

/-- The files of a tree are those that were there, and the new one if it is below the tree. -/
lemma hasYaml_iff {way : List String} :
    fs'.HasYaml tree way ↔ fs.HasYaml tree way ∨
      way ≠ [] ∧ extension? (joinAll tree way) = some "yaml" ∧ place ++ way = l := by
  rw [(h.isLinkFree htree' hfree).hasYaml_iff hfs' htree' (h.isExtension.resolve_eq hresolve),
    hfree.hasYaml_iff hfs htree hresolve]
  simp only [h.at?_eq_file_iff htree', exists_or, exists_and_left, exists_eq, and_true, and_or_left]

variable {files : List String} (hfiles : fs.yamlFiles tree = .ok files)

include hfiles

omit hfs in
/-- A tree can be listed as before if the path of the new file is not too long. -/
lemma exists_yamlFiles
    (hshort : ∀ way, l = place ++ way → (joinAll tree way).utf8ByteSize ≤ maxPath) :
    ∃ files', fs'.yamlFiles tree = .ok files' := by
  refine ((h.isLinkFree htree' hfree).exists_yamlFiles_iff htree'
    (h.isExtension.resolve_eq hresolve)).2 fun way hat => ?_
  rcases h.at?_or_prefix hat with hold | ⟨rest, hrest⟩
  · exact (hfree.exists_yamlFiles_iff htree hresolve).1 ⟨files, hfiles⟩ way hold
  · -- a directory on the way to the file has a shorter path than the file
    have hle := hshort (way ++ rest) (by rw [← hrest, List.append_assoc])
    have hsize := size_le_joinAll (joinAll tree way) fun name hname =>
      hfs'.of_mem h.file name (hrest ▸ List.mem_append_right (place ++ way) hname)
    rw [joinAll_append] at hle
    omega

/-- A tree without the new file is listed as before. -/
lemma yamlFiles_eq (hl : ¬ place <+: l) : fs'.yamlFiles tree = .ok files := by
  obtain ⟨files', hfiles'⟩ := h.exists_yamlFiles hfs' htree htree' hfree hresolve hfiles
    fun way hway => absurd (hway ▸ List.prefix_append place way) hl
  obtain ⟨ways, hat, hat', -, -⟩ := Repository.exists_ways hfs hfs' hfiles hfiles' fun way => by
    rw [h.hasYaml_iff hfs hfs' htree htree' hfree hresolve]
    refine (or_iff_left ?_).symm
    rintro ⟨-, -, rfl⟩
    exact hl (List.prefix_append _ _)
  rw [hfiles', hat.files_eq, hat'.files_eq]

/-- The new file is listed in between the others of its tree. -/
lemma exists_yamlFiles_insert {way : List String} (hne : way ≠ []) (hl : l = place ++ way)
    (hshort : (joinAll tree way).utf8ByteSize ≤ maxPath)
    (hext : extension? (joinAll tree way) = some "yaml") :
    ∃ before after, files = before ++ after ∧
      fs'.yamlFiles tree = .ok (before ++ joinAll tree way :: after) := by
  obtain ⟨files', hfiles'⟩ := h.exists_yamlFiles hfs' htree htree' hfree hresolve hfiles
    fun way' hway' => List.append_cancel_left (hl.symm.trans hway') ▸ hshort
  obtain ⟨ways, hat, -, hways⟩ := exists_areAt_yamlFiles hfs hfiles
  obtain ⟨ways', hat', -, hways'⟩ := exists_areAt_yamlFiles hfs' hfiles'
  have hnot : ¬ fs.HasYaml tree way := by
    rw [hfree.hasYaml_iff hfs htree hresolve]
    rintro ⟨-, -, text', hold⟩
    rw [← hl, h.new] at hold
    cases hold
  have hmem : ∀ w, w ∈ ways' ↔ w ∈ ways ∨ w = way := by
    intro w
    rw [hways, hways', h.hasYaml_iff hfs hfs' htree htree' hfree hresolve, hl]
    refine or_congr_right ⟨fun hw => List.append_cancel_left hw.2.2, ?_⟩
    rintro rfl
    exact ⟨hne, hext, rfl⟩
  obtain ⟨before, after, rfl, rfl⟩ :=
    exists_insert_of_mem_iff hat.sorted hat'.sorted (mt (hways way).1 hnot) hmem
  refine ⟨before.map (joinAll tree), after.map (joinAll tree), ?_, ?_⟩
  · rw [hat.files_eq, List.map_append]
  · rw [hfiles', hat'.files_eq, List.map_append, List.map_cons]

end Trees

end AddsFile

end FileSystem

/-! ### Inventories -/

namespace ConfigInventory

def ofFiles (root : String) (files : List String) : ConfigInventory :=
  ⟨files.map (.ofPath .ciOperator root (Layout.configTree root)),
    indexOf root (Layout.configTree root) files⟩

lemma value_build_eq_ok_iff_ofFiles {fs : FileSystem} {root : String} {v : ConfigInventory} :
    (build fs root (Layout.configTree root)).value = .ok v ↔
      ∃ files, fs.yamlFiles (Layout.configTree root) = .ok files ∧
        (∀ path ∈ files, ∃ c, fs.loadConfig path = .ok c) ∧ v = ofFiles root files := by
  rw [value_build_eq_ok_iff]
  refine exists_congr fun files => and_congr_right fun _ => and_congr_left fun _ => ?_
  constructor
  · rintro ⟨configs, hloaded⟩ path hpath
    obtain ⟨c, -, hc⟩ := Fallible.exists_mem_zip_left hloaded hpath
    exact ⟨c, hc⟩
  · intro hloaded
    have : Nonempty CiOperatorConfig := ⟨.empty⟩
    choose! f hf using hloaded
    exact ⟨files.map f, List.forall₂_map_right_iff.2 (List.forall₂_same.2 hf)⟩

end ConfigInventory

namespace JobInventory

def ofLoaded (root : String) (loaded : List (String × JobConfig)) : JobInventory :=
  ⟨loaded.map fun x => .ofPath .job root (Layout.jobTree root) x.1,
    loaded.flatMap fun x => x.2.references (relativeTo root x.1)⟩

lemma value_build_eq_ok_iff_ofLoaded {fs : FileSystem} {root : String} {v : JobInventory} :
    (build fs root (Layout.jobTree root)).value = .ok v ↔
      ∃ loaded, fs.yamlFiles (Layout.jobTree root) = .ok (loaded.map Prod.fst) ∧
        (∀ x ∈ loaded, fs.loadJobs x.1 = .ok x.2) ∧ v = ofLoaded root loaded := by
  rw [value_build_eq_ok_iff]
  constructor
  · rintro ⟨files, hfiles, configs, hloaded, rfl⟩
    have hfst := List.map_fst_zip (Nat.le_of_eq hloaded.length_eq)
    refine ⟨files.zip configs, by rwa [hfst], fun x hx => List.forall₂_zip hloaded hx, ?_⟩
    rw [ofLoaded]
    conv_lhs => rw [← hfst, List.map_map]
    rw [hfst]
    rfl
  · rintro ⟨loaded, hfiles, hloaded, rfl⟩
    refine ⟨_, hfiles, loaded.map Prod.snd, ?_, ?_⟩
    · refine List.forall₂_map_left_iff.2 (List.forall₂_map_right_iff.2 ?_)
      exact List.forall₂_same.2 hloaded
    · have hzip : (loaded.map Prod.fst).zip (loaded.map Prod.snd) = loaded :=
        (List.zip_of_prod rfl rfl).symm
      rw [hzip, List.map_map]
      rfl

end JobInventory

/-! ### References -/

namespace Injection

lemma checkReference_congr {index index' : ConfigIndex} {x : InjectionReference}
    (h : index'.get? x.key = index.get? x.key) :
    checkReference index' x = checkReference index x := by
  rw [checkReference, checkReference, h]

/-- A reference is judged against the record that its key leads to. -/
lemma checkReference_of_get? {index : ConfigIndex} {x : InjectionReference} {r : PathRecord}
    (h : index.get? x.key = some r) :
    checkReference index x =
      if x.bundle = r.bundle then none
      else some (.wrongInjectedBundle x.location x.key x.bundle r.bundle) := by
  rw [checkReference, h]
  simp only [beq_iff_eq]

end Injection

namespace ConfigInventory

variable {root tree : String} {before after : List String} {path : String}

/-- A new file takes no key but its name, and that only if no later file has it. -/
lemma get?_indexOf_insert {key : String}
    (h : key ≠ (FileInfo.ofPath .ciOperator tree path).key ∨ ∃ file ∈ after,
      (FileInfo.ofPath .ciOperator tree file).key =
        (FileInfo.ofPath .ciOperator tree path).key) :
    (indexOf root tree (before ++ path :: after)).get? key =
      (indexOf root tree (before ++ after)).get? key := by
  rw [indexOf_eq_ofList, indexOf_eq_ofList]
  exact KeyMap.get?_ofList_map_insert (fun file => (FileInfo.ofPath .ciOperator tree file).key)
    (PathRecord.ofPath .ciOperator root tree) before after h

lemma get?_indexOf_insert_self
    (h : ∀ file ∈ after, (FileInfo.ofPath .ciOperator tree file).key ≠
      (FileInfo.ofPath .ciOperator tree path).key) :
    (indexOf root tree (before ++ path :: after)).get? (FileInfo.ofPath .ciOperator tree path).key =
      some (.ofPath .ciOperator root tree path) := by
  rw [indexOf_eq_ofList]
  exact KeyMap.get?_ofList_map_insert_self
    (fun file => (FileInfo.ofPath .ciOperator tree file).key)
    (PathRecord.ofPath .ciOperator root tree) before after h

end ConfigInventory

/-! ### Repositories -/

namespace Repository

variable {fs fs' : FileSystem} {root : String} {place : Location}

/-- A tree that was listed lies where its names lead to from the root. -/
lemma resolve_tree (hroot : fs.resolve root = .ok (place, .dir)) (hfree : fs.IsLinkFree place)
    {names : List String} (hnames : ∀ name ∈ names, IsFileName name) (hne : names ≠ [])
    {files : List String} (hfiles : fs.yamlFiles (joinAll root names) = .ok files) :
    fs.resolve (joinAll root names) = .ok (place ++ names, .dir) ∧
      fs.at? (place ++ names) = some .dir := by
  obtain ⟨hdir, -⟩ := FileSystem.yamlFiles_eq_ok_iff.1 hfiles
  obtain ⟨l, hresolve⟩ := FileSystem.isDir_iff.1 hdir
  obtain ⟨rfl, hat⟩ := hfree.resolve_joinAll hroot hnames hne hresolve
  exact ⟨hresolve, hat⟩

/-! ### Parts of a repository -/

/-- Some files of a repository: their records, and the references in them. -/
structure Part where
  records : List PathRecord
  references : List InjectionReference

/-- Configurations refer to nothing. -/
def Part.ofConfigs (configs : ConfigInventory) : Part := ⟨configs.records, []⟩

def Part.ofJobs (jobs : JobInventory) : Part := ⟨jobs.records, jobs.injections⟩

/-- What is found in a repository that consists of some parts. Behind the failures of the rules
every part has a block for its paths, and behind these every part has a block for its references. -/
def outcomeOf (rules : RuleSet) (matches? : Matcher) (index : ConfigIndex) (parts : List Part) :
    Outcome where
  failures :=
    rules.entries.flatMap (Partition.ruleFailures matches?) ++
      (parts.flatMap fun part => part.records.flatMap fun r =>
        Partition.fileFailures r (Partition.matching rules.entries matches? r.path)) ++
      parts.flatMap fun part => part.references.filterMap (Injection.checkReference index)
  warnings :=
    parts.flatMap fun part => part.records.flatMap fun r =>
      Partition.warningsFor rules.entries matches? r.path

lemma check_eq_outcomeOf {repo : Repository} {parts : List Part}
    (hrecords : parts.flatMap Part.records = repo.records)
    (hreferences : parts.flatMap Part.references = repo.jobs.injections) (matches? : Matcher) :
    repo.check matches? = outcomeOf repo.rules matches? repo.configs.index parts := by
  have hpartition : Partition.check repo.records repo.rules matches? =
      ⟨repo.rules.entries.flatMap (Partition.ruleFailures matches?) ++
        repo.records.flatMap fun r =>
          Partition.fileFailures r (Partition.matching repo.rules.entries matches? r.path),
        repo.records.flatMap fun r =>
          Partition.warningsFor repo.rules.entries matches? r.path⟩ := by
    rw [Partition.check, Partition.checkRules_eq, Partition.checkPaths_eq]
    rfl
  have hinjection : parts.flatMap (fun part =>
      part.references.filterMap (Injection.checkReference repo.configs.index)) =
        repo.jobs.injections.filterMap (Injection.checkReference repo.configs.index) := by
    rw [← hreferences, List.filterMap_flatMap]
  rw [check, hpartition, Injection.check, outcomeOf, hinjection, ← hrecords, List.flatMap_assoc,
    List.flatMap_assoc, Outcome.append_mk, List.append_nil]

section NewFile

variable {way : List String} {text : Option String} (hfs : fs.HasFileNames)
  (hfs' : fs'.HasFileNames) (htree : fs.IsTree) (htree' : fs'.IsTree)
  (hroot : fs.resolve root = .ok (place, .dir)) (hfree : fs.IsLinkFree place)

include hfs hfs' htree htree' hroot hfree

/-- The new file is listed in its place among the files of the tree that it is below. -/
lemma exists_yamlFiles_insert {names : List String} (hnames : ∀ name ∈ names, IsFileName name)
    (hne : names ≠ []) {files : List String}
    (hfiles : fs.yamlFiles (joinAll root names) = .ok files)
    (hadd : fs.AddsFile fs' (place ++ names ++ way) text)
    (hshort : (joinAll (joinAll root names) way).utf8ByteSize ≤ FileSystem.maxPath)
    (hext : extension? (joinAll (joinAll root names) way) = some "yaml") :
    ∃ before after, files = before ++ after ∧
      fs'.yamlFiles (joinAll root names) =
        .ok (before ++ joinAll (joinAll root names) way :: after) := by
  obtain ⟨hresolve, hdir⟩ := resolve_tree hroot hfree hnames hne hfiles
  have hway : way ≠ [] := by
    rintro rfl
    have hnew := hadd.new
    rw [List.append_nil, hdir] at hnew
    cases hnew
  exact hadd.exists_yamlFiles_insert hfs hfs' htree htree' (hfree.of_append names) hresolve hfiles
    hway rfl hshort hext

/-- Another tree is listed as before. -/
lemma yamlFiles_eq_of_new {names names' : List String} (hnames : ∀ name ∈ names, IsFileName name)
    (hne : names ≠ []) {files : List String}
    (hfiles : fs.yamlFiles (joinAll root names) = .ok files)
    (hadd : fs.AddsFile fs' (place ++ names' ++ way) text) (hother : ¬ names <+: names' ++ way) :
    fs'.yamlFiles (joinAll root names) = .ok files := by
  obtain ⟨hresolve, -⟩ := resolve_tree hroot hfree hnames hne hfiles
  refine hadd.yamlFiles_eq hfs hfs' htree htree' (hfree.of_append names) hresolve hfiles ?_
  rwa [List.append_assoc, List.prefix_append_right_inj]

variable {repo : Repository} (hread : (read fs root).value = .ok repo)

include hread

/-- With a new job file the repository is read as before, but for the jobs of this file. -/
lemma exists_read_of_new_jobs {config : JobConfig}
    (hadd : fs.AddsFile fs' (place ++ ["ci-operator", "jobs"] ++ way) text)
    (hext : extension? (joinAll (Layout.jobTree root) way) = some "yaml")
    (hload : fs'.loadJobs (joinAll (Layout.jobTree root) way) = .ok config) :
    ∃ before after,
      fs.yamlFiles (Layout.jobTree root) = .ok ((before ++ after).map Prod.fst) ∧
      fs'.yamlFiles (Layout.jobTree root) =
        .ok ((before ++ (joinAll (Layout.jobTree root) way, config) :: after).map Prod.fst) ∧
      (∀ x ∈ before ++ after, fs.loadJobs x.1 = .ok x.2) ∧
      repo.jobs = .ofLoaded root (before ++ after) ∧
      (read fs' root).value = .ok ⟨repo.rules, repo.configs,
        .ofLoaded root (before ++ (joinAll (Layout.jobTree root) way, config) :: after)⟩ := by
  obtain ⟨hrules, hconfigs, hjobs⟩ := value_read_eq_ok_iff.1 hread
  obtain ⟨configs, hconfigFiles, hconfigLoads, hconfigs⟩ :=
    ConfigInventory.value_build_eq_ok_iff_ofFiles.1 hconfigs
  obtain ⟨loaded, hfiles, hloads, hjobs⟩ := JobInventory.value_build_eq_ok_iff_ofLoaded.1 hjobs
  -- the new file is in the other tree
  have hconfigFiles' : fs'.yamlFiles (Layout.configTree root) = .ok configs := by
    rw [Layout.configTree_eq] at hconfigFiles ⊢
    exact yamlFiles_eq_of_new hfs hfs' htree htree' hroot hfree (by decide) (by simp) hconfigFiles
      hadd (by simp)
  obtain ⟨before, after, hsplit, hfiles'⟩ : ∃ before after,
      loaded.map Prod.fst = before ++ after ∧ fs'.yamlFiles (Layout.jobTree root) =
        .ok (before ++ joinAll (Layout.jobTree root) way :: after) := by
    have hshort := FileSystem.size_le_of_load hload
    rw [Layout.jobTree_eq] at hfiles hext hshort ⊢
    exact exists_yamlFiles_insert hfs hfs' htree htree' hroot hfree (by decide) (by simp) hfiles
      hadd hshort hext
  obtain ⟨before, after, rfl, rfl, rfl⟩ := List.map_eq_append_iff.1 hsplit
  have hfiles'' : fs'.yamlFiles (Layout.jobTree root) =
      .ok ((before ++ (joinAll (Layout.jobTree root) way, config) :: after).map Prod.fst) := by
    rw [hfiles', List.map_append, List.map_cons]
  refine ⟨before, after, hfiles, hfiles'', hloads, hjobs, value_read_eq_ok_iff.2 ⟨?_, ?_, ?_⟩⟩
  · exact hadd.isExtension.loadRules_eq hrules
  · refine ConfigInventory.value_build_eq_ok_iff_ofFiles.2
      ⟨configs, hconfigFiles', fun path hpath => ?_, hconfigs⟩
    exact (hconfigLoads path hpath).imp fun c hc => hadd.isExtension.load_eq hc
  · refine JobInventory.value_build_eq_ok_iff_ofLoaded.2 ⟨_, hfiles'', fun x hx => ?_, rfl⟩
    rw [List.mem_append, List.mem_cons, or_left_comm, ← List.mem_append] at hx
    rcases hx with rfl | hx
    · exact hload
    · exact hadd.isExtension.load_eq (hloads x hx)

/-- With a new configuration the repository is read as before, but for the record of this file and
what the index says of its name. -/
lemma exists_read_of_new_config {config : CiOperatorConfig}
    (hadd : fs.AddsFile fs' (place ++ ["ci-operator", "config"] ++ way) text)
    (hext : extension? (joinAll (Layout.configTree root) way) = some "yaml")
    (hload : fs'.loadConfig (joinAll (Layout.configTree root) way) = .ok config) :
    ∃ before after, fs.yamlFiles (Layout.configTree root) = .ok (before ++ after) ∧
      fs'.yamlFiles (Layout.configTree root) =
        .ok (before ++ joinAll (Layout.configTree root) way :: after) ∧
      repo.configs = .ofFiles root (before ++ after) ∧
      (read fs' root).value = .ok ⟨repo.rules,
        .ofFiles root (before ++ joinAll (Layout.configTree root) way :: after), repo.jobs⟩ := by
  obtain ⟨hrules, hconfigs, hjobs⟩ := value_read_eq_ok_iff.1 hread
  obtain ⟨files, hfiles, hloads, hconfigs⟩ :=
    ConfigInventory.value_build_eq_ok_iff_ofFiles.1 hconfigs
  obtain ⟨loaded, hjobFiles, hjobLoads, hjobs⟩ :=
    JobInventory.value_build_eq_ok_iff_ofLoaded.1 hjobs
  -- the new file is in the other tree
  have hjobFiles' : fs'.yamlFiles (Layout.jobTree root) = .ok (loaded.map Prod.fst) := by
    rw [Layout.jobTree_eq] at hjobFiles ⊢
    exact yamlFiles_eq_of_new hfs hfs' htree htree' hroot hfree (by decide) (by simp) hjobFiles
      hadd (by simp)
  obtain ⟨before, after, rfl, hfiles'⟩ : ∃ before after,
      files = before ++ after ∧ fs'.yamlFiles (Layout.configTree root) =
        .ok (before ++ joinAll (Layout.configTree root) way :: after) := by
    have hshort := FileSystem.size_le_of_load hload
    rw [Layout.configTree_eq] at hfiles hext hshort ⊢
    exact exists_yamlFiles_insert hfs hfs' htree htree' hroot hfree (by decide) (by simp) hfiles
      hadd hshort hext
  refine ⟨before, after, hfiles, hfiles', hconfigs, value_read_eq_ok_iff.2 ⟨?_, ?_, ?_⟩⟩
  · exact hadd.isExtension.loadRules_eq hrules
  · refine ConfigInventory.value_build_eq_ok_iff_ofFiles.2 ⟨_, hfiles', fun path hpath => ?_, rfl⟩
    rw [List.mem_append, List.mem_cons, or_left_comm, ← List.mem_append] at hpath
    rcases hpath with rfl | hpath
    · exact ⟨config, hload⟩
    · exact (hloads path hpath).imp fun c hc => hadd.isExtension.load_eq hc
  · refine JobInventory.value_build_eq_ok_iff_ofLoaded.2
      ⟨loaded, hjobFiles', fun x hx => ?_, hjobs⟩
    exact hadd.isExtension.load_eq (hjobLoads x hx)

end NewFile

/-- How references are judged with a new configuration in the index. Only those with the name of the
new file are judged anew, and only if no file behind it has this name as well. -/
lemma checkReference_ofFiles_insert {before after : List String} {path name : String}
    (hname : fileName? path = some name)
    (hafter : ∀ file ∈ after, ∃ name, fileName? file = some name) :
    (∀ x : InjectionReference,
      x.key ≠ name ∨ (∃ file ∈ after, fileName? file = some name) →
        Injection.checkReference (ConfigInventory.ofFiles root (before ++ path :: after)).index x =
          Injection.checkReference (ConfigInventory.ofFiles root (before ++ after)).index x) ∧
    ((∀ file ∈ after, fileName? file ≠ some name) → ∀ x : InjectionReference, x.key = name →
      Injection.checkReference (ConfigInventory.ofFiles root (before ++ path :: after)).index x =
        if x.bundle = (PathRecord.ofPath .ciOperator root (Layout.configTree root) path).bundle then
          none
        else some (.wrongInjectedBundle x.location x.key x.bundle
          (PathRecord.ofPath .ciOperator root (Layout.configTree root) path).bundle)) := by
  have hkey : (FileInfo.ofPath .ciOperator (Layout.configTree root) path).key = name := by
    rw [FileInfo.key_ofPath, hname, Option.getD_some]
  have hkeys : ∀ file ∈ after,
      (FileInfo.ofPath .ciOperator (Layout.configTree root) file).key = name ↔
        fileName? file = some name := by
    intro file hfile
    obtain ⟨name', hname'⟩ := hafter file hfile
    rw [FileInfo.key_ofPath, hname', Option.getD_some, Option.some.injEq]
  constructor
  · intro x hx
    refine Injection.checkReference_congr (ConfigInventory.get?_indexOf_insert ?_)
    rw [hkey]
    refine hx.imp_right ?_
    rintro ⟨file, hfile, hfileName⟩
    exact ⟨file, hfile, (hkeys file hfile).2 hfileName⟩
  · intro hlast x hx
    have hget : (ConfigInventory.ofFiles root (before ++ path :: after)).index.get?
        (FileInfo.ofPath .ciOperator (Layout.configTree root) path).key =
          some (.ofPath .ciOperator root (Layout.configTree root) path) :=
      ConfigInventory.get?_indexOf_insert_self fun file hfile heq =>
        hlast file hfile ((hkeys file hfile).1 (heq.trans hkey))
    rw [hkey, ← hx] at hget
    exact Injection.checkReference_of_get? hget

/-- A new file disturbs nothing else. The repository has no links below its root and can be read.

With a new job file that can be loaded, the parts of the repository are the ones before with a part
more, the new file, where it stands in the walk. So the outcome has two blocks more, what is found
in its path and what is found in its references.

With a new configuration the outcome has the block of its path more, and the references are judged
by another index. That makes a difference for references to the name of the new file only, and only
if it is the last file with this name: then they have to name its config map. -/
theorem new_file_disturbs_nothing_else (fs fs' : FileSystem) (root : String) (place : Location)
    (way : List String) (text : Option String) (hfs : fs.HasFileNames) (hfs' : fs'.HasFileNames)
    (htree : fs.IsTree) (htree' : fs'.IsTree) (hroot : fs.resolve root = .ok (place, .dir))
    (hfree : fs.IsLinkFree place) (repo : Repository) (hread : (read fs root).value = .ok repo)
    (matches? : Matcher) :
    (∀ path config, path = joinAll (Layout.jobTree root) way →
      fs.AddsFile fs' (place ++ ["ci-operator", "jobs"] ++ way) text →
      extension? path = some "yaml" → fs'.loadJobs path = .ok config →
      ∃ before after,
        fs.yamlFiles (Layout.jobTree root) = .ok ((before ++ after).map Prod.fst) ∧
        fs'.yamlFiles (Layout.jobTree root) =
          .ok ((before ++ (path, config) :: after).map Prod.fst) ∧
        (∀ x ∈ before ++ after, fs.loadJobs x.1 = .ok x.2) ∧
        (validateRepo fs matches?.source root).value =
          .ok (outcomeOf repo.rules matches? repo.configs.index
            [.ofConfigs repo.configs, .ofJobs (.ofLoaded root before),
              .ofJobs (.ofLoaded root after)]) ∧
        (validateRepo fs' matches?.source root).value =
          .ok (outcomeOf repo.rules matches? repo.configs.index
            [.ofConfigs repo.configs, .ofJobs (.ofLoaded root before),
              .ofJobs (.ofLoaded root [(path, config)]), .ofJobs (.ofLoaded root after)])) ∧
    ∀ path config, path = joinAll (Layout.configTree root) way →
      fs.AddsFile fs' (place ++ ["ci-operator", "config"] ++ way) text →
      extension? path = some "yaml" → fs'.loadConfig path = .ok config →
      ∃ before after index name,
        fs.yamlFiles (Layout.configTree root) = .ok (before ++ after) ∧
        fs'.yamlFiles (Layout.configTree root) = .ok (before ++ path :: after) ∧
        (validateRepo fs matches?.source root).value =
          .ok (outcomeOf repo.rules matches? repo.configs.index
            [.ofConfigs (.ofFiles root before), .ofConfigs (.ofFiles root after),
              .ofJobs repo.jobs]) ∧
        (validateRepo fs' matches?.source root).value =
          .ok (outcomeOf repo.rules matches? index
            [.ofConfigs (.ofFiles root before), .ofConfigs (.ofFiles root [path]),
              .ofConfigs (.ofFiles root after), .ofJobs repo.jobs]) ∧
        fileName? path = some name ∧
        (∀ x : InjectionReference, x.key ≠ name ∨ (∃ file ∈ after, fileName? file = some name) →
          Injection.checkReference index x = Injection.checkReference repo.configs.index x) ∧
        ((∀ file ∈ after, fileName? file ≠ some name) → ∀ x : InjectionReference, x.key = name →
          Injection.checkReference index x =
            if x.bundle =
                (PathRecord.ofPath .ciOperator root (Layout.configTree root) path).bundle then none
            else some (.wrongInjectedBundle x.location x.key x.bundle
              (PathRecord.ofPath .ciOperator root (Layout.configTree root) path).bundle)) := by
  constructor
  · rintro path config rfl hadd hext hload
    obtain ⟨before, after, hfiles, hfiles', hloads, hjobs, hread'⟩ :=
      exists_read_of_new_jobs hfs hfs' htree htree' hroot hfree hread hadd hext hload
    obtain ⟨rules, configs, jobs⟩ := repo
    subst hjobs
    refine ⟨before, after, hfiles, hfiles', hloads, ?_, ?_⟩
    · refine value_validateRepo_eq_ok_iff.2
        ⟨_, hread, matches?, rfl, check_eq_outcomeOf ?_ ?_ matches?⟩
      · simp [records, JobInventory.ofLoaded, Part.ofConfigs, Part.ofJobs]
      · simp [JobInventory.ofLoaded, Part.ofConfigs, Part.ofJobs]
    · refine value_validateRepo_eq_ok_iff.2
        ⟨_, hread', matches?, rfl, check_eq_outcomeOf ?_ ?_ matches?⟩
      · simp [records, JobInventory.ofLoaded, Part.ofConfigs, Part.ofJobs]
      · simp [JobInventory.ofLoaded, Part.ofConfigs, Part.ofJobs]
  · rintro path config rfl hadd hext hload
    obtain ⟨before, after, hfiles, hfiles', hconfigs, hread'⟩ :=
      exists_read_of_new_config hfs hfs' htree htree' hroot hfree hread hadd hext hload
    obtain ⟨rules, configs, jobs⟩ := repo
    subst hconfigs
    obtain ⟨name, hname⟩ := exists_fileName?_of_extension? hext
    have hafter : ∀ file ∈ after, ∃ name, fileName? file = some name := fun file hfile =>
      exists_fileName?_of_extension?
        ((FileSystem.mem_yamlFiles_iff hfiles file).1 (List.mem_append_right _ hfile)).2
    refine ⟨before, after, _, name, hfiles, hfiles', ?_, ?_, hname,
      checkReference_ofFiles_insert hname hafter⟩
    · refine value_validateRepo_eq_ok_iff.2
        ⟨_, hread, matches?, rfl, check_eq_outcomeOf ?_ ?_ matches?⟩
      · simp [records, ConfigInventory.ofFiles, Part.ofConfigs, Part.ofJobs]
      · simp [Part.ofConfigs, Part.ofJobs]
    · refine value_validateRepo_eq_ok_iff.2
        ⟨_, hread', matches?, rfl, check_eq_outcomeOf ?_ ?_ matches?⟩
      · simp [records, ConfigInventory.ofFiles, Part.ofConfigs, Part.ofJobs]
      · simp [Part.ofConfigs, Part.ofJobs]

/-! ### Files added to the small repository -/

/-- The small repository with an empty job file more. -/
def moreJobs : FileSystem :=
  sampleFiles.write [] ["ci-operator", "jobs", "b.yaml"] (.file (some ""))

/-- The small repository with a configuration more, in a new directory and with the name of the one
that is there. -/
def moreConfigs : FileSystem :=
  sampleFiles.write [] ["ci-operator", "config", "b", "a.yaml"] (.file (some ""))

lemma isLinkFree_sampleFiles : sampleFiles.IsLinkFree [] := by
  intro l target _ hat
  by_cases hne : l = []
  · subst hne
    cases hat
  · have hmem := FileSystem.mem_entries_of_at? hat hne
    simp [sampleFiles] at hmem

/-- The new job file is reported as not covered where no pattern matches, and the new configuration
is the one that references to `a.yaml` are judged by. -/
theorem new_file_sample :
    sampleFiles.AddsFile moreJobs ["ci-operator", "jobs", "b.yaml"] (some "") ∧
      (∃ outcome, (validateRepo moreJobs (Matcher.source fun _ _ => .ok false) "/").value =
          .ok outcome ∧ .uncovered "ci-operator/jobs/b.yaml" ∈ outcome.failures) ∧
      sampleFiles.AddsFile moreConfigs ["ci-operator", "config", "b", "a.yaml"] (some "") ∧
      ∃ parts index, (validateRepo moreConfigs Glob.matcher.source "/").value =
          .ok (outcomeOf sample.rules Glob.matcher index parts) ∧
        ⟨"ci-operator/config/b/a.yaml", "ci-operator-misc-configs"⟩ ∈
          parts.flatMap Part.records ∧
        ∀ x : InjectionReference, x.key = "a.yaml" → Injection.checkReference index x =
          if x.bundle = "ci-operator-misc-configs" then none
          else some (.wrongInjectedBundle x.location x.key x.bundle
            "ci-operator-misc-configs") := by
  have hjobs : sampleFiles.AddsFile moreJobs ["ci-operator", "jobs", "b.yaml"] (some "") := by
    decide +kernel
  have hconfigs : sampleFiles.AddsFile moreConfigs ["ci-operator", "config", "b", "a.yaml"]
      (some "") := by
    decide +kernel
  have hroot : sampleFiles.resolve "/" = .ok ([], .dir) := by decide +kernel
  obtain ⟨before, after, -, -, -, -, hnew⟩ :=
    (new_file_disturbs_nothing_else sampleFiles moreJobs "/" [] ["b.yaml"] (some "") (by decide)
      (by decide +kernel) (by decide) (by decide +kernel) hroot isLinkFree_sampleFiles sample
      read_sample fun _ _ => .ok false).1 _ .empty rfl hjobs (by decide +kernel)
      (by decide +kernel)
  have huncovered : .uncovered "ci-operator/jobs/b.yaml" ∈
      (Part.ofJobs (.ofLoaded "/"
        [(joinAll (Layout.jobTree "/") ["b.yaml"], .empty)])).records.flatMap fun r =>
        Partition.fileFailures r
          (Partition.matching sample.rules.entries (fun _ _ => .ok false) r.path) := by
    decide +kernel
  refine ⟨hjobs, ⟨_, hnew, ?_⟩, hconfigs, ?_⟩
  · refine List.mem_append_left _ (List.mem_append_right _ (List.mem_flatMap.2 ⟨_, ?_, huncovered⟩))
    exact List.mem_cons_of_mem _ (List.mem_cons_of_mem _ List.mem_cons_self)
  · obtain ⟨before, after, index, name, hold, hfiles, -, hvalue, hname, -, hlast⟩ :=
      (new_file_disturbs_nothing_else sampleFiles moreConfigs "/" [] ["b", "a.yaml"] (some "")
        (by decide) (by decide +kernel) (by decide) (by decide +kernel) hroot
        isLinkFree_sampleFiles sample read_sample Glob.matcher).2 _ .empty rfl hconfigs
        (by decide +kernel) (by decide +kernel)
    have hwalk : sampleFiles.yamlFiles (Layout.configTree "/") =
        .ok ["/ci-operator/config/a.yaml"] := by decide +kernel
    have hwalk' : moreConfigs.yamlFiles (Layout.configTree "/") =
        .ok ["/ci-operator/config/a.yaml", "/ci-operator/config/b/a.yaml"] := by decide +kernel
    have hnil : after = [] := by
      rcases List.append_eq_singleton_iff.1 (Except.ok.inj (hold.symm.trans hwalk)) with
        ⟨rfl, rfl⟩ | ⟨-, hnil⟩
      · have hfirst := Except.ok.inj (hfiles.symm.trans hwalk')
        exact absurd (List.cons.inj hfirst).1 (by decide +kernel)
      · exact hnil
    have hkey : fileName? (joinAll (Layout.configTree "/") ["b", "a.yaml"]) = some "a.yaml" := by
      decide +kernel
    have hrecord : ⟨"ci-operator/config/b/a.yaml", "ci-operator-misc-configs"⟩ ∈ (Part.ofConfigs
        (.ofFiles "/" [joinAll (Layout.configTree "/") ["b", "a.yaml"]])).records := by
      decide +kernel
    cases hname.symm.trans hkey
    refine ⟨_, index, hvalue, List.mem_flatMap.2 ⟨_, ?_, hrecord⟩, hlast (by simp [hnil])⟩
    exact List.mem_cons_of_mem _ List.mem_cons_self

end Repository

end ShardCheck
