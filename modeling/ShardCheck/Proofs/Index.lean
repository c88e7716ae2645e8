import Mathlib.Tactic.Common
import ShardCheck.Injection
import ShardCheck.Proofs.Inventory
import ShardCheck.Proofs.Walk

/-!
# The index of the configurations

The index leads from a file name to the record of one file, and files in different directories can
have one name. Of these the one counts that is read last. In whatever order the files are read, the
references are judged alike if the files that count are the same, or if files with one name belong
to one config map.
-/

namespace ShardCheck

open ShardCheck.Path

/-- References are judged by the config maps that the index has for their keys. -/
lemma Injection.check_congr {index index' : ConfigIndex}
    (h : ∀ key, (index.get? key).map (·.bundle) = (index'.get? key).map (·.bundle))
    (references : List InjectionReference) : check references index = check references index' := by
  have hreference : checkReference index = checkReference index' := by
    funext x
    have hx := h x.key
    unfold checkReference
    cases hget : index.get? x.key with
    | none =>
      rw [hget, Option.map_none, eq_comm, Option.map_eq_none_iff] at hx
      rw [hx]
    | some r =>
      rw [hget, Option.map_some, eq_comm, Option.map_eq_some_iff] at hx
      obtain ⟨r', hget', hbundle⟩ := hx
      simp only [hget', hbundle]
  rw [check, check, hreference]

namespace KeyMap

variable {α ι : Type}

lemma mem_keys_iff_get? {m : KeyMap α} {k : String} : k ∈ m.keys ↔ ∃ v, m.get? k = some v := by
  simp only [mem_keys_iff, get?_eq_some_iff]

/-- The last of some entries by what they stand for. -/
lemma isLast_map_iff {f : ι → String} {g : ι → α} {is : List ι} {k : String} {v : α} :
    IsLast (is.map fun i => (f i, g i)) (k, v) ↔ ∃ before i after, is = before ++ i :: after ∧
      f i = k ∧ g i = v ∧ ∀ j ∈ after, f j ≠ k := by
  constructor
  · rintro ⟨before, after, heq, hafter⟩
    obtain ⟨before, rest, rfl, -, hrest⟩ := List.map_eq_append_iff.1 heq
    obtain ⟨i, after, rfl, hi, rfl⟩ := List.map_eq_cons_iff.1 hrest
    obtain ⟨hkey, hvalue⟩ := Prod.mk.inj hi
    exact ⟨before, i, after, rfl, hkey, hvalue, fun j hj => hafter _ (List.mem_map_of_mem hj)⟩
  · rintro ⟨before, i, after, rfl, rfl, rfl, hafter⟩
    refine ⟨before.map fun i => (f i, g i), after.map fun i => (f i, g i), ?_, fun e he => ?_⟩
    · rw [List.map_append, List.map_cons]
    · obtain ⟨j, hj, rfl⟩ := List.mem_map.1 he
      exact hafter j hj

end KeyMap

namespace ConfigInventory

variable {fs : FileSystem} {root tree : String} {files : List String}

/-! ### The last file with a name -/

/-- Of the files with this name the file comes last. -/
def IsLastNamed (files : List String) (name file : String) : Prop :=
  ∃ before after, files = before ++ file :: after ∧ fileName? file = some name ∧
    ∀ later ∈ after, fileName? later ≠ some name

lemma IsLastNamed.mem {name file : String} (h : IsLastNamed files name file) : file ∈ files := by
  obtain ⟨before, after, rfl, -, -⟩ := h
  simp

lemma IsLastNamed.fileName?_eq {name file : String} (h : IsLastNamed files name file) :
    fileName? file = some name := by
  obtain ⟨before, after, -, hname, -⟩ := h
  exact hname

def AreNamed (files : List String) : Prop := ∀ file ∈ files, ∃ name, fileName? file = some name

lemma areNamed_of_yamlFiles (h : fs.yamlFiles tree = .ok files) : AreNamed files := by
  intro file hfile
  exact exists_fileName?_of_extension? ((FileSystem.mem_yamlFiles_iff h file).1 hfile).2

lemma AreNamed.key_eq_iff (h : AreNamed files) {file name : String} (hfile : file ∈ files) :
    (FileInfo.ofPath .ciOperator tree file).key = name ↔ fileName? file = some name := by
  obtain ⟨name', hname'⟩ := h file hfile
  rw [FileInfo.key_ofPath, hname', Option.getD_some, Option.some.injEq]

/-! ### What the index has -/

/-- The index has the record of the last file with a name. -/
lemma get?_indexOf_eq_some_iff (h : AreNamed files) {name : String} {r : PathRecord} :
    (indexOf root tree files).get? name = some r ↔
      ∃ file, IsLastNamed files name file ∧ r = .ofPath .ciOperator root tree file := by
  rw [indexOf_eq_ofList, KeyMap.get?_ofList_eq_some_iff, KeyMap.isLast_map_iff]
  constructor
  · rintro ⟨before, file, after, rfl, hname, rfl, hafter⟩
    refine ⟨file, ⟨before, after, rfl, ?_, fun later hlater => ?_⟩, rfl⟩
    · exact (h.key_eq_iff (by simp)).1 hname
    · exact mt (h.key_eq_iff (by simp [hlater])).2 (hafter later hlater)
  · rintro ⟨file, ⟨before, after, rfl, hname, hafter⟩, rfl⟩
    refine ⟨before, file, after, rfl, ?_, rfl, fun later hlater => ?_⟩
    · exact (h.key_eq_iff (by simp)).2 hname
    · exact mt (h.key_eq_iff (by simp [hlater])).1 (hafter later hlater)

/-- The keys of the index are the names of the files. -/
lemma mem_keys_indexOf_iff (h : AreNamed files) {name : String} :
    name ∈ (indexOf root tree files).keys ↔ ∃ file ∈ files, fileName? file = some name := by
  rw [KeyMap.mem_keys_iff_get?, ← Option.ne_none_iff_exists', indexOf_eq_ofList,
    KeyMap.get?_ofList, ne_eq, List.lookup_eq_none_iff]
  simp only [List.mem_reverse, List.forall_mem_map, bne_iff_ne, ne_eq, not_forall, not_not]
  constructor
  · rintro ⟨file, hfile, hname⟩
    exact ⟨file, hfile, (h.key_eq_iff hfile).1 hname.symm⟩
  · rintro ⟨file, hfile, hname⟩
    exact ⟨file, hfile, ((h.key_eq_iff hfile).2 hname).symm⟩

/-! ### Orders of reading -/

/-- Two orders with the same last files have the same index. -/
lemma get?_indexOf_congr {files' : List String} (h : AreNamed files) (h' : AreNamed files')
    (hlast : ∀ name file, IsLastNamed files name file ↔ IsLastNamed files' name file)
    (name : String) :
    (indexOf root tree files).get? name = (indexOf root tree files').get? name := by
  ext r
  simp only [get?_indexOf_eq_some_iff h, get?_indexOf_eq_some_iff h', hlast]

/-- Files with one name belong to one config map. -/
def AgreeOnBundles (tree : String) (files : List String) : Prop :=
  ∀ file ∈ files, ∀ file' ∈ files, fileName? file = fileName? file' →
    (FileInfo.ofPath .ciOperator tree file).bundleName =
      (FileInfo.ofPath .ciOperator tree file').bundleName

lemma exists_get?_indexOf_of_perm {files' : List String} (h : AreNamed files)
    (hperm : files'.Perm files) (hagree : AgreeOnBundles tree files) {name : String}
    {r : PathRecord} (hr : (indexOf root tree files).get? name = some r) :
    ∃ r', (indexOf root tree files').get? name = some r' ∧ r'.bundle = r.bundle := by
  have h' : AreNamed files' := fun file hfile => h file (hperm.mem_iff.1 hfile)
  obtain ⟨file, hlast, rfl⟩ := (get?_indexOf_eq_some_iff h).1 hr
  have hkey : name ∈ (indexOf root tree files').keys :=
    (mem_keys_indexOf_iff h').2 ⟨file, hperm.mem_iff.2 hlast.mem, hlast.fileName?_eq⟩
  obtain ⟨r', hr'⟩ := KeyMap.mem_keys_iff_get?.1 hkey
  obtain ⟨file', hlast', rfl⟩ := (get?_indexOf_eq_some_iff h').1 hr'
  refine ⟨_, hr', ?_⟩
  rw [PathRecord.bundle_ofPath, PathRecord.bundle_ofPath]
  refine hagree file' (hperm.mem_iff.1 hlast'.mem) file hlast.mem ?_
  rw [hlast'.fileName?_eq, hlast.fileName?_eq]

/-- Where files with one name belong to one config map, it does not matter which comes last. -/
lemma map_bundle_get?_indexOf_congr {files' : List String} (h : AreNamed files)
    (hperm : files'.Perm files) (hagree : AgreeOnBundles tree files) (name : String) :
    ((indexOf root tree files').get? name).map (·.bundle) =
      ((indexOf root tree files).get? name).map (·.bundle) := by
  have h' : AreNamed files' := fun file hfile => h file (hperm.mem_iff.1 hfile)
  have hagree' : AgreeOnBundles tree files' := fun file hfile file' hfile' =>
    hagree file (hperm.mem_iff.1 hfile) file' (hperm.mem_iff.1 hfile')
  ext bundle
  simp only [Option.map_eq_some_iff]
  constructor
  · rintro ⟨r', hr', rfl⟩
    exact exists_get?_indexOf_of_perm h' hperm.symm hagree' hr'
  · rintro ⟨r, hr, rfl⟩
    exact exists_get?_indexOf_of_perm h hperm hagree hr

/-! ### The index of a tree -/

/-- The index of a tree that was read leads from every file name to the record of the last file
with that name, and to nothing else. The files could have been read in any other order: where files
with one name belong to one config map, and also where the same files come last, references are
judged alike. -/
theorem index_is_last_wins {v : ConfigInventory} (h : (build fs root tree).value = .ok v) :
    ∃ files, fs.yamlFiles tree = .ok files ∧
      (files.foldlM (readFile fs root tree) default).value = .ok v ∧
      v.records = files.map (.ofPath .ciOperator root tree) ∧
      (∀ name, name ∈ v.index.keys ↔ ∃ file ∈ files, fileName? file = some name) ∧
      (∀ name r, v.index.get? name = some r ↔
        ∃ file, IsLastNamed files name file ∧ r = .ofPath .ciOperator root tree file) ∧
      (∀ r ∈ v.index.values, r ∈ v.records) ∧
      ∀ files₁ files₂, files₁.Perm files → files₂.Perm files →
        ∃ v₁ v₂, (files₁.foldlM (readFile fs root tree) default).value = .ok v₁ ∧
          (files₂.foldlM (readFile fs root tree) default).value = .ok v₂ ∧
          (AgreeOnBundles tree files → ∀ references,
            Injection.check references v₁.index = Injection.check references v₂.index) ∧
          ((∀ name file, IsLastNamed files₁ name file ↔ IsLastNamed files₂ name file) →
            ∀ references,
              Injection.check references v₁.index = Injection.check references v₂.index) := by
  obtain ⟨files, hfiles, hloaded, rfl⟩ := value_build_eq_ok_iff.1 h
  have hload := Fallible.exists_forall₂_iff.1 hloaded
  have hnamed := areNamed_of_yamlFiles hfiles
  refine ⟨files, hfiles, value_foldlM_readFile_eq_ok_iff.2 ⟨hload, rfl⟩, rfl,
    fun name => mem_keys_indexOf_iff hnamed, fun name r => get?_indexOf_eq_some_iff hnamed,
    fun r hr => ?_, fun files₁ files₂ h₁ h₂ => ?_⟩
  · obtain ⟨⟨name, r⟩, hentry, rfl⟩ := List.mem_map.1 hr
    obtain ⟨file, hlast, rfl⟩ :=
      (get?_indexOf_eq_some_iff hnamed).1 (KeyMap.get?_eq_some_iff.2 hentry)
    exact List.mem_map_of_mem hlast.mem
  -- another order has the same files, so all of them can be loaded and are named
  · have hnamed₁ : AreNamed files₁ := fun file hfile => hnamed file (h₁.mem_iff.1 hfile)
    have hnamed₂ : AreNamed files₂ := fun file hfile => hnamed file (h₂.mem_iff.1 hfile)
    refine ⟨_, _,
      value_foldlM_readFile_eq_ok_iff.2 ⟨fun file hfile => hload file (h₁.mem_iff.1 hfile), rfl⟩,
      value_foldlM_readFile_eq_ok_iff.2 ⟨fun file hfile => hload file (h₂.mem_iff.1 hfile), rfl⟩,
      fun hagree => ?_, fun hlast => ?_⟩
    · refine Injection.check_congr fun key => ?_
      rw [map_bundle_get?_indexOf_congr hnamed h₁ hagree,
        map_bundle_get?_indexOf_congr hnamed h₂ hagree]
    · exact Injection.check_congr fun key => by rw [get?_indexOf_congr hnamed₁ hnamed₂ hlast]

/-! ### A name in two directories -/

/-- Two configurations with one name, of which only the second lies where the name says. -/
def namesakeFiles : FileSystem where
  workDir := []
  entries :=
    [(["ci-operator"], .dir), (["ci-operator", "config"], .dir),
      (["ci-operator", "config", "a"], .dir),
      (["ci-operator", "config", "a", "o-r-master.yaml"], .file (some "")),
      (["ci-operator", "config", "o"], .dir), (["ci-operator", "config", "o", "r"], .dir),
      (["ci-operator", "config", "o", "r", "o-r-master.yaml"], .file (some ""))]

/-- The index has the second of the two files for their name. -/
theorem index_namesakeFiles :
    ∃ v, (build namesakeFiles "/" (Layout.configTree "/")).value = .ok v ∧
      v.records =
        [⟨"ci-operator/config/a/o-r-master.yaml", "ci-operator-misc-configs"⟩,
          ⟨"ci-operator/config/o/r/o-r-master.yaml", "ci-operator-master-configs"⟩] ∧
      v.index.get? "o-r-master.yaml" =
        some ⟨"ci-operator/config/o/r/o-r-master.yaml", "ci-operator-master-configs"⟩ := by
  have hfiles : namesakeFiles.yamlFiles (Layout.configTree "/") =
      .ok ["/ci-operator/config/a/o-r-master.yaml", "/ci-operator/config/o/r/o-r-master.yaml"] := by
    decide +kernel
  have hload : namesakeFiles.loadConfig "/ci-operator/config/a/o-r-master.yaml" = .ok .empty := by
    decide +kernel
  have hload' : namesakeFiles.loadConfig "/ci-operator/config/o/r/o-r-master.yaml" =
      .ok .empty := by
    decide +kernel
  have hbuild : ∃ v, (build namesakeFiles "/" (Layout.configTree "/")).value = .ok v :=
    ⟨_, value_build_eq_ok_iff.2 ⟨_, hfiles, ⟨_, .cons hload (.cons hload' .nil)⟩, rfl⟩⟩
  obtain ⟨v, hv⟩ := hbuild
  obtain ⟨files, hfiles', -, hrecords, -, hindex, -⟩ := index_is_last_wins hv
  cases hfiles.symm.trans hfiles'
  refine ⟨v, hv, ?_, (hindex _ _).2
    ⟨"/ci-operator/config/o/r/o-r-master.yaml", ⟨[_], [], rfl, ?_, by simp⟩, ?_⟩⟩
  · rw [hrecords]
    decide +kernel
  · decide +kernel
  · decide +kernel

end ConfigInventory

end ShardCheck
