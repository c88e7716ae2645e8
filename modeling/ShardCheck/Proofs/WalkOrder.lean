import Mathlib.Data.List.Sort
import Mathlib.Tactic.Common
import ShardCheck.Proofs.Path
import ShardCheck.Proofs.Walk

/-!
# The order of a walk

The way to a file is the list of the names that are joined to the tree on the way down. A walk takes
the entries of every directory by name, so it lists the files in the lexicographic order of their
ways, and the files that are there determine the list.
-/

namespace ShardCheck.FileSystem

variable {fs : FileSystem}

/-! ### Ways -/

/-- On the way to every entry there are names of entries only. -/
def HasFileNames (fs : FileSystem) : Prop := ∀ x ∈ fs.entries, ∀ name ∈ x.1, Path.IsFileName name

instance (fs : FileSystem) : Decidable fs.HasFileNames :=
  inferInstanceAs (Decidable (∀ x ∈ fs.entries, ∀ name ∈ x.1, Path.IsFileName name))

lemma HasFileNames.of_at? (h : fs.HasFileNames) {l : Location} {name : String} {e : Entry}
    (hat : fs.at? (l ++ [name]) = some e) : Path.IsFileName name := by
  have hlookup : fs.entries.lookup (l ++ [name]) = some e := by simpa [at?] using hat
  obtain ⟨before, after, heq, -⟩ := List.lookup_eq_some_iff.1 hlookup
  exact h (l ++ [name], e) (by simp [heq]) name (by simp)

/-- Some files are those at some ways from a directory, in the order of the ways. -/
structure AreAt (files : List String) (dir : String) (ways : List (List String)) : Prop where
  files_eq : files = ways.map (Path.joinAll dir)
  sorted : ways.Pairwise (· < ·)
  names : ∀ way ∈ ways, ∀ name ∈ way, Path.IsFileName name

/-- The way leads from a tree to a configuration file. -/
structure HasYaml (fs : FileSystem) (tree : String) (way : List String) : Prop where
  names : ∀ name ∈ way, Path.IsFileName name
  file : fs.HasFile tree (Path.joinAll tree way)
  extension : Path.extension? (Path.joinAll tree way) = some "yaml"

/-! ### One directory -/

/-- The files at the entries of a directory come in the order of the ways that start with the names
of the entries. -/
lemma exists_areAt_flatten {dir : String} {entries : List (String × Entry)}
    {founds : List (List String)} (hsorted : entries.Pairwise (·.1 < ·.1))
    (hnames : ∀ x ∈ entries, Path.IsFileName x.1)
    (h : List.Forall₂ (fun x found => ∃ ways, AreAt found (Path.join dir x.1) ways) entries
      founds) :
    ∃ ways, AreAt founds.flatten dir ways ∧ ∀ way ∈ ways, ∃ x ∈ entries, way.head? = some x.1 := by
  induction h with
  | nil => exact ⟨[], ⟨rfl, .nil, by simp⟩, by simp⟩
  | @cons x found entries founds hfound _ ih =>
    obtain ⟨hlt, hsorted⟩ := List.pairwise_cons.1 hsorted
    obtain ⟨here, hhere⟩ := hfound
    obtain ⟨later, hlater, hhead⟩ :=
      ih hsorted fun y hy => hnames y (List.mem_cons_of_mem _ hy)
    refine ⟨here.map (x.1 :: ·) ++ later, ⟨?_, ?_, ?_⟩, ?_⟩
    · rw [List.flatten_cons, hhere.files_eq, hlater.files_eq, List.map_append, List.map_map]
      rfl
    -- ways through the first entry come before all others by their first names
    · refine List.pairwise_append.2 ⟨?_, hlater.sorted, ?_⟩
      · exact List.pairwise_map.2
          (hhere.sorted.imp fun h => List.cons_lt_cons_iff.2 (.inr ⟨rfl, h⟩))
      · intro a ha b hb
        obtain ⟨rest, -, rfl⟩ := List.mem_map.1 ha
        obtain ⟨y, hy, hb⟩ := hhead b hb
        obtain ⟨rest', rfl⟩ := List.head?_eq_some_iff.1 hb
        exact List.cons_lt_cons_iff.2 (.inl (hlt y hy))
    · intro way hway name hname
      rcases List.mem_append.1 hway with hway | hway
      · obtain ⟨rest, hrest, rfl⟩ := List.mem_map.1 hway
        rcases List.mem_cons.1 hname with rfl | hname
        · exact hnames x List.mem_cons_self
        · exact hhere.names rest hrest name hname
      · exact hlater.names way hway name hname
    · intro way hway
      rcases List.mem_append.1 hway with hway | hway
      · obtain ⟨rest, -, rfl⟩ := List.mem_map.1 hway
        exact ⟨x, List.mem_cons_self, rfl⟩
      · obtain ⟨y, hy, hy'⟩ := hhead way hway
        exact ⟨y, List.mem_cons_of_mem _ hy, hy'⟩

/-! ### A whole walk -/

/-- A walk lists the files below a directory in the order of their ways. -/
lemma exists_areAt_filesBelow (hfs : fs.HasFileNames) {fuel : Nat} {dir : String} {l : Location}
    {outer : List Ancestor} {files : List String}
    (h : fs.filesBelow fuel ((dir, l) :: outer) = .ok files) :
    ∃ ways, AreAt files dir ways ∧ [] ∉ ways := by
  induction fuel generalizing dir l outer files with
  | zero =>
    cases h
    exact ⟨[], ⟨rfl, .nil, by simp⟩, by simp⟩
  | succ fuel ih =>
    rw [filesBelow_succ, Fallible.map_eq_ok_iff] at h
    obtain ⟨founds, hfounds, rfl⟩ := h
    rw [Fallible.mapM_eq_ok_iff] at hfounds
    have hentries : List.Forall₂ (fun x found => ∃ ways, AreAt found (Path.join dir x.1) ways)
        (fs.children l).entries founds := by
      refine hfounds.imp fun x found hfound => ?_
      obtain ⟨l', e', -, ⟨-, rfl⟩ | ⟨-, -, -, hbelow⟩⟩ := filesAt_eq_ok_iff.1 hfound
      · exact ⟨[[]], ⟨rfl, List.pairwise_singleton _ _, by simp⟩⟩
      · obtain ⟨ways, hways, -⟩ := ih hbelow
        exact ⟨ways, hways⟩
    obtain ⟨ways, hways, hhead⟩ := exists_areAt_flatten (fs.children l).sorted
      (fun x hx => hfs.of_at? (mem_children_iff.1 hx)) hentries
    refine ⟨ways, hways, fun hnil => ?_⟩
    obtain ⟨x, -, hx⟩ := hhead [] hnil
    cases hx

/-- The configuration files of a tree are listed in the order of their ways, and the ways are those
that lead to configuration files. -/
theorem exists_areAt_yamlFiles (hfs : fs.HasFileNames) {tree : String} {files : List String}
    (h : fs.yamlFiles tree = .ok files) :
    ∃ ways, AreAt files tree ways ∧ [] ∉ ways ∧ ∀ way, way ∈ ways ↔ fs.HasYaml tree way := by
  have hmem := mem_yamlFiles_iff h
  obtain ⟨hisDir, listed, hwalk, hfiles⟩ := yamlFiles_eq_ok_iff.1 h
  obtain ⟨l, hdir⟩ := isDir_iff.1 hisDir
  rw [walk_of_resolve hdir] at hwalk
  obtain ⟨ways, hways, hne⟩ := exists_areAt_filesBelow hfs hwalk
  have hat : AreAt files tree (ways.filter (isYaml ∘ Path.joinAll tree)) := by
    refine ⟨?_, hways.sorted.filter _, fun way hway => ?_⟩
    · rw [hfiles, hways.files_eq, List.filter_map]
    · exact hways.names way (List.mem_of_mem_filter hway)
  refine ⟨_, hat, fun hnil => hne (List.mem_of_mem_filter hnil), fun way => ?_⟩
  constructor
  · intro hway
    obtain ⟨hfile, hext⟩ := (hmem (Path.joinAll tree way)).1
      (hat.files_eq ▸ List.mem_map_of_mem hway)
    exact ⟨hat.names way hway, hfile, hext⟩
  · intro hyaml
    have hpath := (hmem _).2 ⟨hyaml.file, hyaml.extension⟩
    rw [hat.files_eq, List.mem_map] at hpath
    obtain ⟨way', hway', heq⟩ := hpath
    rwa [← Path.joinAll_injective tree (hat.names way' hway') hyaml.names heq]

end ShardCheck.FileSystem
