import Mathlib.Data.List.Induction
import Mathlib.Tactic.Common
import ShardCheck.Proofs.Resolve
import ShardCheck.Proofs.WalkFault
import ShardCheck.Proofs.WalkOrder

/-!
# Trees without links

A path that can be resolved leads to the same place in a file system with more in it. Below a
directory without links a path leads to the place that its names spell, a walk has no fault but for
paths that are too long, and the files of a tree are the files at the locations below it.
-/

namespace ShardCheck.FileSystem

open ShardCheck.Path

variable {fs fs' : FileSystem}

/-! ### Entries and their parents -/

lemma mem_entries_of_at? {l : Location} {e : Entry} (hat : fs.at? l = some e) (hne : l ≠ []) :
    (l, e) ∈ fs.entries := by
  rw [at?, if_neg (by simpa using hne)] at hat
  obtain ⟨before, after, heq, -⟩ := List.lookup_eq_some_iff.1 hat
  simp [heq]

lemma HasFileNames.of_mem (h : fs.HasFileNames) {l : Location} {e : Entry}
    (hat : fs.at? l = some e) : ∀ name ∈ l, IsFileName name := by
  intro name hname
  exact h (l, e) (mem_entries_of_at? hat (List.ne_nil_of_mem hname)) name hname

/-- Every entry is in a directory. -/
def IsTree (fs : FileSystem) : Prop := ∀ x ∈ fs.entries, fs.at? x.1.dropLast = some .dir

instance (fs : FileSystem) : Decidable fs.IsTree :=
  inferInstanceAs (Decidable (∀ x ∈ fs.entries, fs.at? x.1.dropLast = some .dir))

/-- On the way to an entry there are directories only. -/
lemma IsTree.at?_eq_dir (h : fs.IsTree) {l rest : Location} (hne : rest ≠ []) {e : Entry}
    (hat : fs.at? (l ++ rest) = some e) : fs.at? l = some .dir := by
  induction rest using List.reverseRecOn generalizing e with
  | nil => exact absurd rfl hne
  | append_singleton rest name ih =>
    rw [← List.append_assoc] at hat
    have hdir := h _ (mem_entries_of_at? hat (by simp))
    rw [List.dropLast_concat] at hdir
    by_cases hrest : rest = []
    · rwa [hrest, List.append_nil] at hdir
    · exact ih hrest hdir

/-! ### More entries -/

/-- Whatever is in the first file system is in the second one at the same place. -/
structure Extends (fs fs' : FileSystem) : Prop where
  workDir : fs'.workDir = fs.workDir
  kept : ∀ {l : Location} {e : Entry}, fs.at? l = some e → fs'.at? l = some e

namespace Extends

variable (h : Extends fs fs')

include h

lemma follow_eq {ss : List String} {l : Location} {e : Entry} {stop : Stop}
    (hfollow : fs.follow ss l e = .ok stop) : fs'.follow ss l e = .ok stop := by
  induction ss generalizing l e with
  | nil => exact hfollow
  | cons s ss ih =>
    rw [follow] at hfollow ⊢
    split_ifs at hfollow ⊢
    · exact ih hfollow
    · exact ih hfollow
    · cases hat : fs.at? (l ++ [s]) with
      | none =>
        rw [hat] at hfollow
        cases hfollow
      -- what was there stays, and the way stopped at nothing that is new
      | some e' =>
        rw [hat] at hfollow
        rw [h.kept hat]
        cases e' with
        | link target => exact hfollow
        | file text => exact ih hfollow
        | dir => exact ih hfollow

lemma resolves {n : Nat} {ss : List String} {l l' : Location} {e : Entry}
    (hresolves : fs.Resolves n ss l l' e) : fs'.Resolves n ss l l' e := by
  induction hresolves with
  | found hfollow => exact .found (h.follow_eq hfollow)
  | link hfollow hne _ ih => exact .link (h.follow_eq hfollow) hne ih

/-- A path that leads somewhere still does. -/
lemma resolve_eq {path : String} {x : Location × Entry} (hresolve : fs.resolve path = .ok x) :
    fs'.resolve path = .ok x := by
  obtain ⟨hne, hle, hresolves⟩ := resolve_eq_ok_iff.1 hresolve
  exact resolve_eq_ok_iff.2 ⟨hne, hle, h.workDir ▸ h.resolves hresolves⟩

lemma readText_eq {path text : String} (hread : fs.readText path = .ok text) :
    fs'.readText path = .ok text := by
  rw [readText] at hread ⊢
  cases hresolve : fs.resolve path with
  | error fault =>
    rw [hresolve] at hread
    cases hread
  | ok x =>
    rw [hresolve] at hread
    rw [h.resolve_eq hresolve]
    exact hread

lemma isFile_eq {path : String} (hfile : fs.isFile path = true) : fs'.isFile path = true := by
  rw [isFile] at hfile ⊢
  cases hresolve : fs.resolve path with
  | error fault =>
    rw [hresolve] at hfile
    cases hfile
  | ok x =>
    rw [hresolve] at hfile
    rw [h.resolve_eq hresolve]
    exact hfile

lemma load_eq {α : Type} {r : Yaml.Reader α} {empty x : α} {path : String}
    (hload : fs.load r empty path = .ok x) : fs'.load r empty path = .ok x := by
  rw [load] at hload ⊢
  cases hread : fs.readText path with
  | error fault =>
    rw [hread] at hload
    cases hload
  | ok s =>
    rw [hread] at hload
    rw [h.readText_eq hread]
    exact hload

lemma loadRules_eq {path : String} {rules : RuleSet} (hload : fs.loadRules path = .ok rules) :
    fs'.loadRules path = .ok rules := by
  rw [loadRules] at hload ⊢
  split at hload
  · rename_i hfile
    rw [if_pos (h.isFile_eq hfile)]
    exact h.load_eq hload
  · cases hload

end Extends

/-! ### Paths below a directory without links -/

/-- Neither at a location nor below it there is a link. -/
def IsLinkFree (fs : FileSystem) (place : Location) : Prop :=
  ∀ l target, place <+: l → fs.at? l ≠ some (.link target)

namespace IsLinkFree

variable {place : Location} (hfree : fs.IsLinkFree place)

include hfree

lemma of_append (names : List String) : fs.IsLinkFree (place ++ names) :=
  fun l target hstart => hfree l target ((List.prefix_append _ _).trans hstart)

/-- Names are followed down to the location that they spell. -/
lemma follow_eq {names : List String} (h : ∀ name ∈ names, IsFileName name) {e : Entry}
    {stop : Stop} (hfollow : fs.follow names place e = .ok stop) :
    ∃ e', stop = .found (place ++ names) e' ∧
      (names = [] ∧ e' = e ∨ fs.at? (place ++ names) = some e') := by
  induction names generalizing place e with
  | nil =>
    cases hfollow
    exact ⟨e, by rw [List.append_nil], .inl ⟨rfl, rfl⟩⟩
  | cons name names ih =>
    have hname := h name List.mem_cons_self
    rw [follow] at hfollow
    split at hfollow
    · cases hfollow
    rw [if_neg (by simp [hname.isName]), if_neg (by simp [hname.ne_parent])] at hfollow
    split at hfollow
    · cases hfollow
    split at hfollow
    · cases hfollow
    · rename_i target hat
      exact absurd hat (hfree _ _ (List.prefix_append _ _))
    · rename_i e' hnot hat
      obtain ⟨e'', rfl, hcases⟩ :=
        ih (hfree.of_append [name]) (fun n hn => h n (List.mem_cons_of_mem _ hn)) hfollow
      rw [List.append_assoc, List.singleton_append] at hcases ⊢
      refine ⟨e'', rfl, .inr ?_⟩
      rcases hcases with ⟨rfl, rfl⟩ | hat'
      · exact hat
      · exact hat'

/-- Names that are joined to a path lead below the place that the path leads to. -/
lemma resolve_joinAll {root : String} {e₀ e : Entry} {l : Location}
    (hroot : fs.resolve root = .ok (place, e₀)) {names : List String}
    (h : ∀ name ∈ names, IsFileName name) (hne : names ≠ [])
    (hresolve : fs.resolve (joinAll root names) = .ok (l, e)) :
    l = place ++ names ∧ fs.at? (place ++ names) = some e := by
  obtain ⟨-, -, hjoined⟩ := resolve_eq_ok_iff.1 hresolve
  obtain ⟨hempty, -, hopen⟩ := resolves_openSegments hroot
  rw [segments_joinAll root h hne, isAbsolute_joinAll hempty h] at hjoined
  have hfollow := hopen.follow_eq_of_append hjoined fun target dir left hlink => by
    obtain ⟨e', hstop, -⟩ := hfree.follow_eq h hlink
    cases hstop
  obtain ⟨e', hstop, hcases⟩ := hfree.follow_eq h hfollow
  cases hstop
  rcases hcases with ⟨hnil, -⟩ | hat
  · exact absurd hnil hne
  · exact ⟨rfl, hat⟩

/-! ### Walks -/

lemma leadsTo_eq (path : String) {name : String} {e : Entry}
    (hat : fs.at? (place ++ [name]) = some e) :
    fs.leadsTo path (place ++ [name]) e = .ok (place ++ [name], e) :=
  leadsTo_of_ne_link (fun _ he => hfree _ _ (List.prefix_append _ _) (he ▸ hat)) path _

/-- The only fault that there can be is a directory whose path is too long. -/
lemma tooLong_of_isFaultBelow {dir : String} {outer : List Ancestor} {way : List String}
    {f : WalkFault} (h : fs.IsFaultBelow dir place outer way f) :
    fs.at? (place ++ way) = some .dir ∧ maxPath < (joinAll dir way).utf8ByteSize := by
  induction h with
  | unreachable hat => exact absurd hat (hfree _ _ (List.prefix_append _ _))
  | cycle hat => exact absurd hat (hfree _ _ (List.prefix_append _ _))
  | tooLong hat hlong => exact ⟨hat, hlong⟩
  | @down dir name l l' outer e way f hat hto _ _ _ ih =>
    rw [hfree.leadsTo_eq _ hat] at hto
    cases hto
    have hbelow := ih (hfree.of_append [name])
    rwa [List.append_assoc, List.singleton_append] at hbelow

lemma exists_isFaultBelow (htree : fs.IsTree) (dir : String) (outer : List Ancestor)
    {way : List String} (hne : way ≠ []) (hat : fs.at? (place ++ way) = some .dir)
    (hlong : maxPath < (joinAll dir way).utf8ByteSize) :
    ∃ way' f, fs.IsFaultBelow dir place outer way' f := by
  induction way generalizing dir place outer with
  | nil => exact absurd rfl hne
  | cons name way ih =>
    rw [← List.singleton_append, ← List.append_assoc] at hat
    have hdir : fs.at? (place ++ [name]) = some .dir := by
      by_cases hway : way = []
      · rwa [hway, List.append_nil] at hat
      · exact htree.at?_eq_dir hway hat
    by_cases hhere : maxPath < (join dir name).utf8ByteSize
    · exact ⟨_, _, .tooLong hdir hhere⟩
    · have hway : way ≠ [] := by
        rintro rfl
        exact hhere hlong
      obtain ⟨way', f, hfault⟩ :=
        ih (hfree.of_append [name]) (join dir name) ((dir, place) :: outer) hway hat hlong
      exact ⟨name :: way', f,
        .down hdir (hfree.leadsTo_eq _ hdir) (Nat.not_lt.1 hhere) (.inl rfl) hfault⟩

/-- A path that goes down to a file spells its location. -/
lemma exists_way_of_isFileBelow (hfs : fs.HasFileNames) {dir path : String}
    (h : IsFileBelow fs dir place path) :
    ∃ way, way ≠ [] ∧ (∀ name ∈ way, IsFileName name) ∧ path = joinAll dir way ∧
      ∃ text, fs.at? (place ++ way) = some (.file text) := by
  induction h with
  | @file dir l l' name e text hat hto =>
    rw [hfree.leadsTo_eq _ hat] at hto
    cases hto
    exact ⟨[name], by simp, by simpa using hfs.of_at? hat, rfl, text, hat⟩
  | @down dir l l' name path e hat hto _ ih =>
    rw [hfree.leadsTo_eq _ hat] at hto
    cases hto
    obtain ⟨way, -, hnames, rfl, text, hfile⟩ := ih (hfree.of_append [name])
    refine ⟨name :: way, by simp, fun n hn => ?_, rfl, text, ?_⟩
    · rcases List.mem_cons.1 hn with rfl | hn
      · exact hfs.of_at? hat
      · exact hnames n hn
    · rwa [List.append_assoc, List.singleton_append] at hfile

lemma isFileBelow_of_at? (htree : fs.IsTree) (dir : String) {way : List String} (hne : way ≠ [])
    {text : Option String} (hat : fs.at? (place ++ way) = some (.file text)) :
    IsFileBelow fs dir place (joinAll dir way) := by
  induction way generalizing dir place with
  | nil => exact absurd rfl hne
  | cons name way ih =>
    by_cases hway : way = []
    · subst hway
      exact .file hat (hfree.leadsTo_eq _ hat)
    · rw [← List.singleton_append, ← List.append_assoc] at hat
      have hdir := htree.at?_eq_dir hway hat
      exact .down hdir (hfree.leadsTo_eq _ hdir) (ih (hfree.of_append [name]) _ hway hat)

/-- The configuration files of a tree are those at the locations below it. -/
lemma hasYaml_iff (hfs : fs.HasFileNames) (htree : fs.IsTree) {tree : String}
    (hresolve : fs.resolve tree = .ok (place, .dir)) {way : List String} :
    fs.HasYaml tree way ↔ way ≠ [] ∧ extension? (joinAll tree way) = some "yaml" ∧
      ∃ text, fs.at? (place ++ way) = some (.file text) := by
  constructor
  · rintro ⟨hnames, ⟨l, hl, hbelow⟩, hext⟩
    cases hresolve.symm.trans hl
    obtain ⟨way', hne, hnames', heq, hfile⟩ := hfree.exists_way_of_isFileBelow hfs hbelow
    obtain rfl := joinAll_injective tree hnames hnames' heq
    exact ⟨hne, hext, hfile⟩
  · rintro ⟨hne, hext, text, hat⟩
    refine ⟨fun name hname => ?_, ⟨place, hresolve, hfree.isFileBelow_of_at? htree tree hne hat⟩,
      hext⟩
    exact hfs.of_mem hat name (List.mem_append_right _ hname)

/-- A tree without links can be listed if none of its directories has a path that is too long. -/
lemma exists_yamlFiles_iff (htree : fs.IsTree) {tree : String}
    (hresolve : fs.resolve tree = .ok (place, .dir)) :
    (∃ files, fs.yamlFiles tree = .ok files) ↔
      ∀ way, fs.at? (place ++ way) = some .dir → (joinAll tree way).utf8ByteSize ≤ maxPath := by
  constructor
  · rintro ⟨files, hfiles⟩ way hat
    obtain ⟨-, listed, hwalk, -⟩ := yamlFiles_eq_ok_iff.1 hfiles
    by_contra hlong
    have hne : way ≠ [] := by
      rintro rfl
      exact hlong (size_le_of_resolve hresolve)
    obtain ⟨way', f, hfault⟩ :=
      hfree.exists_isFaultBelow htree tree [] hne hat (Nat.not_le.1 hlong)
    exact (exists_walk_eq_ok_iff hresolve).1 ⟨listed, hwalk⟩ _ _ _ hresolve hfault
  · intro hshort
    have hnone : fs.HasNoFault tree := by
      intro l way f hl hfault
      cases hresolve.symm.trans hl
      obtain ⟨hat, hlong⟩ := hfree.tooLong_of_isFaultBelow hfault
      exact absurd hlong (Nat.not_lt.2 (hshort way hat))
    obtain ⟨listed, hlisted⟩ := (exists_walk_eq_ok_iff hresolve).2 hnone
    exact ⟨_, yamlFiles_eq_ok_iff.2 ⟨isDir_iff.2 ⟨place, hresolve⟩, listed, hlisted, rfl⟩⟩

end IsLinkFree

end ShardCheck.FileSystem
