import Mathlib.Tactic.Common
import ShardCheck.Proofs.Below
import ShardCheck.Proofs.Flavor

/-!
# Names of configuration files

The name of a file is put together from the names of its directories, a branch, perhaps a variant,
and a suffix for its tree. A name that was put together so is taken apart into the same parts, and
what a name is taken apart into is what it can be put together from. A configuration and the files
of its jobs have one branch and one variant, whatever is written between the repository and the
suffix.
-/

namespace ShardCheck

open ShardCheck.Path ShardCheck.Text

/-! ### Suffixes -/

namespace ConfigKind

/-- What is taken off a name behind its middle part: a suffix of the tree, or nothing if the middle
part does not end with one. -/
def IsDropped (k : ConfigKind) (middle suffix : List Char) : Prop :=
  suffix ∈ k.suffixes ∨ suffix = [] ∧ ∀ t ∈ k.suffixes, ¬ t <:+ middle

lemma eq_of_suffix_of_mem_suffixes (k : ConfigKind) :
    ∀ s ∈ k.suffixes, ∀ t ∈ k.suffixes, s <:+ t → s = t := by
  cases k <;> decide

end ConfigKind

namespace BranchName

variable {k : ConfigKind} {s : List Char}

lemma dropSuffix_eq_iff {m : List Char} :
    dropSuffix k s = m ↔ ∃ suffix, k.IsDropped m suffix ∧ s = m ++ suffix := by
  have hsome : ∀ m, k.suffixes.findSome? (dropEnd? · s) = some m ↔ ∃ t ∈ k.suffixes, s = m ++ t :=
    fun m => findSome?_dropEnd?_eq_some_iff k.eq_of_suffix_of_mem_suffixes
  unfold dropSuffix
  cases hfind : k.suffixes.findSome? (dropEnd? · s) with
  | some m' =>
    obtain ⟨t, ht, rfl⟩ := (hsome m').1 hfind
    rw [Option.getD_some]
    constructor
    · rintro rfl
      exact ⟨t, .inl ht, rfl⟩
    · rintro ⟨t', ht' | ⟨rfl, hnot⟩, heq⟩
      · have h := (hsome m).2 ⟨t', ht', heq⟩
        exact Option.some.inj (hfind.symm.trans h)
      -- a suffix was found, so the text does not end without one
      · rw [List.append_nil] at heq
        exact absurd (heq ▸ List.suffix_append m' t) (hnot t ht)
  | none =>
    have hnot := findSome?_dropEnd?_eq_none_iff.1 hfind
    rw [Option.getD_none]
    constructor
    · rintro rfl
      exact ⟨[], .inr ⟨rfl, hnot⟩, (List.append_nil s).symm⟩
    · rintro ⟨t, ht | ⟨rfl, -⟩, rfl⟩
      · exact absurd (List.suffix_append m t) (hnot t ht)
      · exact List.append_nil m

/-! ### Branches and variants -/

/-- The middle part of a file name: a branch, and a variant behind two underscores. -/
def middle (b : BranchName) : List Char := b.branch ++ b.variant.elim [] (['_', '_'] ++ ·)

/-- There is a branch, and two underscores in a row come first before the variant. -/
structure IsClear (b : BranchName) : Prop where
  ne_nil : b.branch ≠ []
  no_mark : ¬ ['_', '_'] <:+: b.branch
  closed : b.variant.isSome → b.branch.getLast? ≠ some '_'

lemma ofMiddle_eq_some_iff {branch variant : List Char} :
    ofMiddle s = ⟨branch, some variant⟩ ↔ splitFirst? ['_', '_'] s = some (branch, variant) := by
  unfold ofMiddle
  cases splitFirst? ['_', '_'] s with
  | none => simp
  | some parts => simp [Prod.ext_iff]

lemma ofMiddle_eq_none_iff {branch : List Char} :
    ofMiddle s = ⟨branch, none⟩ ↔ s = branch ∧ splitFirst? ['_', '_'] s = none := by
  unfold ofMiddle
  cases splitFirst? ['_', '_'] s with
  | none => simp
  | some parts => simp

lemma ofMiddle_eq_iff {b : BranchName} (hne : b.branch ≠ []) :
    ofMiddle s = b ↔ s = b.middle ∧ b.IsClear := by
  have hmark : ['_', '_'] ≠ [] := List.cons_ne_nil _ _
  obtain ⟨branch, variant⟩ := b
  cases variant with
  | none =>
    rw [ofMiddle_eq_none_iff, splitFirst?_eq_none_iff hmark, middle, Option.elim_none,
      List.append_nil]
    refine and_congr_right fun hs => ?_
    rw [hs]
    exact ⟨fun h => ⟨hne, h, by simp⟩, IsClear.no_mark⟩
  | some variant =>
    rw [ofMiddle_eq_some_iff, splitFirst?_eq_some_iff hmark, middle, Option.elim_some,
      List.append_assoc]
    refine and_congr_right fun hs => ?_
    rw [List.dropLast_cons_cons, List.dropLast_singleton, pair_infix_concat_iff, not_or]
    exact ⟨fun h => ⟨hne, h.1, fun _ => h.2⟩, fun h => ⟨h.no_mark, h.closed rfl⟩⟩

/-- A file name is taken apart into a branch and a variant exactly if it is put together from
them. -/
lemma ofFileName?_eq_some_iff {org repo name : List Char} {b : BranchName} :
    ofFileName? k org repo name = some b ↔ b.IsClear ∧ ∃ suffix, k.IsDropped b.middle suffix ∧
      name = org ++ '-' :: repo ++ ['-'] ++ (b.middle ++ suffix) ++ ".yaml".toList := by
  simp only [ofFileName?, Option.bind_eq_bind, Option.bind_eq_some_iff, dropEnd?_eq_some_iff,
    dropStart?_eq_some_iff]
  constructor
  · rintro ⟨stem, rfl, m, rfl, h⟩
    split at h
    · cases h
    · rename_i hne
      rw [Option.some.injEq] at h
      rw [h, List.isEmpty_iff] at hne
      obtain ⟨hm, hclear⟩ := (ofMiddle_eq_iff hne).1 h
      obtain ⟨suffix, hsuffix, rfl⟩ := dropSuffix_eq_iff.1 hm
      exact ⟨hclear, suffix, hsuffix, rfl⟩
  · rintro ⟨hclear, suffix, hsuffix, rfl⟩
    refine ⟨_, rfl, _, rfl, ?_⟩
    rw [dropSuffix_eq_iff.2 ⟨suffix, hsuffix, rfl⟩, (ofMiddle_eq_iff hclear.ne_nil).2 ⟨rfl, hclear⟩]
    exact if_neg (by simpa using hclear.ne_nil)

def text (b : BranchName) : String := String.ofList b.middle

end BranchName

/-! ### Files -/

/-- The suffixes that the files of a tree are written with. -/
def ConfigKind.suffixTexts : ConfigKind → List String
  | .ciOperator => [""]
  | .job => ["-presubmits", "-postsubmits", "-periodics"]

lemma ConfigKind.isDropped_of_mem {k : ConfigKind} {suffix : String} (h : suffix ∈ k.suffixTexts)
    (m : List Char) : k.IsDropped m suffix.toList := by
  cases k with
  | ciOperator =>
    rw [List.mem_singleton.1 h]
    exact .inr ⟨rfl, fun t ht => absurd ht List.not_mem_nil⟩
  | job => exact .inl (List.mem_map_of_mem h)

lemma ConfigKind.IsDropped.ofList_mem {k : ConfigKind} {m suffix : List Char}
    (h : k.IsDropped m suffix) :
    String.ofList suffix = "" ∨ String.ofList suffix ∈ k.suffixTexts := by
  rcases h with h | ⟨rfl, -⟩
  · cases k with
    | ciOperator => exact absurd h List.not_mem_nil
    | job =>
      obtain ⟨t, ht, rfl⟩ := List.mem_map.1 h
      exact .inr (by rwa [String.ofList_toList])
  · exact .inl rfl

/-- The name of a file of a repository, with what stands in its middle and a suffix. -/
def fileName (org repo middle suffix : String) : String :=
  org ++ "-" ++ repo ++ "-" ++ middle ++ suffix ++ ".yaml"

lemma toList_fileName (org repo middle suffix : String) :
    (fileName org repo middle suffix).toList =
      org.toList ++ '-' :: repo.toList ++ ['-'] ++ (middle.toList ++ suffix.toList) ++
        ".yaml".toList := by
  simp [fileName, String.toList_append]

/-- The names of directories and a text without a slash make the name of a file. -/
lemma isFileName_fileName {org repo middle suffix : String} (horg : IsFileName org)
    (hrepo : IsFileName repo) (hmiddle : '/' ∉ middle.toList) (hsuffix : '/' ∉ suffix.toList) :
    IsFileName (fileName org repo middle suffix) := by
  have hlength : 5 ≤ (fileName org repo middle suffix).toList.length := by
    rw [toList_fileName, List.length_append]
    exact Nat.le_add_left 5 _
  have hne : ∀ s : String, s.toList.length < 5 → fileName org repo middle suffix ≠ s := by
    rintro _ hshort rfl
    exact absurd hlength (Nat.not_le.2 hshort)
  refine ⟨hne "" (by decide), hne "." (by decide), hne ".." (by decide), ?_⟩
  rw [toList_fileName]
  simp [horg.no_slash, hrepo.no_slash, hmiddle, hsuffix]

/-- A file of a repository is at such a name, below whatever tree. -/
lemma isBelow_fileName (tree : String) {org repo middle suffix : String} (horg : IsFileName org)
    (hrepo : IsFileName repo) (hmiddle : '/' ∉ middle.toList) (hsuffix : '/' ∉ suffix.toList) :
    IsBelow tree (joinAll tree [org, repo, fileName org repo middle suffix])
      [org, repo, fileName org repo middle suffix] := by
  have hname := isFileName_fileName horg hrepo hmiddle hsuffix
  exact isBelow_joinAll tree (by simp [horg, hrepo, hname])

namespace FileInfo

variable {k : ConfigKind} {tree path : String}

lemma ofPath_of_isBelow {org repo name : String} (h : IsBelow tree path [org, repo, name]) :
    ofPath k tree path =
      { kind := k
        basename := name
        org := some org
        repo := some repo
        branch := (BranchName.ofFileName? k org.toList repo.toList name.toList).map
          (String.ofList ·.branch)
        variant := ((BranchName.ofFileName? k org.toList repo.toList name.toList).bind
          (·.variant)).map String.ofList } := by
  unfold ofPath
  rw [namesUnder_of_isBelow h, fileName?_of_isBelow h (List.cons_ne_nil _ _)]
  rfl

/-- Only a file three levels below its tree has a branch. -/
lemma ofPath_of_length_ne {names : List String} (h : IsBelow tree path names)
    (hlength : names.length ≠ 3) :
    (ofPath k tree path).branch = none ∧ (ofPath k tree path).variant = none := by
  unfold ofPath
  rw [namesUnder_of_isBelow h]
  split
  · exact absurd rfl hlength
  · exact ⟨rfl, rfl⟩

/-- What a file has in its name is what its place tells about it. -/
lemma ofPath_fileName {org repo suffix : String} {b : BranchName} (hb : b.IsClear)
    (hsuffix : k.IsDropped b.middle suffix.toList)
    (h : IsBelow tree path [org, repo, fileName org repo b.text suffix]) :
    ofPath k tree path =
      { kind := k
        basename := fileName org repo b.text suffix
        org := some org
        repo := some repo
        branch := some (String.ofList b.branch)
        variant := b.variant.map String.ofList } := by
  have hread : BranchName.ofFileName? k org.toList repo.toList
      (fileName org repo b.text suffix).toList = some b := by
    refine BranchName.ofFileName?_eq_some_iff.2 ⟨hb, suffix.toList, hsuffix, ?_⟩
    rw [toList_fileName, BranchName.text, String.toList_ofList]
  rw [ofPath_of_isBelow h, hread]
  rfl

/-- The name of a file with a branch is put together from it. -/
lemma exists_of_ofFileName? {org repo name : String} {b : BranchName}
    (h : BranchName.ofFileName? k org.toList repo.toList name.toList = some b) :
    b.IsClear ∧ ∃ suffix : String, k.IsDropped b.middle suffix.toList ∧
      name = fileName org repo b.text suffix := by
  obtain ⟨hb, suffix, hsuffix, hname⟩ := BranchName.ofFileName?_eq_some_iff.1 h
  refine ⟨hb, String.ofList suffix, by rwa [String.toList_ofList], ?_⟩
  rw [← String.toList_inj, hname, toList_fileName, BranchName.text]
  simp only [String.toList_ofList]

/-- A file below a tree has the branch and the variant that its name is put together from, or
neither of them. -/
lemma ofPath_cases {names : List String} (h : IsBelow tree path names) :
    (∃ (org repo : String) (b : BranchName) (suffix : String), b.IsClear ∧
      k.IsDropped b.middle suffix.toList ∧ names = [org, repo, fileName org repo b.text suffix]) ∨
    (ofPath k tree path).branch = none ∧ (ofPath k tree path).variant = none := by
  by_cases hlength : names.length = 3
  · obtain ⟨org, repo, name, rfl⟩ := List.length_eq_three.1 hlength
    cases hread : BranchName.ofFileName? k org.toList repo.toList name.toList with
    | some b =>
      obtain ⟨hb, suffix, hsuffix, rfl⟩ := exists_of_ofFileName? hread
      exact .inl ⟨org, repo, b, suffix, hb, hsuffix, rfl⟩
    | none =>
      rw [ofPath_of_isBelow h, hread]
      exact .inr ⟨rfl, rfl⟩
  · exact .inr (ofPath_of_length_ne h hlength)

/-- A file at the place and with the name of a branch and a variant has this branch and this
variant. A file below its tree that has a branch is at such a place and has such a name; every other
file has the flavor for files without a branch. The parts of a path, and so what they are put
together from, are free of slashes. -/
theorem file_name_round_trip (k : ConfigKind) (tree path : String) :
    (∀ (org repo : String) (b : BranchName), b.IsClear → ∀ suffix ∈ k.suffixTexts,
      IsBelow tree path [org, repo, fileName org repo b.text suffix] →
      ofPath k tree path =
        { kind := k
          basename := fileName org repo b.text suffix
          org := some org
          repo := some repo
          branch := some (String.ofList b.branch)
          variant := b.variant.map String.ofList }) ∧
    ∀ names, IsBelow tree path names →
      (∃ (org repo : String) (b : BranchName) (suffix : String), b.IsClear ∧
        (suffix = "" ∨ suffix ∈ k.suffixTexts) ∧
        names = [org, repo, fileName org repo b.text suffix] ∧
        (ofPath k tree path).org = some org ∧ (ofPath k tree path).repo = some repo ∧
        (ofPath k tree path).branch = some (String.ofList b.branch) ∧
        (ofPath k tree path).variant = b.variant.map String.ofList) ∨
      (ofPath k tree path).branch = none ∧ (ofPath k tree path).variant = none ∧
        (ofPath k tree path).flavor = .misc := by
  constructor
  · intro org repo b hb suffix hsuffix h
    exact ofPath_fileName hb (ConfigKind.isDropped_of_mem hsuffix b.middle) h
  · intro names h
    rcases ofPath_cases h with ⟨org, repo, b, suffix, hb, hsuffix, rfl⟩ | ⟨hbranch, hvariant⟩
    · have hmem := hsuffix.ofList_mem
      rw [String.ofList_toList] at hmem
      refine .inl ⟨org, repo, b, suffix, hb, hmem, rfl, ?_⟩
      rw [ofPath_fileName hb hsuffix h]
      exact ⟨rfl, rfl, rfl, rfl⟩
    · exact .inr ⟨hbranch, hvariant, by rw [flavor, hbranch]; rfl⟩

/-- The parts of a name are found among separators of all kinds, and a file right below its tree has
no branch. -/
theorem file_name_round_trip_sample :
    IsBelow "ci-operator/jobs"
        "ci-operator/jobs//a-b/./c__d/a-b-c__d-e-periodics__f__g-presubmits.yaml"
        ["a-b", "c__d", "a-b-c__d-e-periodics__f__g-presubmits.yaml"] ∧
      ofPath .job "ci-operator/jobs"
          "ci-operator/jobs//a-b/./c__d/a-b-c__d-e-periodics__f__g-presubmits.yaml" =
        { kind := .job
          basename := "a-b-c__d-e-periodics__f__g-presubmits.yaml"
          org := some "a-b"
          repo := some "c__d"
          branch := some "e-periodics"
          variant := some "f__g" } ∧
      IsBelow "ci-operator/jobs" "ci-operator/jobs/infra-periodics.yaml" ["infra-periodics.yaml"] ∧
      (ofPath .job "ci-operator/jobs" "ci-operator/jobs/infra-periodics.yaml").flavor = .misc := by
  have hclear : BranchName.IsClear ⟨"e-periodics".toList, some "f__g".toList⟩ :=
    ⟨by decide, by decide, by decide⟩
  have hfile : IsBelow "ci-operator/jobs"
      "ci-operator/jobs//a-b/./c__d/a-b-c__d-e-periodics__f__g-presubmits.yaml"
      ["a-b", "c__d", "a-b-c__d-e-periodics__f__g-presubmits.yaml"] := by decide +kernel
  have hflat : IsBelow "ci-operator/jobs" "ci-operator/jobs/infra-periodics.yaml"
      ["infra-periodics.yaml"] := by decide +kernel
  refine ⟨hfile, ?_, hflat, ?_⟩
  · exact (file_name_round_trip .job _ _).1 _ _ _ hclear "-presubmits" (by decide) hfile
  · rcases (file_name_round_trip .job _ _).2 _ hflat with ⟨org, repo, b, suffix, -, -, h, -⟩ | h
    · cases h
    · exact h.2.2

/-! ### Configurations and their jobs -/

/-- What a file name tells is what its middle part tells, whatever the suffix of its tree. -/
lemma ofFileName?_fileName {org repo middle suffix : String} (hsuffix : suffix ∈ k.suffixTexts) :
    BranchName.ofFileName? k org.toList repo.toList (fileName org repo middle suffix).toList =
      if (BranchName.ofMiddle middle.toList).branch.isEmpty then none
      else some (BranchName.ofMiddle middle.toList) := by
  have hstem := dropEnd?_eq_some_iff.2 (toList_fileName org repo middle suffix)
  have hdrop : BranchName.dropSuffix k (middle.toList ++ suffix.toList) = middle.toList :=
    BranchName.dropSuffix_eq_iff.2 ⟨suffix.toList, ConfigKind.isDropped_of_mem hsuffix _, rfl⟩
  rw [BranchName.ofFileName?, hstem, Option.bind_eq_bind, Option.bind_some,
    dropStart?_eq_some_iff.2 rfl, Option.bind_some, hdrop]

/-- A configuration and each file of jobs that is named after it have one branch, one variant and
one flavor, and their config maps are named for this flavor. Whatever text stands behind the
repository makes no difference, be it empty or with underscores or suffixes in it; it is free of
slashes as the parts of a path are. -/
theorem flavor_of_generated_jobs (tree tree' path path' org repo middle suffix : String)
    (hsuffix : suffix ∈ ["-presubmits", "-postsubmits", "-periodics"])
    (hconfig : IsBelow tree path [org, repo, fileName org repo middle ""])
    (hjobs : IsBelow tree' path' [org, repo, fileName org repo middle suffix]) :
    (ofPath .job tree' path').branch = (ofPath .ciOperator tree path).branch ∧
    (ofPath .job tree' path').variant = (ofPath .ciOperator tree path).variant ∧
    (ofPath .job tree' path').flavor = (ofPath .ciOperator tree path).flavor ∧
    ∃ flavor, (ofPath .ciOperator tree path).flavor.text = flavor ∧
      (ofPath .ciOperator tree path).bundleName = "ci-operator-" ++ flavor ++ "-configs" ∧
      (ofPath .job tree' path').bundleName = "job-config-" ++ flavor := by
  have hmem : suffix ∈ ConfigKind.job.suffixTexts := hsuffix
  have hempty : "" ∈ ConfigKind.ciOperator.suffixTexts := List.mem_singleton_self ""
  have hread : BranchName.ofFileName? .job org.toList repo.toList
        (fileName org repo middle suffix).toList =
      BranchName.ofFileName? .ciOperator org.toList repo.toList
        (fileName org repo middle "").toList :=
    (ofFileName?_fileName hmem).trans (ofFileName?_fileName hempty).symm
  rw [ofPath_of_isBelow hconfig, ofPath_of_isBelow hjobs, hread]
  exact ⟨rfl, rfl, rfl, _, rfl, rfl, rfl⟩

/-- The variant of a branch ends like a file of jobs, and the jobs before a merge follow it. -/
theorem flavor_of_generated_jobs_sample :
    "-presubmits" ∈ ["-presubmits", "-postsubmits", "-periodics"] ∧
      (ofPath .job "ci-operator/jobs" (joinAll "ci-operator/jobs"
        ["o", "r", "o-r-release-4.2__x-periodics-presubmits.yaml"])).variant =
        (ofPath .ciOperator "ci-operator/config" (joinAll "ci-operator/config"
          ["o", "r", "o-r-release-4.2__x-periodics.yaml"])).variant ∧
      (ofPath .ciOperator "ci-operator/config" (joinAll "ci-operator/config"
        ["o", "r", "o-r-release-4.2__x-periodics.yaml"])).bundleName = "ci-operator-4.2-configs" ∧
      (ofPath .job "ci-operator/jobs" (joinAll "ci-operator/jobs"
        ["o", "r", "o-r-release-4.2__x-periodics-presubmits.yaml"])).bundleName =
        "job-config-4.2" := by
  have horg : IsFileName "o" := by decide
  have hrepo : IsFileName "r" := by decide
  have hsuffix : "-presubmits" ∈ ["-presubmits", "-postsubmits", "-periodics"] := by decide
  obtain ⟨-, hvariant, -, flavor, hflavor, hconfig, hjobs⟩ :=
    flavor_of_generated_jobs "ci-operator/config" "ci-operator/jobs" _ _ "o" "r"
      "release-4.2__x-periodics" "-presubmits" hsuffix
      (isBelow_fileName _ horg hrepo (by decide) (by decide))
      (isBelow_fileName _ horg hrepo (by decide) (by decide))
  have hname : flavor = "4.2" := hflavor.symm.trans (by decide +kernel)
  rw [hname] at hconfig hjobs
  exact ⟨hsuffix, hvariant, hconfig, hjobs⟩

end FileInfo

end ShardCheck
