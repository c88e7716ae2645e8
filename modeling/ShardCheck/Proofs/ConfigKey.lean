import Mathlib.Tactic.Common
import ShardCheck.Proofs.FileName
import ShardCheck.Proofs.Index

/-!
# Configurations with one name

The name of a configuration does not say where the branch begins: what one repository has at the end
of its name can be the start of a branch of another one. Two configurations with one name have one
branch if what they have in front of it is one text. If not, then the branch of one of them starts
with what the other has in front of its branch besides.
-/

namespace ShardCheck

open ShardCheck.Path ShardCheck.Text

/-! ### Cutting at a hyphen -/

/-- Of two cuts of a text at a hyphen one goes on to the other. -/
lemma Text.eq_or_of_append_hyphen_eq {s s' : String} {t t' : List Char}
    (h : s.toList ++ '-' :: t = s'.toList ++ '-' :: t') :
    s = s' ∨ (∃ y, s' = s ++ "-" ++ y) ∨ ∃ y, s = s' ++ "-" ++ y := by
  have hlonger : ∀ {p p' : String} {y : List Char}, p'.toList = p.toList ++ '-' :: y →
      p' = p ++ "-" ++ String.ofList y := fun heq => by
    rw [← String.toList_inj, heq]
    simp [String.toList_append]
  rcases List.append_eq_append_iff.1 h with ⟨y, hs, hrest⟩ | ⟨y, hs, hrest⟩
  · cases y with
    | nil => exact .inl (String.toList_inj.1 (by simpa using hs.symm))
    | cons c y =>
      cases (List.cons.inj hrest).1
      exact .inr (.inl ⟨_, hlonger hs⟩)
  · cases y with
    | nil => exact .inl (String.toList_inj.1 (by simpa using hs))
    | cons c y =>
      cases (List.cons.inj hrest).1
      exact .inr (.inr ⟨_, hlonger hs⟩)

/-- What stands in front of one of the cuts besides begins what stands behind the other. -/
lemma Text.eq_of_append_hyphen_eq {s s' y : String} {t t' : List Char}
    (h : s.toList ++ '-' :: t = s'.toList ++ '-' :: t') (hs : s' = s ++ "-" ++ y) :
    t = y.toList ++ '-' :: t' := by
  subst hs
  simpa [String.toList_append] using h

namespace BranchName

variable {y m : List Char}

/-- Behind a hyphen the mark of a variant comes first where the text before has none. -/
lemma ofMiddle_append_hyphen (hy : ¬ ['_', '_'] <:+: y) :
    ofMiddle (y ++ '-' :: m) = ⟨y ++ '-' :: (ofMiddle m).branch, (ofMiddle m).variant⟩ := by
  have hmark : ['_', '_'] ≠ [] := List.cons_ne_nil _ _
  have hinfix : ∀ t, ['_', '_'] <:+: y ++ '-' :: t ↔ ['_', '_'] <:+: t := fun t => by
    rw [pair_infix_append_cons_iff (by decide), or_iff_right hy]
  unfold ofMiddle
  cases hsplit : splitFirst? ['_', '_'] m with
  | none =>
    rw [splitFirst?_eq_none_iff hmark, ← hinfix, ← splitFirst?_eq_none_iff hmark] at hsplit
    rw [hsplit]
  | some parts =>
    obtain ⟨before, after⟩ := parts
    obtain ⟨rfl, hfirst⟩ := (splitFirst?_eq_some_iff hmark).1 hsplit
    rw [← hinfix] at hfirst
    have hsplit' : splitFirst? ['_', '_'] (y ++ '-' :: (before ++ ['_', '_'] ++ after)) =
        some (y ++ '-' :: before, after) :=
      (splitFirst?_eq_some_iff hmark).2 ⟨by simp, by simpa using hfirst⟩
    rw [hsplit']

/-- A text before the mark of a variant is the branch, whatever comes behind the mark. -/
lemma branch_ofMiddle {before after : List Char} (h : ¬ ['_', '_'] <:+: before ++ ['_']) :
    (ofMiddle (before ++ ['_', '_'] ++ after)).branch = before := by
  have hsplit : splitFirst? ['_', '_'] (before ++ ['_', '_'] ++ after) = some (before, after) :=
    (splitFirst?_eq_some_iff (List.cons_ne_nil _ _)).2 ⟨rfl, h⟩
  rw [ofMiddle, hsplit]

lemma IsClear.ofMiddle_middle {b : BranchName} (h : b.IsClear) : ofMiddle b.middle = b :=
  (ofMiddle_eq_iff h.ne_nil).2 ⟨rfl, h⟩

end BranchName

/-! ### Hyphens in branches -/

namespace Flavor

/-- The number of hyphens in the branches that have a flavor of their own. -/
def hyphens : Flavor → Nat
  | .three | .four _ => 1
  | .master | .main | .misc => 0

lemma count_hyphen_of_isVersionBranch {branch major minor : String} (hmajor : '-' ∉ major.toList)
    (h : IsVersionBranch branch major minor) : branch.toList.count '-' = 1 := by
  obtain ⟨hminor, mark, hmark, hbranch⟩ := isVersionBranch_iff.1 h
  have hone : ∀ mark ∈ versionMarks, mark.count '-' = 1 := by decide
  have hnumber : '-' ∉ minor.toList := fun hmem =>
    absurd ((isNumber_iff.1 hminor).2 _ hmem) (by decide)
  rw [hbranch, List.count_append, List.count_append, hone mark hmark, List.count_eq_zero.2 hmajor,
    List.count_cons, List.count_eq_zero.2 hnumber]
  decide

lemma IsOf.count_hyphen {f : Flavor} {branch : String} (h : f.IsOf branch) :
    branch.toList.count '-' = f.hyphens := by
  cases h with
  | master => decide
  | main => decide
  | three h => exact count_hyphen_of_isVersionBranch (by decide) h
  | four h => exact count_hyphen_of_isVersionBranch (by decide) h

/-- A branch with something in front of it does not keep a flavor of its own. -/
lemma ofBranch_append_hyphen_eq_iff {y branch : String} :
    ofBranch (y ++ "-" ++ branch).toList = ofBranch branch.toList ↔
      ofBranch (y ++ "-" ++ branch).toList = .misc ∧ ofBranch branch.toList = .misc := by
  refine ⟨fun heq => ?_, fun h => h.1.trans h.2.symm⟩
  rcases isOf_ofBranch_or branch with hown | hmisc
  · rcases isOf_ofBranch_or (y ++ "-" ++ branch) with hown' | hmisc
    · -- both would have the same number of hyphens
      have hcount := hown'.count_hyphen
      rw [heq, ← hown.count_hyphen, String.toList_append, String.toList_append, List.count_append,
        List.count_append] at hcount
      have hone : "-".toList.count '-' = 1 := by decide
      omega
    · exact ⟨hmisc, heq.symm.trans hmisc⟩
  · exact ⟨heq.trans hmisc, hmisc⟩

end Flavor

/-! ### Two files with one name -/

namespace FileInfo

variable {tree path path' org repo org' repo' name branch branch' : String}

/-- A configuration with a branch has a name that is put together from it. -/
lemma exists_of_branch_eq_some (h : IsBelow tree path [org, repo, name])
    (hbranch : (ofPath .ciOperator tree path).branch = some branch) :
    ∃ b : BranchName, b.IsClear ∧
      name.toList = (org ++ "-" ++ repo).toList ++ '-' :: b.middle ++ ".yaml".toList ∧
      branch = String.ofList b.branch ∧
      (ofPath .ciOperator tree path).variant = b.variant.map String.ofList := by
  rw [ofPath_of_isBelow h] at hbranch ⊢
  obtain ⟨b, hread, rfl⟩ := Option.map_eq_some_iff.1 hbranch
  obtain ⟨hb, suffix, hsuffix | ⟨rfl, -⟩, hname⟩ := BranchName.ofFileName?_eq_some_iff.1 hread
  · exact absurd hsuffix List.not_mem_nil
  · refine ⟨b, hb, ?_, rfl, by rw [hread]; rfl⟩
    rw [hname]
    simp [String.toList_append]

lemma flavor_of_branch {i : FileInfo} (h : i.branch = some branch) :
    i.flavor = Flavor.ofBranch branch.toList := by
  rw [flavor, h]
  rfl

lemma kind_ofPath (k : ConfigKind) (tree path : String) : (ofPath k tree path).kind = k := by
  unfold ofPath
  simp only
  split <;> rfl

/-- Files of one tree belong to one config map if they have one flavor. -/
lemma bundleName_ofPath_eq_iff {k : ConfigKind} :
    (ofPath k tree path).bundleName = (ofPath k tree path').bundleName ↔
      (ofPath k tree path).flavor = (ofPath k tree path').flavor := by
  rw [bundleName, bundleName, kind_ofPath, kind_ofPath, ConfigKind.bundleName_eq_iff,
    and_iff_right rfl, flavor_text_eq_iff]

/-- A file that takes the place of another one under their name leaves all references judged as they
were exactly if it belongs to the same config map. -/
lemma check_add_eq_iff {root : String} {v : ConfigInventory}
    (hkey : (ofPath .ciOperator tree path').key = name)
    (hget : v.index.get? name = some (.ofPath .ciOperator root tree path)) :
    (∀ references, Injection.check references
        (v.add (ofPath .ciOperator tree path') (.ofPath .ciOperator root tree path')).index =
      Injection.check references v.index) ↔
      (ofPath .ciOperator tree path).bundleName = (ofPath .ciOperator tree path').bundleName := by
  constructor
  · intro hcheck
    -- a reference to the config map of the first file is right as long as it counts
    have h := hcheck [⟨name, (ofPath .ciOperator tree path).bundleName, ⟨"", .periodic, "", 0⟩⟩]
    by_contra hne
    simp [Injection.check, Injection.checkReference, ConfigInventory.add, KeyMap.get?_insert, hkey,
      hget, PathRecord.bundle_ofPath, hne] at h
  · intro hbundle
    refine Injection.check_congr fun key => ?_
    rw [ConfigInventory.add, KeyMap.get?_insert, hkey]
    split
    · rename_i heq
      rw [heq, hget, Option.map_some, Option.map_some, PathRecord.bundle_ofPath,
        PathRecord.bundle_ofPath, hbundle]
    · rfl

/-- Two configurations with a branch can have one name in three ways. If what they have in front of
the branch is one text, they have one branch, one variant and one config map. Otherwise one of them
has more in front of its branch, and with this more the branch of the other one begins. If there is
a mark in it the other branch ends there. If not, the branches end alike and so do the variants, and
the two files belong to one config map only if both have the flavor that is left. A file that takes
the place of the other one in the index leaves the references to their name judged as they were
exactly if the two belong to one config map. -/
theorem bundle_of_shared_name (h : IsBelow tree path [org, repo, name])
    (h' : IsBelow tree path' [org', repo', name])
    (hbranch : (ofPath .ciOperator tree path).branch = some branch)
    (hbranch' : (ofPath .ciOperator tree path').branch = some branch') :
    (org ++ "-" ++ repo = org' ++ "-" ++ repo' ∨
      (∃ y, org' ++ "-" ++ repo' = org ++ "-" ++ repo ++ "-" ++ y) ∨
      ∃ y, org ++ "-" ++ repo = org' ++ "-" ++ repo' ++ "-" ++ y) ∧
    (org ++ "-" ++ repo = org' ++ "-" ++ repo' →
      branch = branch' ∧
      (ofPath .ciOperator tree path).variant = (ofPath .ciOperator tree path').variant ∧
      (ofPath .ciOperator tree path).bundleName = (ofPath .ciOperator tree path').bundleName) ∧
    (∀ y, org' ++ "-" ++ repo' = org ++ "-" ++ repo ++ "-" ++ y →
      (¬ ['_', '_'] <:+: y.toList →
        branch = y ++ "-" ++ branch' ∧
        (ofPath .ciOperator tree path).variant = (ofPath .ciOperator tree path').variant ∧
        ((ofPath .ciOperator tree path).bundleName = (ofPath .ciOperator tree path').bundleName ↔
          (ofPath .ciOperator tree path).flavor = .misc ∧
            (ofPath .ciOperator tree path').flavor = .misc)) ∧
      ∀ before after, y = before ++ "__" ++ after → ¬ ['_', '_'] <:+: (before ++ "_").toList →
        branch = before) ∧
    ((ofPath .ciOperator tree path).bundleName = (ofPath .ciOperator tree path').bundleName ↔
      Flavor.ofBranch branch.toList = Flavor.ofBranch branch'.toList) ∧
    ∀ (root : String) (v : ConfigInventory),
      v.index.get? name = some (.ofPath .ciOperator root tree path) →
      ((∀ references, Injection.check references
          (v.add (ofPath .ciOperator tree path') (.ofPath .ciOperator root tree path')).index =
        Injection.check references v.index) ↔
      (ofPath .ciOperator tree path).bundleName = (ofPath .ciOperator tree path').bundleName) := by
  obtain ⟨b, hb, hname, rfl, hvariant⟩ := exists_of_branch_eq_some h hbranch
  obtain ⟨b', hb', hname', rfl, hvariant'⟩ := exists_of_branch_eq_some h' hbranch'
  have hcut := List.append_cancel_right (hname.symm.trans hname')
  have hkey : (ofPath .ciOperator tree path').key = name := by
    rw [key_ofPath, fileName?_of_isBelow h' (List.cons_ne_nil _ _)]
    rfl
  have hflavor := flavor_of_branch hbranch
  have hflavor' := flavor_of_branch hbranch'
  refine ⟨?_, fun heq => ?_, fun y heq => ⟨fun hy => ?_, fun before after hafter hfirst => ?_⟩, ?_,
    fun root v => check_add_eq_iff hkey⟩
  · exact Text.eq_or_of_append_hyphen_eq hcut
  · rw [heq] at hcut
    -- equal starts leave equal middle parts
    have hmiddle : b.middle = b'.middle := (List.cons.inj (List.append_cancel_left hcut)).2
    have hbb : b = b' := by rw [← hb.ofMiddle_middle, hmiddle, hb'.ofMiddle_middle]
    cases hbb
    exact ⟨rfl, hvariant.trans hvariant'.symm,
      bundleName_ofPath_eq_iff.2 (hflavor.trans hflavor'.symm)⟩
  -- the middle part of the shorter start is `y-` and that of the longer one
  · have hread := hb.ofMiddle_middle
    rw [Text.eq_of_append_hyphen_eq hcut heq, BranchName.ofMiddle_append_hyphen hy,
      hb'.ofMiddle_middle] at hread
    have hlonger : String.ofList b.branch = y ++ "-" ++ String.ofList b'.branch := by
      rw [← hread, ← String.toList_inj]
      simp [String.toList_append]
    refine ⟨hlonger, ?_, ?_⟩
    · rw [hvariant, hvariant', ← hread]
    · rw [bundleName_ofPath_eq_iff, hflavor, hflavor', hlonger]
      exact Flavor.ofBranch_append_hyphen_eq_iff
  · have hread := hb.ofMiddle_middle
    have hy : y.toList ++ '-' :: b'.middle =
        before.toList ++ ['_', '_'] ++ (after.toList ++ '-' :: b'.middle) := by
      rw [hafter]
      simp [String.toList_append]
    rw [Text.eq_of_append_hyphen_eq hcut heq, hy] at hread
    rw [← hread, BranchName.branch_ofMiddle (by simpa [String.toList_append] using hfirst),
      String.ofList_toList]
  · rw [bundleName_ofPath_eq_iff, hflavor, hflavor']

/-- The end of a repository's name is the start of a branch, and a configuration for `master` has
the name of one for another branch. -/
theorem bundle_not_determined_by_name :
    IsBelow "ci-operator/config" "ci-operator/config/o/r/o-r-x-master.yaml"
        ["o", "r", "o-r-x-master.yaml"] ∧
      IsBelow "ci-operator/config" "ci-operator/config/o/r-x/o-r-x-master.yaml"
        ["o", "r-x", "o-r-x-master.yaml"] ∧
      (ofPath .ciOperator "ci-operator/config" "ci-operator/config/o/r/o-r-x-master.yaml").branch =
        some "x-master" ∧
      (ofPath .ciOperator "ci-operator/config"
        "ci-operator/config/o/r-x/o-r-x-master.yaml").branch = some "master" ∧
      (ofPath .ciOperator "ci-operator/config"
        "ci-operator/config/o/r/o-r-x-master.yaml").bundleName = "ci-operator-misc-configs" ∧
      (ofPath .ciOperator "ci-operator/config"
        "ci-operator/config/o/r-x/o-r-x-master.yaml").bundleName =
          "ci-operator-master-configs" := by
  decide +kernel

/-- Two configurations with one name belong to one config map if none of their branches has a flavor
of its own. -/
theorem bundle_of_shared_name_sample :
    IsBelow "ci-operator/config" "ci-operator/config/o/r/o-r-x-y.yaml"
        ["o", "r", "o-r-x-y.yaml"] ∧
      IsBelow "ci-operator/config" "ci-operator/config/o/r-x/o-r-x-y.yaml"
        ["o", "r-x", "o-r-x-y.yaml"] ∧
      (ofPath .ciOperator "ci-operator/config" "ci-operator/config/o/r/o-r-x-y.yaml").branch =
        some "x-y" ∧
      (ofPath .ciOperator "ci-operator/config" "ci-operator/config/o/r-x/o-r-x-y.yaml").branch =
        some "y" ∧
      (ofPath .ciOperator "ci-operator/config" "ci-operator/config/o/r/o-r-x-y.yaml").bundleName =
        (ofPath .ciOperator "ci-operator/config"
          "ci-operator/config/o/r-x/o-r-x-y.yaml").bundleName := by
  have h : IsBelow "ci-operator/config" "ci-operator/config/o/r/o-r-x-y.yaml"
      ["o", "r", "o-r-x-y.yaml"] := by decide +kernel
  have h' : IsBelow "ci-operator/config" "ci-operator/config/o/r-x/o-r-x-y.yaml"
      ["o", "r-x", "o-r-x-y.yaml"] := by decide +kernel
  have hbranch : (ofPath .ciOperator "ci-operator/config"
      "ci-operator/config/o/r/o-r-x-y.yaml").branch = some "x-y" := by decide +kernel
  have hbranch' : (ofPath .ciOperator "ci-operator/config"
      "ci-operator/config/o/r-x/o-r-x-y.yaml").branch = some "y" := by decide +kernel
  obtain ⟨-, -, hlonger, -⟩ := bundle_of_shared_name h h' hbranch hbranch'
  obtain ⟨-, -, hbundle⟩ := (hlonger "x" (by decide)).1 (by decide)
  exact ⟨h, h', hbranch, hbranch', hbundle.2 ⟨by decide +kernel, by decide +kernel⟩⟩

end FileInfo

end ShardCheck
