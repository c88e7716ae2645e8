import Mathlib.Tactic.Common
import ShardCheck.Naming
import ShardCheck.Proofs.Text.Affix

/-!
# Flavors of branches

Four forms of branches have a flavor of their own, and any other branch has the flavor that is left.
The name of a flavor tells it from the others, so two files belong to one config map exactly if they
are of one kind and have one flavor.
-/

namespace ShardCheck

/-! ### Versions -/

/-- One digit or more, from `0` to `9`. -/
def IsNumeral (s : String) : Prop := s ≠ "" ∧ ∀ c ∈ s.toList, '0' ≤ c ∧ c ≤ '9'

lemma isNumber_iff {s : List Char} :
    isNumber s = true ↔ s ≠ [] ∧ ∀ c ∈ s, '0' ≤ c ∧ c ≤ '9' := by
  simp only [isNumber, Char.isDigit, Bool.and_eq_true, Bool.not_eq_true', List.isEmpty_eq_false_iff,
    List.all_eq_true, decide_eq_true_eq]
  rfl

lemma isNumber_toList_iff {s : String} : isNumber s.toList = true ↔ IsNumeral s := by
  rw [isNumber_iff, IsNumeral, ne_eq, ne_eq, String.toList_eq_nil_iff]

/-- A version is two numbers with a point between them. -/
lemma splitVersion?_eq_some_iff {s major minor : List Char} :
    splitVersion? s = some (major, minor) ↔
      s = major ++ '.' :: minor ∧ isNumber major = true ∧ isNumber minor = true := by
  have hsplit : splitVersion? s = some (major, minor) ↔
      Text.splitFirst? ['.'] s = some (major, minor) ∧
        isNumber major = true ∧ isNumber minor = true := by
    unfold splitVersion?
    cases Text.splitFirst? ['.'] s with
    | none => simp
    | some parts =>
      simp only [Option.bind_eq_bind, Option.bind_some, Bool.and_eq_true, Option.some.injEq]
      constructor
      · intro h
        split at h
        · cases h
          exact ⟨rfl, ‹_›⟩
        · cases h
      · rintro ⟨rfl, h⟩
        exact if_pos h
  rw [hsplit, Text.splitFirst?_eq_some_iff (List.cons_ne_nil _ _), List.append_assoc, and_assoc]
  refine and_congr_right fun _ => and_iff_right_of_imp fun h => ?_
  -- no digit is a point
  rw [List.dropLast_singleton, List.append_nil, List.singleton_infix_iff]
  intro hpoint
  exact absurd ((isNumber_iff.1 h.1).2 _ hpoint) (by decide)

/-- The branch is for a version: behind a mark it has the major number, a point, and the minor
number. -/
def IsVersionBranch (branch major minor : String) : Prop :=
  IsNumeral minor ∧
    ∃ mark ∈ ["release-", "enterprise-", "openshift-"], branch = mark ++ major ++ "." ++ minor

/-- A branch for a version, character by character. -/
lemma isVersionBranch_iff {branch major minor : String} :
    IsVersionBranch branch major minor ↔ isNumber minor.toList = true ∧
      ∃ mark ∈ versionMarks, branch.toList = mark ++ (major.toList ++ '.' :: minor.toList) := by
  rw [IsVersionBranch, isNumber_toList_iff]
  refine and_congr_right fun _ => ?_
  constructor
  · rintro ⟨mark, hmark, rfl⟩
    exact ⟨mark.toList, List.mem_map_of_mem hmark, by simp [String.toList_append]⟩
  · rintro ⟨_, hmark, h⟩
    obtain ⟨mark, hmem, rfl⟩ := List.mem_map.1 hmark
    exact ⟨mark, hmem, String.toList_inj.1 (by simpa [String.toList_append] using h)⟩

namespace Flavor

lemma findSome?_versionMarks_eq_some_iff {branch version : List Char} :
    versionMarks.findSome? (Text.dropStart? · branch) = some version ↔
      ∃ mark ∈ versionMarks, branch = mark ++ version :=
  Text.findSome?_dropStart?_eq_some_iff (by decide)

/-- A branch with a mark has the flavor of the version behind it. -/
lemma ofBranch_append {mark : List Char} (hmark : mark ∈ versionMarks) (version : List Char) :
    ofBranch (mark ++ version) = ofVersion version := by
  have hne : ∀ name ∈ ["master".toList, "main".toList], mark ++ version ≠ name := by
    intro name hname heq
    have hnot : ∀ mark ∈ versionMarks, ∀ name ∈ ["master".toList, "main".toList],
        ¬ mark <+: name := by decide
    exact hnot mark hmark name hname ⟨version, heq⟩
  rw [ofBranch, if_neg (by simpa using hne _ (by simp)), if_neg (by simpa using hne _ (by simp)),
    findSome?_versionMarks_eq_some_iff.2 ⟨mark, hmark, rfl⟩]
  rfl

lemma ofVersion_of_split {s major minor : List Char} (h : splitVersion? s = some (major, minor)) :
    ofVersion s = if major = ['3'] then .three else if major = ['4'] then .four s else .misc := by
  simp [ofVersion, h]

/-- The branch has a flavor of its own. -/
inductive IsOf : Flavor → String → Prop where
  | master : IsOf .master "master"
  | main : IsOf .main "main"
  | three {branch minor : String} (h : IsVersionBranch branch "3" minor) : IsOf .three branch
  | four {branch minor : String} (h : IsVersionBranch branch "4" minor) :
      IsOf (.four ("4." ++ minor).toList) branch

lemma ofBranch_of_isVersionBranch {branch major minor : String}
    (hmajor : isNumber major.toList = true) (h : IsVersionBranch branch major minor) :
    ofBranch branch.toList =
      if major = "3" then .three
      else if major = "4" then .four (major ++ "." ++ minor).toList
      else .misc := by
  obtain ⟨hminor, mark, hmark, hbranch⟩ := isVersionBranch_iff.1 h
  have hsplit : splitVersion? (major.toList ++ '.' :: minor.toList) =
      some (major.toList, minor.toList) :=
    splitVersion?_eq_some_iff.2 ⟨rfl, hmajor, hminor⟩
  rw [hbranch, ofBranch_append hmark, ofVersion_of_split hsplit]
  simp [← String.toList_inj, String.toList_append]

lemma IsOf.ofBranch_eq {f : Flavor} {branch : String} (h : f.IsOf branch) :
    ofBranch branch.toList = f := by
  cases h with
  | master => decide
  | main => decide
  | three h => rw [ofBranch_of_isVersionBranch rfl h, if_pos rfl]
  | four h =>
    rw [ofBranch_of_isVersionBranch rfl h, if_neg (by decide), if_pos rfl]
    rfl

/-- A version behind a mark gives the branch a flavor of its own, or the one that is left. -/
lemma isOf_ofVersion_or {branch : String} {mark version : List Char} (hmark : mark ∈ versionMarks)
    (hbranch : branch.toList = mark ++ version) :
    (ofVersion version).IsOf branch ∨ ofVersion version = .misc := by
  cases hsplit : splitVersion? version with
  | none => exact .inr (by rw [ofVersion, hsplit])
  | some parts =>
    obtain ⟨major, minor⟩ := parts
    obtain ⟨rfl, -, hminor⟩ := splitVersion?_eq_some_iff.1 hsplit
    have hversion : ∀ m : String, m.toList = major →
        IsVersionBranch branch m (String.ofList minor) := by
      rintro m rfl
      exact isVersionBranch_iff.2 ⟨by simpa using hminor, mark, hmark, by simpa using hbranch⟩
    rw [ofVersion_of_split hsplit]
    split
    · rename_i hthree
      exact .inl (.three (hversion "3" hthree.symm))
    · split
      · rename_i hfour
        have h : IsOf _ branch := .four (hversion "4" hfour.symm)
        simp only [String.toList_append, String.toList_ofList] at h
        rw [hfour]
        exact .inl h
      · exact .inr rfl

/-- A branch without a flavor of its own has the one that is left. -/
lemma isOf_ofBranch_or (branch : String) :
    (ofBranch branch.toList).IsOf branch ∨ ofBranch branch.toList = .misc := by
  by_cases hmaster : branch = "master"
  · exact .inl (hmaster ▸ IsOf.master.ofBranch_eq.symm ▸ .master)
  by_cases hmain : branch = "main"
  · exact .inl (hmain ▸ IsOf.main.ofBranch_eq.symm ▸ .main)
  cases hfind : versionMarks.findSome? (Text.dropStart? · branch.toList) with
  | none =>
    have hnot : branch.toList ≠ "master".toList := mt String.toList_inj.1 hmaster
    have hnot' : branch.toList ≠ "main".toList := mt String.toList_inj.1 hmain
    rw [ofBranch, hfind, if_neg (by simpa using hnot), if_neg (by simpa using hnot')]
    exact .inr rfl
  | some version =>
    obtain ⟨mark, hmark, hbranch⟩ := findSome?_versionMarks_eq_some_iff.1 hfind
    rw [hbranch, ofBranch_append hmark]
    exact isOf_ofVersion_or hmark hbranch

/-! ### Names -/

/-- A flavor that a file can have. -/
inductive IsProper : Flavor → Prop where
  | master : IsProper .master
  | main : IsProper .main
  | three : IsProper .three
  | four {minor : String} (h : IsNumeral minor) : IsProper (.four ("4." ++ minor).toList)
  | misc : IsProper .misc

lemma isProper_ofBranch (branch : String) : (ofBranch branch.toList).IsProper := by
  rcases isOf_ofBranch_or branch with h | h
  · generalize ofBranch branch.toList = f at h
    cases h with
    | master => exact .master
    | main => exact .main
    | three _ => exact .three
    | four h => exact .four h.1
  · exact h ▸ .misc

/-- The name of a flavor tells it from the others. -/
lemma IsProper.eq_of_text_eq {f g : Flavor} (hf : f.IsProper) (hg : g.IsProper)
    (h : f.text = g.text) : f = g := by
  rw [← String.toList_inj] at h
  cases hf <;> cases hg <;> simp_all [text, String.toList_append]

lemma IsProper.eq_four {f : Flavor} (hf : f.IsProper) {minor : String}
    (h : f.text = "4." ++ minor) : f = .four ("4." ++ minor).toList := by
  rw [← String.toList_inj] at h
  cases hf <;> simp_all [text, String.toList_append]

lemma ofBranch_eq_iff {f : Flavor} (hf : f ≠ .misc) {branch : String} :
    ofBranch branch.toList = f ↔ f.IsOf branch := by
  refine ⟨fun h => ?_, IsOf.ofBranch_eq⟩
  rcases isOf_ofBranch_or branch with hown | hmisc
  · rwa [h] at hown
  · exact absurd (h.symm.trans hmisc) hf

lemma isOf_four_iff {branch minor : String} :
    IsOf (.four ("4." ++ minor).toList) branch ↔ IsVersionBranch branch "4" minor := by
  refine ⟨fun h => ?_, .four⟩
  generalize hf : four ("4." ++ minor).toList = f at h
  cases h with
  | master | main | three _ => cases hf
  | @four _ minor' h =>
    have hminor : minor.toList = minor'.toList := by
      simpa [String.toList_append] using four.inj hf
    rwa [String.toList_inj.1 hminor]

section Branch

variable (branch : String)

lemma text_ofBranch_eq_iff {f : Flavor} (hf : f.IsProper) :
    (ofBranch branch.toList).text = f.text ↔ ofBranch branch.toList = f :=
  ⟨(isProper_ofBranch branch).eq_of_text_eq hf, congrArg text⟩

lemma text_ofBranch_eq_iff_isOf {f : Flavor} (hf : f.IsProper) (hne : f ≠ .misc) :
    (ofBranch branch.toList).text = f.text ↔ f.IsOf branch :=
  (text_ofBranch_eq_iff branch hf).trans (ofBranch_eq_iff hne)

lemma text_ofBranch_eq_master_iff :
    (ofBranch branch.toList).text = "master" ↔ branch = "master" := by
  refine (text_ofBranch_eq_iff_isOf branch .master (by decide)).trans ?_
  constructor
  · rintro ⟨⟩
    rfl
  · rintro rfl
    exact .master

lemma text_ofBranch_eq_main_iff :
    (ofBranch branch.toList).text = "main" ↔ branch = "main" := by
  refine (text_ofBranch_eq_iff_isOf branch .main (by decide)).trans ?_
  constructor
  · rintro ⟨⟩
    rfl
  · rintro rfl
    exact .main

lemma text_ofBranch_eq_three_iff :
    (ofBranch branch.toList).text = "3.x" ↔ ∃ minor, IsVersionBranch branch "3" minor := by
  refine (text_ofBranch_eq_iff_isOf branch .three (by decide)).trans ?_
  constructor
  · rintro (_ | _ | h | _)
    exact ⟨_, h⟩
  · rintro ⟨minor, h⟩
    exact .three h

lemma text_ofBranch_eq_four_iff (minor : String) :
    (ofBranch branch.toList).text = "4." ++ minor ↔ IsVersionBranch branch "4" minor := by
  rw [← isOf_four_iff, ← ofBranch_eq_iff (by simp)]
  refine ⟨(isProper_ofBranch branch).eq_four, fun h => ?_⟩
  rw [h, text, String.ofList_toList]

lemma text_ofBranch_eq_misc_iff :
    (ofBranch branch.toList).text = "misc" ↔ branch ≠ "master" ∧ branch ≠ "main" ∧
      ∀ minor, ¬ IsVersionBranch branch "3" minor ∧ ¬ IsVersionBranch branch "4" minor := by
  refine (text_ofBranch_eq_iff branch .misc).trans ?_
  constructor
  · intro h
    have hnone : ∀ f : Flavor, f ≠ .misc → ¬ f.IsOf branch := fun f hf hown =>
      hf (hown.ofBranch_eq.symm.trans h)
    refine ⟨?_, ?_, fun minor => ⟨fun h => ?_, fun h => ?_⟩⟩
    · rintro rfl
      exact hnone .master (by decide) .master
    · rintro rfl
      exact hnone .main (by decide) .main
    · exact hnone .three (by decide) (.three h)
    · exact hnone _ (by simp) (.four h)
  · rintro ⟨hmaster, hmain, hversion⟩
    rcases isOf_ofBranch_or branch with h | h
    · generalize ofBranch branch.toList = f at h
      cases h with
      | master => exact absurd rfl hmaster
      | main => exact absurd rfl hmain
      | three h => exact absurd h (hversion _).1
      | four h => exact absurd h (hversion _).2
    · exact h

end Branch

end Flavor

/-! ### Config maps -/

/-- The text is the name of a flavor. -/
def IsFlavorName (name : String) : Prop :=
  name ∈ ["master", "main", "3.x", "misc"] ∨ ∃ minor, IsNumeral minor ∧ name = "4." ++ minor

lemma Flavor.IsProper.isFlavorName {f : Flavor} (hf : f.IsProper) : IsFlavorName f.text := by
  cases hf with
  | master => exact .inl (by decide)
  | main => exact .inl (by decide)
  | three => exact .inl (by decide)
  | @four minor h => exact .inr ⟨minor, h, String.ofList_toList⟩
  | misc => exact .inl (by decide)

/-- The name of a config map tells the tree and the name of the flavor. -/
lemma ConfigKind.bundleName_eq_iff {k k' : ConfigKind} {f f' : Flavor} :
    k.bundleName f = k'.bundleName f' ↔ k = k' ∧ f.text = f'.text := by
  have htext : f.text = f'.text ↔ f.text.toList = f'.text.toList := String.toList_inj.symm
  rw [← String.toList_inj, htext]
  cases k <;> cases k' <;> simp [bundleName, String.toList_append]

namespace FileInfo

lemma isProper_flavor (i : FileInfo) : i.flavor.IsProper := by
  rw [flavor]
  cases i.branch with
  | none => exact .misc
  | some branch => exact Flavor.isProper_ofBranch branch

lemma flavor_text_eq_iff {i j : FileInfo} : i.flavor.text = j.flavor.text ↔ i.flavor = j.flavor :=
  ⟨i.isProper_flavor.eq_of_text_eq j.isProper_flavor, congrArg Flavor.text⟩

lemma bundleName_eq (i : FileInfo) :
    i.kind = .ciOperator ∧ i.bundleName = "ci-operator-" ++ i.flavor.text ++ "-configs" ∨
      i.kind = .job ∧ i.bundleName = "job-config-" ++ i.flavor.text := by
  rw [bundleName]
  cases i.kind with
  | ciOperator => exact .inl ⟨rfl, rfl⟩
  | job => exact .inr ⟨rfl, rfl⟩

end FileInfo

/-- The name of the flavor of a branch says which form the branch has, and every branch of a form
has its name. Config maps have one name exactly if they are for one tree and one flavor, and those
of the two trees never have; the name of each is that of its tree with the name of a flavor put
in. -/
theorem flavor_and_bundle_exact :
    (∀ branch : String,
      ((Flavor.ofBranch branch.toList).text = "master" ↔ branch = "master") ∧
      ((Flavor.ofBranch branch.toList).text = "main" ↔ branch = "main") ∧
      ((Flavor.ofBranch branch.toList).text = "3.x" ↔
        ∃ minor, IsVersionBranch branch "3" minor) ∧
      (∀ minor, (Flavor.ofBranch branch.toList).text = "4." ++ minor ↔
        IsVersionBranch branch "4" minor) ∧
      ((Flavor.ofBranch branch.toList).text = "misc" ↔
        branch ≠ "master" ∧ branch ≠ "main" ∧
          ∀ minor, ¬ IsVersionBranch branch "3" minor ∧ ¬ IsVersionBranch branch "4" minor)) ∧
    (∀ i j : FileInfo,
      (i.bundleName = j.bundleName ↔ i.kind = j.kind ∧ i.flavor.text = j.flavor.text) ∧
      (i.flavor.text = j.flavor.text ↔ i.flavor = j.flavor) ∧
      ¬ (i.kind = .ciOperator ∧ j.kind = .job ∧ i.bundleName = j.bundleName)) ∧
    ∀ i : FileInfo, IsFlavorName i.flavor.text ∧
      (i.kind = .ciOperator ∧ i.bundleName = "ci-operator-" ++ i.flavor.text ++ "-configs" ∨
        i.kind = .job ∧ i.bundleName = "job-config-" ++ i.flavor.text) := by
  refine ⟨fun branch => ⟨?_, ?_, ?_, fun minor => ?_, ?_⟩, fun i j => ⟨?_, ?_, ?_⟩, fun i => ?_⟩
  · exact Flavor.text_ofBranch_eq_master_iff branch
  · exact Flavor.text_ofBranch_eq_main_iff branch
  · exact Flavor.text_ofBranch_eq_three_iff branch
  · exact Flavor.text_ofBranch_eq_four_iff branch minor
  · exact Flavor.text_ofBranch_eq_misc_iff branch
  · exact ConfigKind.bundleName_eq_iff
  · exact FileInfo.flavor_text_eq_iff
  · rintro ⟨hi, hj, heq⟩
    have hkind := (ConfigKind.bundleName_eq_iff.1 heq).1
    rw [hi, hj] at hkind
    cases hkind
  · exact ⟨i.isProper_flavor.isFlavorName, i.bundleName_eq⟩

end ShardCheck
