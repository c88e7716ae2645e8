import Mathlib.Algebra.Order.BigOperators.Group.List
import Mathlib.Algebra.Order.Ring.Nat
import Mathlib.Tactic.Common
import ShardCheck.Proofs.Malformed

/-!
# One rule more

A new rule goes in between the others, and the rules that match a file stay the same but for the new
one, which joins them where it matches. So nothing that a match gave rise to goes away: a new rule
can cover a file, and is of no other help.
-/

namespace ShardCheck

/-! ### Failures by kind and file -/

namespace Failure

/-- The failure says that a file matches the rule for another config map. -/
def isUnexpectedBundle : Failure → Bool
  | .unexpectedBundle _ _ _ _ => true
  | _ => false

def isUncovered : Failure → Bool
  | .uncovered _ => true
  | _ => false

lemma isUncovered_of_isUnexpected {f : Failure} (h : f.isUnexpectedBundle = true) :
    f.isUncovered = false := by
  unfold isUnexpectedBundle at h
  split at h
  · rfl
  · cases h

lemma isUncovered_of_isAmbiguous {f : Failure} (h : f.isAmbiguousMatch = true) :
    f.isUncovered = false := by
  unfold isAmbiguousMatch at h
  split at h
  · rfl
  · cases h

end Failure

/-- The number of failures of a kind that are about a file. -/
def Outcome.countOf (o : Outcome) (kind : Failure → Bool) (path : String) : Nat :=
  o.failures.countP fun f => kind f && f.sourceFile? == some path

namespace Partition

variable {rules : RuleSet} {matches? : Matcher} {records : List PathRecord}

/-! ### One file -/

lemma matching_append (rules rules' : List (String × Bundle)) (matches? : Matcher) (path : String) :
    matching (rules ++ rules') matches? path =
      matching rules matches? path ++ matching rules' matches? path :=
  List.filter_append ..

/-- The rules that match a file after an insertion are those before, and the new one if it
matches. -/
lemma matching_insert (matches? : Matcher) {glob : String} (hnew : glob ∉ rules.keys) (b : Bundle)
    (path : String) :
    ∃ before after, matching rules.entries matches? path = before ++ after ∧
      matching (rules.insert glob b).entries matches? path =
        if matches? glob path = .ok true then before ++ (glob, b) :: after
        else before ++ after := by
  obtain ⟨before, after, hentries, hinsert⟩ := KeyMap.exists_entries_insert_eq hnew b
  refine ⟨matching before matches? path, matching after matches? path, ?_, ?_⟩
  · rw [hentries, matching_append]
  · rw [hinsert, matching_append]
    split <;> simp [matching, *]

section File

variable (r : PathRecord) (found : List (String × Bundle))

/-- Every match but the first is one too many. -/
lemma countP_isAmbiguousMatch :
    (fileFailures r found).countP Failure.isAmbiguousMatch = found.length - 1 := by
  rw [List.countP_eq_length_filter, filter_fileFailures]
  cases found with
  | nil => rfl
  | cons rule later => simp

lemma countP_bundleFailures (rule : String × Bundle) :
    (bundleFailures r rule).countP Failure.isUnexpectedBundle =
      if rule.2.name = r.bundle then 0 else 1 := by
  rw [bundleFailures]
  split <;> rfl

/-- Every match for another config map is unexpected. -/
lemma countP_isUnexpectedBundle :
    (fileFailures r found).countP Failure.isUnexpectedBundle =
      found.countP fun rule => rule.2.name ≠ r.bundle := by
  have hlater : ∀ first later, (laterFailures r first later).countP Failure.isUnexpectedBundle =
      later.countP fun rule => rule.2.name ≠ r.bundle := by
    intro first later
    induction later with
    | nil => rfl
    | cons rule later ih =>
      rw [laterFailures] at ih ⊢
      rw [List.flatMap_cons, List.countP_append, ih,
        List.countP_cons_of_neg (by simp [Failure.isUnexpectedBundle]), countP_bundleFailures]
      by_cases h : rule.2.name = r.bundle <;> simp [h, Nat.add_comm]
  cases found with
  | nil => rfl
  | cons rule later =>
    rw [fileFailures, List.countP_append, hlater, countP_bundleFailures]
    by_cases h : rule.2.name = r.bundle <;> simp [h, Nat.add_comm]

/-- A file is uncovered if no rule matches it, and that is all that is then wrong with it. -/
lemma filter_isUncovered :
    (fileFailures r found).filter Failure.isUncovered =
      if found = [] then [.uncovered r.path] else [] := by
  cases found with
  | nil => rfl
  | cons rule later =>
    rw [if_neg (List.cons_ne_nil _ _), List.filter_eq_nil_iff]
    intro f hf
    obtain ⟨hnil, -⟩ | ⟨rule', -, rfl | ⟨first, rfl⟩⟩ := of_mem_fileFailures hf
    · cases hnil
    · exact Bool.false_ne_true
    · exact Bool.false_ne_true

end File

/-! ### All files -/

/-- The failures that are about a file are those of the records with its path. -/
lemma countOf_check (records : List PathRecord) (rules : RuleSet) (matches? : Matcher)
    (kind : Failure → Bool) (path : String) :
    (check records rules matches?).countOf kind path =
      ((records.filter (·.path = path)).map fun r =>
        (fileFailures r (matching rules.entries matches? r.path)).countP kind).sum := by
  have hrules : (rules.entries.flatMap (ruleFailures matches?)).countP
      (fun f => kind f && f.sourceFile? == some path) = 0 := by
    refine List.countP_eq_zero.2 fun f hf => ?_
    obtain ⟨rule, -, hf⟩ := List.mem_flatMap.1 hf
    simp [(about_of_mem_ruleFailures hf).1]
  rw [Outcome.countOf, failures_check_eq, List.countP_append, hrules, Nat.zero_add]
  induction records with
  | nil => rfl
  | cons r records ih =>
    rw [List.flatMap_cons, List.countP_append, ih]
    have hsource : ∀ f ∈ fileFailures r (matching rules.entries matches? r.path),
        f.sourceFile? = some r.path := fun f hf => sourceFile?_of_mem_fileFailures hf
    by_cases hpath : r.path = path
    · rw [List.filter_cons_of_pos (by simpa using hpath), List.map_cons, List.sum_cons]
      congr 1
      refine List.countP_congr fun f hf => ?_
      simp [hsource f hf, hpath]
    · rw [List.filter_cons_of_neg (by simpa using hpath)]
      rw [List.countP_eq_zero.2 fun f hf => by simp [hsource f hf, hpath], Nat.zero_add]

lemma filter_isUncovered_check (records : List PathRecord) (rules : RuleSet) (matches? : Matcher) :
    (check records rules matches?).failures.filter Failure.isUncovered =
      (records.filter fun r => matching rules.entries matches? r.path = []).map
        fun r => .uncovered r.path := by
  have hrules :
      (rules.entries.flatMap (ruleFailures matches?)).filter Failure.isUncovered = [] := by
    refine List.filter_eq_nil_iff.2 fun f hf => ?_
    obtain ⟨rule, -, hf⟩ := List.mem_flatMap.1 hf
    have hnone := (about_of_mem_ruleFailures hf).1
    cases f <;> simp_all [Failure.isUncovered, Failure.sourceFile?]
  rw [failures_check_eq, List.filter_append, hrules, List.nil_append, List.filter_flatMap]
  simp only [filter_isUncovered]
  induction records with
  | nil => rfl
  | cons r records ih =>
    rw [List.flatMap_cons, ih]
    by_cases h : matching rules.entries matches? r.path = [] <;> simp [h]

/-! ### One rule more -/

section Insert

variable {glob : String} (hnew : glob ∉ rules.keys) (b : Bundle)

include hnew

/-- No match of a file goes away. -/
lemma sublist_matching_insert (path : String) :
    (matching rules.entries matches? path).Sublist
      (matching (rules.insert glob b).entries matches? path) := by
  obtain ⟨before, after, hmatching, hinsert⟩ := matching_insert matches? hnew b path
  rw [hmatching, hinsert]
  split
  · exact List.Sublist.append_left (List.sublist_cons_self _ _) before
  · exact List.Sublist.refl _

lemma matching_insert_eq_nil_iff (path : String) :
    matching (rules.insert glob b).entries matches? path = [] ↔
      matching rules.entries matches? path = [] ∧ matches? glob path ≠ .ok true := by
  obtain ⟨before, after, hmatching, hinsert⟩ := matching_insert matches? hnew b path
  rw [hmatching, hinsert]
  split <;> simp [*]

lemma countOf_check_le {kind : Failure → Bool}
    (hkind : ∀ r found found', List.Sublist found found' →
      (fileFailures r found).countP kind ≤ (fileFailures r found').countP kind) (path : String) :
    (check records rules matches?).countOf kind path ≤
      (check records (rules.insert glob b) matches?).countOf kind path := by
  rw [countOf_check, countOf_check]
  exact List.sum_le_sum fun r _ => hkind r _ _ (sublist_matching_insert hnew b r.path)

/-- The number of ambiguous matches of a file does not decrease. -/
lemma countOf_isAmbiguousMatch_le (path : String) :
    (check records rules matches?).countOf Failure.isAmbiguousMatch path ≤
      (check records (rules.insert glob b) matches?).countOf Failure.isAmbiguousMatch path := by
  refine countOf_check_le hnew b (fun r found found' hsub => ?_) path
  rw [countP_isAmbiguousMatch, countP_isAmbiguousMatch]
  exact Nat.sub_le_sub_right hsub.length_le 1

/-- The number of unexpected matches of a file does not decrease. -/
lemma countOf_isUnexpectedBundle_le (path : String) :
    (check records rules matches?).countOf Failure.isUnexpectedBundle path ≤
      (check records (rules.insert glob b) matches?).countOf Failure.isUnexpectedBundle path := by
  refine countOf_check_le hnew b (fun r found found' hsub => ?_) path
  rw [countP_isUnexpectedBundle, countP_isUnexpectedBundle]
  exact hsub.countP_le

/-- The new rule covers the files that it matches. -/
lemma filter_isUncovered_check_insert (records : List PathRecord) (matches? : Matcher) :
    (check records (rules.insert glob b) matches?).failures.filter Failure.isUncovered =
      ((check records rules matches?).failures.filter Failure.isUncovered).filter fun f =>
        f.sourceFile?.all (matches? glob · ≠ .ok true) := by
  rw [filter_isUncovered_check, filter_isUncovered_check, List.filter_map, List.filter_filter]
  congr 1
  refine List.filter_congr fun r _ => ?_
  simp [matching_insert_eq_nil_iff hnew, Failure.sourceFile?, Bool.and_comm]

/-- The failures of the other rules stay. -/
lemma filter_checkRules_insert :
    (checkRules (rules.insert glob b) matches?).failures.filter (·.glob? ≠ some glob) =
      (checkRules rules matches?).failures := by
  have hother : ∀ rule ∈ rules.entries, ∀ f ∈ ruleFailures matches? rule, f.glob? ≠ some glob := by
    intro rule hrule f hf hglob
    rw [(about_of_mem_ruleFailures hf).2] at hglob
    exact hnew (KeyMap.mem_keys_iff.2 ⟨rule.2, Option.some.inj hglob ▸ hrule⟩)
  have hself : (ruleFailures matches? (glob, b)).filter (·.glob? ≠ some glob) = [] := by
    refine List.filter_eq_nil_iff.2 fun f hf => ?_
    simp [(about_of_mem_ruleFailures hf).2]
  have hkeep : ∀ es : List (String × Bundle), (∀ rule ∈ es, rule ∈ rules.entries) →
      (es.flatMap (ruleFailures matches?)).filter (·.glob? ≠ some glob) =
        es.flatMap (ruleFailures matches?) := by
    intro es hes
    refine List.filter_eq_self.2 fun f hf => ?_
    obtain ⟨rule, hrule, hf⟩ := List.mem_flatMap.1 hf
    simpa using hother rule (hes rule hrule) f hf
  obtain ⟨before, after, hentries, hinsert⟩ := KeyMap.exists_entries_insert_eq hnew b
  rw [checkRules_eq, checkRules_eq]
  simp only [hentries, hinsert, List.flatMap_append, List.flatMap_cons, List.filter_append, hself,
    List.nil_append]
  rw [hkeep before fun rule h => by simp [hentries, h],
    hkeep after fun rule h => by simp [hentries, h]]

/-- A file that fails for another reason than not being covered still does. -/
lemma exists_failure_insert {f : Failure} (hf : f ∈ (check records rules matches?).failures)
    {path : String} (hpath : f.sourceFile? = some path) (hcovered : f.isUncovered = false) :
    ∃ f' ∈ (check records (rules.insert glob b) matches?).failures,
      f'.sourceFile? = some path ∧ f'.isUncovered = false := by
  -- a kind whose number has not decreased and was not zero is there still
  have hstill : ∀ kind : Failure → Bool, kind f = true →
      (∀ f', kind f' = true → f'.isUncovered = false) →
      (check records rules matches?).countOf kind path ≤
        (check records (rules.insert glob b) matches?).countOf kind path →
      ∃ f' ∈ (check records (rules.insert glob b) matches?).failures,
        f'.sourceFile? = some path ∧ f'.isUncovered = false := by
    intro kind hkind hnot hle
    have hpos : 0 < (check records rules matches?).countOf kind path :=
      List.countP_pos_iff.2 ⟨f, hf, by simp [hkind, hpath]⟩
    obtain ⟨f', hf', h⟩ := List.countP_pos_iff.1 (Nat.lt_of_lt_of_le hpos hle)
    rw [Bool.and_eq_true, beq_iff_eq] at h
    exact ⟨f', hf', h.2, hnot f' h.1⟩
  rw [failures_check_eq] at hf
  rcases List.mem_append.1 hf with hrule | hfile
  · obtain ⟨rule, -, hrule⟩ := List.mem_flatMap.1 hrule
    rw [(about_of_mem_ruleFailures hrule).1] at hpath
    cases hpath
  · obtain ⟨r, -, hfile⟩ := List.mem_flatMap.1 hfile
    obtain ⟨-, rfl⟩ | ⟨rule, -, rfl | ⟨first, rfl⟩⟩ := of_mem_fileFailures hfile
    · cases hcovered
    · exact hstill Failure.isUnexpectedBundle rfl (fun _ h => Failure.isUncovered_of_isUnexpected h)
        (countOf_isUnexpectedBundle_le hnew b path)
    · exact hstill Failure.isAmbiguousMatch rfl (fun _ h => Failure.isUncovered_of_isAmbiguous h)
        (countOf_isAmbiguousMatch_le hnew b path)

/-- What a clean check with the new rule leaves to it. -/
lemma eq_uncovered_of_clean_insert
    (hclean : (check records (rules.insert glob b) matches?).failures = []) {f : Failure}
    (hf : f ∈ (check records rules matches?).failures) :
    ∃ r ∈ records, f = .uncovered r.path ∧ matches? glob r.path = .ok true := by
  have hrules : (checkRules rules matches?).failures = [] := by
    rw [check, Outcome.failures_append, List.append_eq_nil_iff] at hclean
    rw [← filter_checkRules_insert hnew b, hclean.1, List.filter_nil]
  have huncovered := filter_isUncovered_check_insert hnew b records matches?
  rw [hclean, List.filter_nil] at huncovered
  have hmem := hf
  rw [check, Outcome.failures_append, hrules, List.nil_append, checkPaths_eq] at hf
  obtain ⟨r, hr, hfile⟩ := List.mem_flatMap.1 hf
  have hpath := sourceFile?_of_mem_fileFailures hfile
  cases hcovered : f.isUncovered with
  | false =>
    obtain ⟨f', hf', -⟩ := exists_failure_insert hnew b hmem hpath hcovered
    rw [hclean] at hf'
    cases hf'
  | true =>
    have hgone := List.filter_eq_nil_iff.1 huncovered.symm f (List.mem_filter.2 ⟨hmem, hcovered⟩)
    rw [hpath] at hgone
    refine ⟨r, hr, ?_, by simpa using hgone⟩
    cases f <;> simp_all [Failure.isUncovered, Failure.sourceFile?]

end Insert

/-- A new rule takes no failure away but those of the files that it covers. For every file the
numbers of ambiguous and of unexpected matches do not decrease, the files that are still uncovered
are those among the uncovered ones that the new pattern does not match, and the failures of the
other rules stay. So whatever a clean check with the new rule would report without it is a file that
the new pattern matches, and a file that fails for another reason than not being covered still
fails. -/
theorem new_rule_only_covers (records : List PathRecord) (rules : RuleSet) (matches? : Matcher)
    (glob : String) (b : Bundle) (hnew : glob ∉ rules.keys) :
    (∀ path,
      (check records rules matches?).countOf Failure.isAmbiguousMatch path ≤
          (check records (rules.insert glob b) matches?).countOf Failure.isAmbiguousMatch path ∧
        (check records rules matches?).countOf Failure.isUnexpectedBundle path ≤
          (check records (rules.insert glob b) matches?).countOf Failure.isUnexpectedBundle path) ∧
    (check records (rules.insert glob b) matches?).failures.filter Failure.isUncovered =
      ((check records rules matches?).failures.filter Failure.isUncovered).filter
        (fun f => f.sourceFile?.all (matches? glob · ≠ .ok true)) ∧
    (checkRules (rules.insert glob b) matches?).failures.filter (·.glob? ≠ some glob) =
      (checkRules rules matches?).failures ∧
    ((check records (rules.insert glob b) matches?).isClean = true →
      ∀ f ∈ (check records rules matches?).failures,
        ∃ r ∈ records, f = .uncovered r.path ∧ matches? glob r.path = .ok true) ∧
    ∀ path, (∃ f ∈ (check records rules matches?).failures,
        f.sourceFile? = some path ∧ f.isUncovered = false) →
      ∃ f ∈ (check records (rules.insert glob b) matches?).failures,
        f.sourceFile? = some path ∧ f.isUncovered = false := by
  refine ⟨fun path => ⟨?_, ?_⟩, ?_, ?_, fun hclean f hf => ?_, ?_⟩
  · exact countOf_isAmbiguousMatch_le hnew b path
  · exact countOf_isUnexpectedBundle_le hnew b path
  · exact filter_isUncovered_check_insert hnew b records matches?
  · exact filter_checkRules_insert hnew b
  · exact eq_uncovered_of_clean_insert hnew b (List.isEmpty_iff.1 hclean) hf
  · rintro path ⟨f, hf, hpath, hcovered⟩
    exact exists_failure_insert hnew b hf hpath hcovered

def oneRule : RuleSet := .ofList [("b/*", ⟨"x", ∅, none⟩)]

/-- A rule for `*/1` covers `c/1`. The file `b/1` is in the wrong config map by the rule for `b/*`,
and stays there although the new rule comes first. -/
theorem new_rule_only_covers_sample :
    "*/1" ∉ oneRule.keys ∧
      (check [⟨"c/1", "y"⟩] (oneRule.insert "*/1" ⟨"y", ∅, none⟩) Glob.matcher).isClean = true ∧
      (∀ f ∈ (check [⟨"c/1", "y"⟩] oneRule Glob.matcher).failures,
        ∃ r ∈ [(⟨"c/1", "y"⟩ : PathRecord)],
          f = .uncovered r.path ∧ Glob.matcher "*/1" r.path = .ok true) ∧
      .unexpectedBundle "b/1" "b/*" "x" "z" ∈
        (check [⟨"b/1", "z"⟩] oneRule Glob.matcher).failures ∧
      ∃ f ∈ (check [⟨"b/1", "z"⟩] (oneRule.insert "*/1" ⟨"y", ∅, none⟩) Glob.matcher).failures,
        f.sourceFile? = some "b/1" ∧ f.isUncovered = false := by
  have hnew : "*/1" ∉ oneRule.keys := by decide +kernel
  have hclean : (check [⟨"c/1", "y"⟩] (oneRule.insert "*/1" ⟨"y", ∅, none⟩)
      Glob.matcher).isClean = true := by decide +kernel
  have hwrong : .unexpectedBundle "b/1" "b/*" "x" "z" ∈
      (check [⟨"b/1", "z"⟩] oneRule Glob.matcher).failures := by decide +kernel
  obtain ⟨-, -, -, hcovers, -⟩ :=
    new_rule_only_covers [⟨"c/1", "y"⟩] oneRule Glob.matcher "*/1" ⟨"y", ∅, none⟩ hnew
  obtain ⟨-, -, -, -, hstill⟩ :=
    new_rule_only_covers [⟨"b/1", "z"⟩] oneRule Glob.matcher "*/1" ⟨"y", ∅, none⟩ hnew
  exact ⟨hnew, hclean, hcovers hclean, hwrong, hstill "b/1" ⟨_, hwrong, rfl, rfl⟩⟩

end Partition

end ShardCheck
