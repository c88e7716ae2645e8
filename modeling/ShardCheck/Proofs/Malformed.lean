import Mathlib.Tactic.Common
import ShardCheck.Proofs.Glob.Limits
import ShardCheck.Proofs.Verdict

/-!
# Malformed patterns

A pattern that cannot be tried is only a warning where a file is checked, and a failure where its
rule is checked. When it is the pattern alone that is wrong, and not the pair of it and a path, the
two go together: a run with a warning fails. Apart from its failure and its warnings a malformed
pattern leaves no trace, and the files are reported as if its rule were not there.
-/

namespace ShardCheck

/-! ### Errors of patterns -/

/-- A pattern that cannot be tried on one path cannot be tried on any, for the same reason. -/
def Matcher.ErrsByPattern (matches? : Matcher) : Prop :=
  ∀ glob path path' e, matches? glob path = .error e → matches? glob path' = .error e

def MatcherSource.ErrsByPattern (source : MatcherSource) : Prop :=
  ∀ globs matches?, source globs = .ok matches? → Matcher.ErrsByPattern matches?

/-- A glob is compiled before it is tried on a path. -/
lemma Glob.errsByPattern_matcher : Matcher.ErrsByPattern matcher := by
  intro glob path path' e h
  cases hc : compile glob with
  | error fault =>
    rw [matcher_eq_error hc] at h ⊢
    exact h
  | ok r =>
    rw [matcher, isMatch, hc] at h
    cases h

lemma Glob.errsByPattern_matcherFor : MatcherSource.ErrsByPattern matcherFor := by
  intro globs matches? h
  unfold matcherFor at h
  split at h
  · cases h
  · cases h
    exact errsByPattern_matcher

/-- A pattern can be tried on the job tree. -/
def Matcher.isUsable (matches? : Matcher) (glob : String) : Bool :=
  (matches? glob Layout.jobTreePath).isOk

/-- The rules without those whose pattern is malformed. -/
def RuleSet.usable (rules : RuleSet) (matches? : Matcher) : RuleSet :=
  rules.filterKeys matches?.isUsable

/-! ### Failures by what they are about -/

namespace Failure

/-- The failure says that the pattern could not be tried on the job tree. -/
def isProbeOf (glob : String) : Failure → Bool
  | .jobConfigProbeFailed g _ => g == glob
  | _ => false

/-- The failure is one of a file, and not one of a rule or of a reference. -/
def isOfFile : Failure → Bool
  | .ambiguousMatch _ _ _ _ | .unexpectedBundle _ _ _ _ | .uncovered _ => true
  | _ => false

end Failure

namespace Partition

variable {rules : RuleSet} {matches? : Matcher} {records : List PathRecord}

lemma isOfFile_of_mem_fileFailures {r : PathRecord} {found : List (String × Bundle)} {f : Failure}
    (h : f ∈ fileFailures r found) : f.isOfFile = true := by
  obtain ⟨-, rfl⟩ | ⟨rule, -, rfl | ⟨first, rfl⟩⟩ := of_mem_fileFailures h
  all_goals rfl

lemma isOfFile_of_mem_ruleFailures {rule : String × Bundle} {f : Failure}
    (h : f ∈ ruleFailures matches? rule) : f.isOfFile = false := by
  obtain rfl | rfl | ⟨reason, rfl⟩ := of_mem_ruleFailures h
  all_goals rfl

/-- The failures of the files are those that the check finds for the files. -/
lemma filter_isOfFile_check (records : List PathRecord) (rules : RuleSet) (matches? : Matcher) :
    (check records rules matches?).failures.filter Failure.isOfFile =
      records.flatMap fun r => fileFailures r (matching rules.entries matches? r.path) := by
  rw [failures_check_eq, List.filter_append]
  have hrules : (rules.entries.flatMap (ruleFailures matches?)).filter Failure.isOfFile = [] := by
    refine List.filter_eq_nil_iff.2 fun f hf => ?_
    obtain ⟨rule, -, hf⟩ := List.mem_flatMap.1 hf
    simp [isOfFile_of_mem_ruleFailures hf]
  have hfiles : ∀ f ∈ records.flatMap fun r =>
      fileFailures r (matching rules.entries matches? r.path), f.isOfFile = true := by
    intro f hf
    obtain ⟨r, -, hf⟩ := List.mem_flatMap.1 hf
    exact isOfFile_of_mem_fileFailures hf
  rw [hrules, List.nil_append, List.filter_eq_self.2 hfiles]

/-! ### What a malformed pattern leaves behind -/

/-- Of the failures of a rule only a probe that failed is one of a probe, and it is one of its own
pattern. -/
lemma filter_isProbeOf_ruleFailures (glob : String) (rule : String × Bundle) :
    (ruleFailures matches? rule).filter (Failure.isProbeOf glob) =
      match matches? rule.1 Layout.jobTreePath with
      | .error e => if rule.1 = glob then [.jobConfigProbeFailed rule.1 e.message] else []
      | .ok _ => [] := by
  have halias : (if "default" ∈ rule.2.clusters.keys then
      [Failure.defaultClusterAlias rule.1 rule.2.name] else []).filter (Failure.isProbeOf glob) =
        [] := by
    split <;> rfl
  rw [ruleFailures, List.filter_append, halias, List.nil_append]
  cases matches? rule.1 Layout.jobTreePath with
  | error e => by_cases h : rule.1 = glob <;> simp [Failure.isProbeOf, h]
  | ok matched =>
    cases matched with
    | false => rfl
    | true => by_cases hgzip : rule.2.gzip = some true <;> simp [hgzip, Failure.isProbeOf]

lemma filter_isProbeOf_fileFailures (glob : String) (r : PathRecord)
    (found : List (String × Bundle)) :
    (fileFailures r found).filter (Failure.isProbeOf glob) = [] := by
  refine List.filter_eq_nil_iff.2 fun f hf => ?_
  have hfile := isOfFile_of_mem_fileFailures hf
  cases f <;> simp_all [Failure.isOfFile, Failure.isProbeOf]

lemma mem_warningsFor_iff {rules : List (String × Bundle)} {path : String} {w : Warning} :
    w ∈ warningsFor rules matches? path ↔
      ∃ rule ∈ rules, ∃ e, matches? rule.1 path = .error e ∧ w = ⟨path, rule.1, e.message⟩ := by
  simp only [warningsFor, List.mem_filterMap]
  refine exists_congr fun rule => and_congr_right fun _ => ?_
  cases matches? rule.1 path <;> simp [eq_comm]

/-- All warnings are of patterns that could not be tried on the file. -/
lemma mem_warnings_check_iff {w : Warning} :
    w ∈ (check records rules matches?).warnings ↔
      ∃ r ∈ records, ∃ rule ∈ rules.entries, ∃ e, matches? rule.1 r.path = .error e ∧
        w = ⟨r.path, rule.1, e.message⟩ := by
  rw [check, Outcome.warnings_append, checkRules_eq, checkPaths_eq, List.nil_append,
    List.mem_flatMap]
  simp only [mem_warningsFor_iff]

section Malformed

variable (huniform : Matcher.ErrsByPattern matches?)

include huniform

/-- Rules with a malformed pattern match no file, so no file misses them. -/
lemma matching_usable (path : String) :
    matching (rules.usable matches?).entries matches? path =
      matching rules.entries matches? path := by
  rw [RuleSet.usable, KeyMap.filterKeys, matching, List.filter_filter]
  refine List.filter_congr fun rule _ => ?_
  unfold Matcher.isUsable
  cases hprobe : matches? rule.1 Layout.jobTreePath with
  | ok matched => simp [Except.isOk, Except.toBool]
  | error e => simp [huniform _ _ path e hprobe]

variable {rule : String × Bundle} (hrule : rule ∈ rules.entries) {path : String} {e : GlobError}
  (herror : matches? rule.1 path = .error e)

include hrule herror

/-- A malformed pattern is reported once with its rule. -/
lemma filter_isProbeOf_check :
    (check records rules matches?).failures.filter (Failure.isProbeOf rule.1) =
      [.jobConfigProbeFailed rule.1 e.message] := by
  have hfiles : (records.flatMap fun r =>
      fileFailures r (matching rules.entries matches? r.path)).filter
        (Failure.isProbeOf rule.1) = [] := by
    rw [List.filter_flatMap]
    exact List.flatMap_eq_nil_iff.2 fun r _ => filter_isProbeOf_fileFailures _ r _
  rw [failures_check_eq, List.filter_append, hfiles, List.append_nil, List.filter_flatMap,
    KeyMap.flatMap_of_key hrule]
  · rw [filter_isProbeOf_ruleFailures, huniform _ _ Layout.jobTreePath e herror]
    exact if_pos rfl
  · intro rule' _ hne
    rw [filter_isProbeOf_ruleFailures]
    split
    · exact if_neg hne
    · rfl

/-- A malformed pattern is a warning for every file. -/
lemma filter_warnings_check :
    (check records rules matches?).warnings.filter (·.glob == rule.1) =
      records.map fun r => ⟨r.path, rule.1, e.message⟩ := by
  have hfile : ∀ r : PathRecord,
      (warningsFor rules.entries matches? r.path).filter (·.glob == rule.1) =
        [⟨r.path, rule.1, e.message⟩] := by
    intro r
    rw [warningsFor, List.filterMap_eq_flatMap_toList, List.filter_flatMap,
      KeyMap.flatMap_of_key hrule]
    · simp [huniform _ _ r.path e herror]
    · intro rule' _ hne
      cases matches? rule'.1 r.path <;> simp [hne]
  rw [check, Outcome.warnings_append, checkRules_eq, checkPaths_eq, List.nil_append,
    List.filter_flatMap]
  simp only [hfile]
  exact List.map_eq_flatMap.symm

end Malformed

/-- A pattern that could not be tried on a file could not be tried on the job tree either. -/
lemma failures_check_ne_nil_of_warnings (huniform : Matcher.ErrsByPattern matches?)
    (hwarnings : (check records rules matches?).warnings ≠ []) :
    (check records rules matches?).failures ≠ [] := by
  obtain ⟨w, hw⟩ := List.exists_mem_of_ne_nil _ hwarnings
  obtain ⟨r, -, rule, hrule, e, he, -⟩ := mem_warnings_check_iff.1 hw
  exact List.ne_nil_of_mem (mem_failures_of_probe hrule (huniform _ _ _ e he))

end Partition

/-! ### Runs -/

namespace Repository

lemma warnings_check (repo : Repository) (matches? : Matcher) :
    (repo.check matches?).warnings =
      (Partition.check repo.records repo.rules matches?).warnings := by
  rw [check, Outcome.warnings_append]
  exact List.append_nil _

/-- A repository in which something could not be tried does not pass the check. -/
lemma failures_check_ne_nil_of_warnings {repo : Repository} {matches? : Matcher}
    (huniform : Matcher.ErrsByPattern matches?) (hwarnings : (repo.check matches?).warnings ≠ []) :
    (repo.check matches?).failures ≠ [] := by
  rw [warnings_check] at hwarnings
  rw [check, Outcome.failures_append]
  exact List.append_ne_nil_of_left_ne_nil
    (Partition.failures_check_ne_nil_of_warnings huniform hwarnings) _

/-- A validation that gives a warning gives a failure. -/
lemma failures_ne_nil_of_warnings {source : MatcherSource}
    (huniform : MatcherSource.ErrsByPattern source) {fs : FileSystem} {root : String}
    {outcome : Outcome} (h : (validateRepo fs source root).value = .ok outcome)
    (hwarnings : outcome.warnings ≠ []) : outcome.failures ≠ [] := by
  obtain ⟨repo, -, matches?, hsource, rfl⟩ := value_validateRepo_eq_ok_iff.1 h
  exact failures_check_ne_nil_of_warnings (huniform _ _ hsource) hwarnings

/-- A run that ends well logs at its end that there were no warnings. -/
lemma getLast?_events_validate {source : MatcherSource}
    (huniform : MatcherSource.ErrsByPattern source) {fs : FileSystem} {root : String}
    (h : (validate fs source root).value = .ok ()) :
    (validate fs source root).events.getLast? =
      some ⟨.info, "All configurations belong to the correct auto-updating config.",
        [("warnings", .number 0)]⟩ := by
  obtain ⟨outcome, hvalue, hclean⟩ := value_validate_eq_ok_iff_failures.1 h
  have hwarnings : outcome.warnings = [] := by
    by_contra hne
    exact failures_ne_nil_of_warnings huniform hvalue hne hclean
  rw [validate_eq, Run.events_bind_of_ok (isAdding_validateRepo fs source root)
    Outcome.isAdding_conclude hvalue, Outcome.events_conclude,
    Outcome.events_verdict_of_failures_eq_nil hclean, hwarnings, ← List.append_assoc]
  exact List.getLast?_concat

/-- After a run that ended well every pattern of the rules can be tried on every path. -/
lemma exists_matched_of_validate {source : MatcherSource}
    (huniform : MatcherSource.ErrsByPattern source) {fs : FileSystem} {root : String}
    (h : (validate fs source root).value = .ok ()) {rules : RuleSet}
    (hrules : fs.loadRules (Layout.pluginConfig root) = .ok rules) {matches? : Matcher}
    (hsource : source rules.keys = .ok matches?) {glob : String} (hglob : glob ∈ rules.keys)
    (path : String) : ∃ matched, matches? glob path = .ok matched := by
  obtain ⟨outcome, hvalue, hclean⟩ := value_validate_eq_ok_iff_failures.1 h
  obtain ⟨repo, hread, m, hm, rfl⟩ := value_validateRepo_eq_ok_iff.1 hvalue
  cases hrules.symm.trans (value_read_eq_ok_iff.1 hread).1
  cases hsource.symm.trans hm
  obtain ⟨b, hrule⟩ := KeyMap.mem_keys_iff.1 hglob
  obtain ⟨matched, hprobe, -⟩ := (failures_check_eq_nil_iff.1 hclean).compressed _ hrule
  cases hpath : matches? glob path with
  | ok matched => exact ⟨matched, rfl⟩
  | error e =>
    rw [huniform _ _ hsource _ _ "ci-operator/jobs" e hpath] at hprobe
    cases hprobe

end Repository

/-- When errors depend on the pattern alone, as those of globs do, a malformed pattern is reported
once with its rule and is a warning for every file, for the same reason, and the files are reported
as if its rule were not there. So an outcome with a warning has a failure; a run ends well only if
no pattern is malformed, and then it logs that there were no warnings. -/
theorem failure_of_warning :
    MatcherSource.ErrsByPattern Glob.matcherFor ∧
    ∀ source : MatcherSource, MatcherSource.ErrsByPattern source →
      (∀ globs matches?, source globs = .ok matches? →
        ∀ (records : List PathRecord) (rules : RuleSet),
          (∀ rule ∈ rules.entries, ∀ path e, matches? rule.1 path = .error e →
            (Partition.check records rules matches?).failures.filter
                (Failure.isProbeOf rule.1) = [.jobConfigProbeFailed rule.1 e.message] ∧
              (Partition.check records rules matches?).warnings.filter (·.glob == rule.1) =
                records.map fun r => ⟨r.path, rule.1, e.message⟩) ∧
          (∀ w ∈ (Partition.check records rules matches?).warnings,
            w.glob ∈ rules.keys ∧ ∃ e, matches? w.glob w.sourceFile = .error e) ∧
          (Partition.check records rules matches?).failures.filter Failure.isOfFile =
            (Partition.check records (rules.usable matches?) matches?).failures.filter
              Failure.isOfFile) ∧
      ∀ (fs : FileSystem) (root : String),
        (∀ outcome, (validateRepo fs source root).value = .ok outcome →
          outcome.warnings ≠ [] → outcome.failures ≠ []) ∧
        ((validate fs source root).value = .ok () →
          (∀ rules matches?, fs.loadRules (Layout.pluginConfig root) = .ok rules →
            source rules.keys = .ok matches? → ∀ glob ∈ rules.keys, ∀ path, ∃ matched,
              matches? glob path = .ok matched) ∧
          (validate fs source root).events.getLast? =
            some ⟨.info, "All configurations belong to the correct auto-updating config.",
              [("warnings", .number 0)]⟩) := by
  refine ⟨Glob.errsByPattern_matcherFor, fun source huniform => ⟨?_, fun fs root => ⟨?_, ?_⟩⟩⟩
  · intro globs matches? hsource records rules
    have hmatcher := huniform globs matches? hsource
    refine ⟨fun rule hrule path e herror => ⟨?_, ?_⟩, fun w hw => ?_, ?_⟩
    · exact Partition.filter_isProbeOf_check hmatcher hrule herror
    · exact Partition.filter_warnings_check hmatcher hrule herror
    · obtain ⟨r, -, rule, hrule, e, he, rfl⟩ := Partition.mem_warnings_check_iff.1 hw
      exact ⟨KeyMap.mem_keys_iff.2 ⟨rule.2, hrule⟩, e, he⟩
    · rw [Partition.filter_isOfFile_check, Partition.filter_isOfFile_check]
      simp only [Partition.matching_usable hmatcher]
  · intro outcome hvalue hwarnings
    exact Repository.failures_ne_nil_of_warnings huniform hvalue hwarnings
  · intro hvalid
    refine ⟨fun rules matches? hrules hsource glob hglob path => ?_, ?_⟩
    · exact Repository.exists_matched_of_validate huniform hvalid hrules hsource hglob path
    · exact Repository.getLast?_events_validate huniform hvalid

/-- The open class of `[a` is a failure of its rule and a warning for the one file, and the small
repository is validated without warnings. -/
theorem failure_of_warning_sample :
    Glob.matcher "[a" "b" = .error ⟨"[a", "failed to parse glob expression"⟩ ∧
      (Partition.check [⟨"b", "x"⟩] (.ofList [("[a", ⟨"x", ∅, none⟩)]) Glob.matcher).warnings.filter
          (·.glob == "[a") =
        [⟨"b", "[a", "invalid glob '[a': failed to parse glob expression"⟩] ∧
      (validate Repository.sampleFiles Glob.matcherFor "/").value = .ok () ∧
      (validate Repository.sampleFiles Glob.matcherFor "/").events.getLast? =
        some ⟨.info, "All configurations belong to the correct auto-updating config.",
          [("warnings", .number 0)]⟩ := by
  obtain ⟨huniform, hall⟩ := failure_of_warning
  obtain ⟨hpartition, hrun⟩ := hall Glob.matcherFor huniform
  have herror : Glob.matcher "[a" "b" = .error ⟨"[a", "failed to parse glob expression"⟩ := by
    decide +kernel
  have hvalid : (validate Repository.sampleFiles Glob.matcherFor "/").value = .ok () :=
    Repository.value_validate_eq_ok_iff_failures.2
      ⟨_, Repository.value_validateRepo_eq_ok_iff.2
        ⟨_, Repository.read_sample, Glob.matcher, if_neg (by decide +kernel), rfl⟩,
        Repository.failures_check_eq_nil_iff.2 Repository.isConsistent_sample⟩
  refine ⟨herror, ?_, hvalid, (hrun Repository.sampleFiles "/").2 hvalid |>.2⟩
  have hsource : Glob.matcherFor ["[a"] = .ok Glob.matcher := if_neg (by decide +kernel)
  obtain ⟨hmalformed, -, -⟩ := hpartition ["[a"] Glob.matcher hsource
    [⟨"b", "x"⟩] (.ofList [("[a", ⟨"x", ∅, none⟩)])
  exact (hmalformed _ (List.mem_singleton_self _) "b" _ herror).2

end ShardCheck
