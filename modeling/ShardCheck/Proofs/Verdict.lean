import Mathlib.Tactic.Common
import ShardCheck.Glob
import ShardCheck.Proofs.Partition
import ShardCheck.Proofs.Repository

/-!
# The meaning of the verdict

A verdict on a repository is one bit. It is good exactly if every rule is in order, every file is
matched by the one rule that fills its config map, and every job takes its configuration from the
config map of that configuration. A bad verdict counts what is wrong.
-/

namespace ShardCheck

/-- What a good verdict on a repository stands for. -/
structure Repository.IsConsistent (repo : Repository) (matches? : Matcher) : Prop where
  /-- No rule goes to the default cluster. -/
  no_default : ∀ rule ∈ repo.rules.entries, "default" ∉ rule.2.clusters.keys
  /-- Every pattern can be tried on the job tree, and a rule that matches it compresses. -/
  compressed : ∀ rule ∈ repo.rules.entries, ∃ matched,
    matches? rule.1 "ci-operator/jobs" = .ok matched ∧ (matched = true → rule.2.gzip = some true)
  /-- A single pattern matches a file, and its rule fills the config map of the file. -/
  partition : ∀ r ∈ repo.configs.records ++ repo.jobs.records, ∃ rule ∈ repo.rules.entries,
    matches? rule.1 r.path = .ok true ∧ rule.2.name = r.bundle ∧
      ∀ glob ∈ repo.rules.keys, matches? glob r.path = .ok true → glob = rule.1
  /-- A job names a configuration that is there, and the config map that it is in. -/
  injections : ∀ x ∈ repo.jobs.injections, ∃ r,
    repo.configs.index.get? x.key = some r ∧ r.bundle = x.bundle

namespace Outcome

/-- The verdict on an outcome is good if nothing failed, and counts the failures if not. -/
lemma value_verdict (o : Outcome) :
    o.verdict.value =
      if o.failures = [] then .ok ()
      else .error (.error (.validationFailed o.failures.length)) := by
  unfold verdict isClean
  cases h : o.failures with
  | nil => exact (Run.isLogging_log _ _ _).2
  | cons f fs => rfl

lemma isAdding_verdict (o : Outcome) : Run.IsAdding o.verdict := by
  unfold verdict
  split
  · exact (Run.isLogging_log _ _ _).1
  · exact Run.isAdding_throw _

lemma isLogging_emit (o : Outcome) : Run.IsLogging o.emit := ⟨fun _ => rfl, rfl⟩

/-- What follows the check of a repository: the findings are logged, and the verdict ends
the run. -/
def conclude (o : Outcome) : Run Unit := o.emit >>= fun _ => o.verdict

lemma isAdding_conclude (o : Outcome) : Run.IsAdding o.conclude :=
  Run.isAdding_bind o.isLogging_emit.1 fun _ => o.isAdding_verdict

lemma value_conclude (o : Outcome) : o.conclude.value = o.verdict.value := by
  rw [conclude, Run.value_bind _ fun _ => o.isAdding_verdict, o.isLogging_emit.2]
  rfl

lemma events_conclude (o : Outcome) : o.conclude.events = o.events ++ o.verdict.events := by
  rw [conclude, Run.events_bind_of_ok o.isLogging_emit.1 (fun _ => o.isAdding_verdict)
    o.isLogging_emit.2]
  rfl

/-- A good verdict is logged with the number of warnings. -/
lemma events_verdict_of_failures_eq_nil {o : Outcome} (h : o.failures = []) :
    o.verdict.events =
      [⟨.info, "All configurations belong to the correct auto-updating config.",
        [("warnings", .number o.warnings.length)]⟩] := by
  rw [verdict, if_pos (by rw [isClean, h]; rfl)]
  rfl

/-- A bad verdict is no event but the error that ends the run. -/
lemma events_verdict_of_failures_ne_nil {o : Outcome} (h : o.failures ≠ []) :
    o.verdict.events = [] := by
  rw [verdict, if_neg (by rwa [isClean, List.isEmpty_iff])]
  rfl

end Outcome

lemma Injection.failures_check_eq_nil_iff {references : List InjectionReference}
    {index : ConfigIndex} :
    (check references index).failures = [] ↔
      ∀ x ∈ references, ∃ r, index.get? x.key = some r ∧ r.bundle = x.bundle := by
  rw [check, List.filterMap_eq_nil_iff]
  refine forall₂_congr fun x _ => ?_
  unfold checkReference
  cases index.get? x.key with
  | none => simp
  | some r =>
    simp only [ite_eq_left_iff, beq_iff_eq, reduceCtorEq, imp_false, not_not, Option.some.injEq,
      exists_eq_left']
    exact eq_comm

lemma Partition.failures_check_eq_nil_iff {records : List PathRecord} {rules : RuleSet}
    {matches? : Matcher} :
    (check records rules matches?).failures = [] ↔
      (∀ rule ∈ rules.entries, ruleFailures matches? rule = []) ∧
        ∀ r ∈ records, fileFailures r (matching rules.entries matches? r.path) = [] := by
  rw [failures_check_eq, List.append_eq_nil_iff, List.flatMap_eq_nil_iff, List.flatMap_eq_nil_iff]

namespace Repository

/-- Nothing fails in a repository exactly if it is consistent. -/
lemma failures_check_eq_nil_iff {repo : Repository} {matches? : Matcher} :
    (repo.check matches?).failures = [] ↔ repo.IsConsistent matches? := by
  rw [check, Outcome.failures_append, List.append_eq_nil_iff,
    Partition.failures_check_eq_nil_iff, Injection.failures_check_eq_nil_iff]
  constructor
  · rintro ⟨⟨hrules, hfiles⟩, hinjections⟩
    refine ⟨fun rule h => ?_, fun rule h => ?_, fun r h => ?_, hinjections⟩
    · exact (Partition.ruleFailures_eq_nil_iff.1 (hrules rule h)).1
    · exact (Partition.ruleFailures_eq_nil_iff.1 (hrules rule h)).2
    · obtain ⟨rule, hmatching, hname⟩ := Partition.fileFailures_eq_nil_iff.1 (hfiles r h)
      obtain ⟨hrule, hm, honly⟩ := Partition.matching_eq_singleton_iff.1 hmatching
      exact ⟨rule, hrule, hm, hname, honly⟩
  · rintro ⟨hdefault, hcompressed, hpartition, hinjections⟩
    refine ⟨⟨fun rule h => ?_, fun r h => ?_⟩, hinjections⟩
    · exact Partition.ruleFailures_eq_nil_iff.2 ⟨hdefault rule h, hcompressed rule h⟩
    · obtain ⟨rule, hrule, hm, hname, honly⟩ := hpartition r h
      exact Partition.fileFailures_eq_nil_iff.2
        ⟨rule, Partition.matching_eq_singleton_iff.2 ⟨hrule, hm, honly⟩, hname⟩

/-- A repository that was read gets an outcome. The verdict on it is good exactly if the repository
is consistent, and is otherwise an error with the number of failures, of which there is one at
least. -/
theorem verdict_iff_isConsistent (fs : FileSystem) (root : String) (matches? : Matcher)
    (repo : Repository) (hread : (read fs root).value = .ok repo) :
    ∃ outcome, (validateRepo fs matches?.source root).value = .ok outcome ∧
      (outcome.verdict.value = .ok () ↔ repo.IsConsistent matches?) ∧
      (¬ repo.IsConsistent matches? →
        outcome.verdict.value =
          .error (.error (.validationFailed outcome.failures.length)) ∧
        1 ≤ outcome.failures.length) := by
  refine ⟨repo.check matches?, ?_, ?_, fun hbad => ?_⟩
  · rw [value_validateRepo, hread]
    rfl
  · rw [Outcome.value_verdict, ← failures_check_eq_nil_iff]
    split <;> simp_all
  · have hne : (repo.check matches?).failures ≠ [] := mt failures_check_eq_nil_iff.1 hbad
    rw [Outcome.value_verdict, if_neg hne]
    exact ⟨rfl, List.length_pos_iff.2 hne⟩

lemma isConsistent_sample : sample.IsConsistent Glob.matcher :=
  failures_check_eq_nil_iff.1 (by decide +kernel)

lemma not_isConsistent_alias :
    ¬ IsConsistent ⟨aliasRules, sample.configs, sample.jobs⟩ Glob.matcher :=
  mt failures_check_eq_nil_iff.2 (by decide +kernel)

/-- The verdict on the small repository is good. It is bad once a rule goes to the default
cluster. -/
theorem verdict_sample :
    (read sampleFiles "/").value = .ok sample ∧
      (∃ outcome, (validateRepo sampleFiles Glob.matcher.source "/").value = .ok outcome ∧
        outcome.verdict.value = .ok ()) ∧
      (∃ rule ∈ aliasRules.entries, "default" ∈ rule.2.clusters.keys) ∧
      (read aliasFiles "/").value = .ok ⟨aliasRules, sample.configs, sample.jobs⟩ ∧
      ∃ outcome, (validateRepo aliasFiles Glob.matcher.source "/").value = .ok outcome ∧
        outcome.verdict.value =
          .error (.error (.validationFailed outcome.failures.length)) ∧
        1 ≤ outcome.failures.length := by
  obtain ⟨outcome, hvalidate, hverdict, -⟩ :=
    verdict_iff_isConsistent sampleFiles "/" Glob.matcher sample read_sample
  obtain ⟨outcome', hvalidate', -, hbad⟩ :=
    verdict_iff_isConsistent aliasFiles "/" Glob.matcher _ read_aliasFiles
  exact ⟨read_sample, ⟨outcome, hvalidate, hverdict.2 isConsistent_sample⟩, by decide,
    read_aliasFiles, outcome', hvalidate', hbad not_isConsistent_alias⟩

lemma validate_eq (fs : FileSystem) (source : MatcherSource) (root : String) :
    validate fs source root = validateRepo fs source root >>= Outcome.conclude := rfl

/-- A run ends well exactly if the check gives an outcome without failures. -/
lemma value_validate_eq_ok_iff_failures {fs : FileSystem} {source : MatcherSource} {root : String} :
    (validate fs source root).value = .ok () ↔
      ∃ outcome, (validateRepo fs source root).value = .ok outcome ∧ outcome.failures = [] := by
  rw [validate_eq, Run.value_bind _ Outcome.isAdding_conclude, Fallible.bind_eq_ok_iff]
  refine exists_congr fun outcome => and_congr_right fun _ => ?_
  rw [Outcome.value_conclude, Outcome.value_verdict]
  split <;> simp_all

/-- A validation succeeds exactly if a repository was read and is consistent. -/
lemma value_validate_eq_ok_iff {fs : FileSystem} {root : String} {matches? : Matcher} :
    (validate fs matches?.source root).value = .ok () ↔
      ∃ repo, (read fs root).value = .ok repo ∧ repo.IsConsistent matches? := by
  rw [value_validate_eq_ok_iff_failures]
  simp only [value_validateRepo_eq_ok_iff, ← failures_check_eq_nil_iff]
  constructor
  · rintro ⟨outcome, ⟨repo, hread, m, hm, rfl⟩, hnil⟩
    cases hm
    exact ⟨repo, hread, hnil⟩
  · rintro ⟨repo, hread, hnil⟩
    exact ⟨repo.check matches?, ⟨repo, hread, matches?, rfl, rfl⟩, hnil⟩

end Repository

end ShardCheck
