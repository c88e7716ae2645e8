import Mathlib.Tactic.Common
import ShardCheck.Partition
import ShardCheck.Proofs.KeyMap

/-!
# The report of the partition check

What the check of the partition finds is told here without its loops: first what is wrong with each
rule by itself, then for each file what follows from the list of the rules that match it. The loop
over the rules keeps only the name of the first match, which is all that the report needs of the
rules before.
-/

namespace ShardCheck

/-! ### Outcomes -/

namespace Outcome

lemma append_mk (o : Outcome) (fs : List Failure) (ws : List Warning) :
    o ++ ⟨fs, ws⟩ = ⟨o.failures ++ fs, o.warnings ++ ws⟩ := rfl

@[simp] lemma failures_ofFailure (f : Failure) : (ofFailure f).failures = [f] := rfl

@[simp] lemma warnings_ofFailure (f : Failure) : (ofFailure f).warnings = [] := rfl

lemma ext_iff' {a b : Outcome} : a = b ↔ a.failures = b.failures ∧ a.warnings = b.warnings := by
  cases a
  cases b
  simp

/-- A loop whose every round adds failures and warnings of its own adds them in order. -/
lemma foldl_append {ι : Type} {step : Outcome → ι → Outcome} {f : ι → List Failure}
    {w : ι → List Warning} (h : ∀ o i, step o i = o ++ ⟨f i, w i⟩) (o : Outcome) (is : List ι) :
    is.foldl step o = o ++ ⟨is.flatMap f, is.flatMap w⟩ := by
  induction is generalizing o with
  | nil => simp [append_mk]
  | cons i is ih =>
    rw [List.foldl_cons, ih, h]
    simp [append_mk]

end Outcome

namespace Bundle

lemma hasAlias_iff {b : Bundle} {name : String} :
    b.hasAlias name = true ↔ name ∈ b.clusters.keys :=
  KeyMap.contains_iff

lemma gzipEnabled_iff {b : Bundle} : b.gzipEnabled = true ↔ b.gzip = some true := by
  cases h : b.gzip <;> simp [gzipEnabled, h]

end Bundle

namespace Failure

/-- The failure says that a file matches a rule too many. -/
def isAmbiguousMatch : Failure → Bool
  | .ambiguousMatch _ _ _ _ => true
  | _ => false

/-- The file that a failure is about, if it is about one. -/
def sourceFile? : Failure → Option String
  | .ambiguousMatch sourceFile _ _ _ | .unexpectedBundle sourceFile _ _ _
  | .uncovered sourceFile => some sourceFile
  | .unknownConfigKey location _ | .wrongInjectedBundle location _ _ _ => some location.sourceFile
  | .defaultClusterAlias _ _ | .jobConfigGzipDisabled _ _ | .jobConfigProbeFailed _ _ => none

def glob? : Failure → Option String
  | .defaultClusterAlias glob _ | .jobConfigGzipDisabled glob _ | .jobConfigProbeFailed glob _
  | .ambiguousMatch _ glob _ _ | .unexpectedBundle _ glob _ _ => some glob
  | .uncovered _ | .unknownConfigKey _ _ | .wrongInjectedBundle _ _ _ _ => none

end Failure

namespace Partition

/-! ### The report -/

/-- What is wrong with a rule by itself: the alias that no rule may use, and a probe of the job tree
that fails, or succeeds for a rule that does not compress. -/
def ruleFailures (matches? : Matcher) : String × Bundle → List Failure
  | (glob, b) =>
    (if "default" ∈ b.clusters.keys then [.defaultClusterAlias glob b.name] else []) ++
      match matches? glob Layout.jobTreePath with
      | .error e => [.jobConfigProbeFailed glob e.message]
      | .ok true => if b.gzip = some true then [] else [.jobConfigGzipDisabled glob b.name]
      | .ok false => []

def matching (rules : List (String × Bundle)) (matches? : Matcher) (path : String) :
    List (String × Bundle) :=
  rules.filter fun rule => matches? rule.1 path = .ok true

/-- A rule that matches a file has to fill the config map of the file. -/
def bundleFailures (r : PathRecord) : String × Bundle → List Failure
  | (glob, b) => if b.name = r.bundle then [] else [.unexpectedBundle r.path glob b.name r.bundle]

/-- What is wrong with a file that a rule for `first` matches and then these rules. -/
def laterFailures (r : PathRecord) (first : String) (later : List (String × Bundle)) :
    List Failure :=
  later.flatMap fun rule =>
    .ambiguousMatch r.path rule.1 first rule.2.name :: bundleFailures r rule

/-- What is wrong with a file that exactly these rules match. -/
def fileFailures (r : PathRecord) : List (String × Bundle) → List Failure
  | [] => [.uncovered r.path]
  | rule :: later => bundleFailures r rule ++ laterFailures r rule.2.name later

/-- The warnings of the patterns that could not be tried on a path. -/
def warningsFor (rules : List (String × Bundle)) (matches? : Matcher) (path : String) :
    List Warning :=
  rules.filterMap fun rule =>
    match matches? rule.1 path with
    | .ok _ => none
    | .error e => some ⟨path, rule.1, e.message⟩

/-- What a rule can have wrong with it. -/
lemma of_mem_ruleFailures {matches? : Matcher} {rule : String × Bundle} {f : Failure}
    (h : f ∈ ruleFailures matches? rule) :
    f = .defaultClusterAlias rule.1 rule.2.name ∨ f = .jobConfigGzipDisabled rule.1 rule.2.name ∨
      ∃ reason, f = .jobConfigProbeFailed rule.1 reason := by
  rcases List.mem_append.1 h with hf | hf
  · split at hf
    · exact .inl (List.mem_singleton.1 hf)
    · cases hf
  · split at hf
    · exact .inr (.inr ⟨_, List.mem_singleton.1 hf⟩)
    · split at hf
      · cases hf
      · exact .inr (.inl (List.mem_singleton.1 hf))
    · cases hf

lemma of_mem_bundleFailures {r : PathRecord} {rule : String × Bundle} {f : Failure}
    (h : f ∈ bundleFailures r rule) :
    f = .unexpectedBundle r.path rule.1 rule.2.name r.bundle := by
  simp only [bundleFailures] at h
  split at h
  · cases h
  · exact List.mem_singleton.1 h

/-- What a file can have wrong with it. -/
lemma of_mem_fileFailures {r : PathRecord} {found : List (String × Bundle)} {f : Failure}
    (h : f ∈ fileFailures r found) :
    (found = [] ∧ f = .uncovered r.path) ∨ ∃ rule ∈ found,
      f = .unexpectedBundle r.path rule.1 rule.2.name r.bundle ∨
        ∃ first, f = .ambiguousMatch r.path rule.1 first rule.2.name := by
  cases found with
  | nil => exact .inl ⟨rfl, List.mem_singleton.1 h⟩
  | cons rule later =>
    rcases List.mem_append.1 h with hf | hf
    · exact .inr ⟨rule, List.mem_cons_self, .inl (of_mem_bundleFailures hf)⟩
    · obtain ⟨rule', hrule', hf⟩ := List.mem_flatMap.1 hf
      refine .inr ⟨rule', List.mem_cons_of_mem _ hrule', ?_⟩
      rcases List.mem_cons.1 hf with rfl | hf
      · exact .inr ⟨_, rfl⟩
      · exact .inl (of_mem_bundleFailures hf)

lemma about_of_mem_ruleFailures {matches? : Matcher} {rule : String × Bundle} {f : Failure}
    (h : f ∈ ruleFailures matches? rule) : f.sourceFile? = none ∧ f.glob? = some rule.1 := by
  obtain rfl | rfl | ⟨reason, rfl⟩ := of_mem_ruleFailures h
  all_goals exact ⟨rfl, rfl⟩

lemma sourceFile?_of_mem_fileFailures {r : PathRecord} {found : List (String × Bundle)}
    {f : Failure} (h : f ∈ fileFailures r found) : f.sourceFile? = some r.path := by
  obtain ⟨-, rfl⟩ | ⟨rule, -, rfl | ⟨first, rfl⟩⟩ := of_mem_fileFailures h
  all_goals rfl

/-! ### The loop over the rules -/

lemma checkRule_eq (matches? : Matcher) (found : Outcome) (rule : String × Bundle) :
    checkRule matches? found rule = found ++ ⟨ruleFailures matches? rule, []⟩ := by
  obtain ⟨glob, b⟩ := rule
  rw [Outcome.append_mk, Outcome.ext_iff']
  have halias : b.hasAlias Bundle.defaultAlias = true ↔ "default" ∈ b.clusters.keys :=
    Bundle.hasAlias_iff
  by_cases ha : "default" ∈ b.clusters.keys
  all_goals cases h : matches? glob Layout.jobTreePath with
    | error e => simp [checkRule, ruleFailures, halias, ha, h]
    | ok matched =>
      cases matched with
      | false => simp [checkRule, ruleFailures, halias, ha, h]
      | true =>
        by_cases hz : b.gzip = some true
        all_goals simp [checkRule, ruleFailures, halias, ha, h, Bundle.gzipEnabled_iff, hz]

lemma checkRules_eq (rules : RuleSet) (matches? : Matcher) :
    checkRules rules matches? = ⟨rules.entries.flatMap (ruleFailures matches?), []⟩ := by
  rw [checkRules, Outcome.foldl_append (checkRule_eq matches?)]
  simp [Outcome.append_mk]

/-! ### The loop over the rules for one file -/

section Trial

variable (matches? : Matcher) (r : PathRecord)

lemma next_error {t : Trial} {rule : String × Bundle} {e : GlobError}
    (h : matches? rule.1 r.path = .error e) :
    t.next matches? r rule = ⟨t.first, t.found ++ ⟨[], [⟨r.path, rule.1, e.message⟩]⟩⟩ := by
  simp [Trial.next, h, Outcome.ofWarning]

lemma next_false {t : Trial} {rule : String × Bundle} (h : matches? rule.1 r.path = .ok false) :
    t.next matches? r rule = t := by
  simp [Trial.next, h]

/-- The first match only has to fill the right config map, and its name is kept. -/
lemma next_first {found : Outcome} {rule : String × Bundle}
    (h : matches? rule.1 r.path = .ok true) :
    Trial.next matches? r ⟨none, found⟩ rule =
      ⟨some rule.2.name, found ++ ⟨bundleFailures r rule, []⟩⟩ := by
  by_cases hb : rule.2.name = r.bundle <;>
    simp [Trial.next, h, hb, bundleFailures, Outcome.ofFailure, Outcome.append_mk]

/-- A match after the first one is ambiguous, and the name of the first one stays. -/
lemma next_later {first : String} {found : Outcome} {rule : String × Bundle}
    (h : matches? rule.1 r.path = .ok true) :
    Trial.next matches? r ⟨some first, found⟩ rule =
      ⟨some first, found ++
        ⟨.ambiguousMatch r.path rule.1 first rule.2.name :: bundleFailures r rule, []⟩⟩ := by
  by_cases hb : rule.2.name = r.bundle <;>
    simp [Trial.next, h, hb, bundleFailures, Outcome.ofFailure, Outcome.append_mk]

/-- The rest of the loop after a first match. -/
lemma foldl_next_later (first : String) (found : Outcome) (rules : List (String × Bundle)) :
    rules.foldl (Trial.next matches? r) ⟨some first, found⟩ =
      ⟨some first, found ++ ⟨laterFailures r first (matching rules matches? r.path),
        warningsFor rules matches? r.path⟩⟩ := by
  induction rules generalizing found with
  | nil => simp [laterFailures, matching, warningsFor, Outcome.append_mk]
  | cons rule rules ih =>
    rw [List.foldl_cons]
    cases h : matches? rule.1 r.path with
    | error e =>
      rw [next_error matches? r h, ih]
      simp [laterFailures, matching, warningsFor, h, Outcome.append_mk]
    | ok matched =>
      cases matched with
      | false =>
        rw [next_false matches? r h, ih]
        simp [laterFailures, matching, warningsFor, h]
      | true =>
        rw [next_later matches? r h, ih]
        simp [laterFailures, matching, warningsFor, h, Outcome.append_mk]

/-- The loop up to the first match, and on from there. -/
lemma foldl_next (found : Outcome) (rules : List (String × Bundle)) :
    rules.foldl (Trial.next matches? r) ⟨none, found⟩ =
      match matching rules matches? r.path with
      | [] => ⟨none, found ++ ⟨[], warningsFor rules matches? r.path⟩⟩
      | rule :: later =>
        ⟨some rule.2.name, found ++ ⟨bundleFailures r rule ++ laterFailures r rule.2.name later,
          warningsFor rules matches? r.path⟩⟩ := by
  induction rules generalizing found with
  | nil => simp [matching, warningsFor, Outcome.append_mk]
  | cons rule rules ih =>
    rw [List.foldl_cons]
    cases h : matches? rule.1 r.path with
    | error e =>
      have hm : matching (rule :: rules) matches? r.path = matching rules matches? r.path := by
        simp [matching, h]
      rw [next_error matches? r h, ih, hm]
      split <;> simp [warningsFor, h, Outcome.append_mk]
    | ok matched =>
      cases matched with
      | false =>
        rw [next_false matches? r h, ih]
        simp [matching, warningsFor, h]
      | true =>
        rw [next_first matches? r h, foldl_next_later]
        simp [matching, warningsFor, h, Outcome.append_mk]

/-- A file adds its own failures and warnings to what was found before. -/
lemma checkPath_eq (rules : RuleSet) (found : Outcome) :
    checkPath rules matches? found r =
      found ++ ⟨fileFailures r (matching rules.entries matches? r.path),
        warningsFor rules.entries matches? r.path⟩ := by
  rw [checkPath, foldl_next]
  cases matching rules.entries matches? r.path with
  | nil => simp [fileFailures, Outcome.ofFailure, Outcome.append_mk]
  | cons rule later => simp [fileFailures]

end Trial

lemma checkPaths_eq (records : List PathRecord) (rules : RuleSet) (matches? : Matcher) :
    checkPaths records rules matches? =
      ⟨records.flatMap fun r => fileFailures r (matching rules.entries matches? r.path),
        records.flatMap fun r => warningsFor rules.entries matches? r.path⟩ := by
  rw [checkPaths, Outcome.foldl_append fun o r => checkPath_eq matches? r rules o]
  simp [Outcome.append_mk]

lemma failures_check_eq (records : List PathRecord) (rules : RuleSet) (matches? : Matcher) :
    (check records rules matches?).failures =
      rules.entries.flatMap (ruleFailures matches?) ++
        records.flatMap fun r => fileFailures r (matching rules.entries matches? r.path) := by
  rw [check, Outcome.failures_append, checkRules_eq, checkPaths_eq]

/-- A pattern that cannot be tried on the job tree is reported with its rule. -/
lemma mem_failures_of_probe {records : List PathRecord} {rules : RuleSet} {matches? : Matcher}
    {rule : String × Bundle} (hrule : rule ∈ rules.entries) {e : GlobError}
    (h : matches? rule.1 Layout.jobTreePath = .error e) :
    .jobConfigProbeFailed rule.1 e.message ∈ (check records rules matches?).failures := by
  rw [failures_check_eq]
  refine List.mem_append_left _ (List.mem_flatMap.2 ⟨rule, hrule, ?_⟩)
  obtain ⟨glob, b⟩ := rule
  simp [ruleFailures, h]

lemma mem_failures_of_matches {records : List PathRecord} {rules : RuleSet} {matches? : Matcher}
    {rule : String × Bundle} (hrule : rule ∈ rules.entries)
    (h : matches? rule.1 Layout.jobTreePath = .ok true) (hgzip : rule.2.gzip ≠ some true) :
    .jobConfigGzipDisabled rule.1 rule.2.name ∈ (check records rules matches?).failures := by
  rw [failures_check_eq]
  refine List.mem_append_left _ (List.mem_flatMap.2 ⟨rule, hrule, ?_⟩)
  obtain ⟨glob, b⟩ := rule
  simp [ruleFailures, h, hgzip]

/-! ### No failures -/

lemma ruleFailures_eq_nil_iff {matches? : Matcher} {glob : String} {b : Bundle} :
    ruleFailures matches? (glob, b) = [] ↔
      "default" ∉ b.clusters.keys ∧
        ∃ matched, matches? glob Layout.jobTreePath = .ok matched ∧
          (matched = true → b.gzip = some true) := by
  cases h : matches? glob Layout.jobTreePath with
  | error e => simp [ruleFailures, h]
  | ok matched =>
    cases matched with
    | false => simp [ruleFailures, h]
    | true => simp [ruleFailures, h]

lemma bundleFailures_eq_nil_iff {r : PathRecord} {rule : String × Bundle} :
    bundleFailures r rule = [] ↔ rule.2.name = r.bundle := by
  simp [bundleFailures]

/-- A file is in order if a single rule matches it, and that one fills its config map. -/
lemma fileFailures_eq_nil_iff {r : PathRecord} {found : List (String × Bundle)} :
    fileFailures r found = [] ↔ ∃ rule, found = [rule] ∧ rule.2.name = r.bundle := by
  cases found with
  | nil => simp [fileFailures]
  | cons rule later =>
    cases later with
    | nil => simp [fileFailures, laterFailures, bundleFailures_eq_nil_iff]
    | cons rule' later => simp [fileFailures, laterFailures]

lemma mem_matching {rules : List (String × Bundle)} {matches? : Matcher} {path : String}
    {rule : String × Bundle} :
    rule ∈ matching rules matches? path ↔ rule ∈ rules ∧ matches? rule.1 path = .ok true := by
  simp [matching]

/-- Patterns are different, so a single rule matches if it matches and no other pattern does. -/
lemma matching_eq_singleton_iff {rules : RuleSet} {matches? : Matcher} {path : String}
    {rule : String × Bundle} :
    matching rules.entries matches? path = [rule] ↔
      rule ∈ rules.entries ∧ matches? rule.1 path = .ok true ∧
        ∀ glob ∈ rules.keys, matches? glob path = .ok true → glob = rule.1 := by
  constructor
  · intro h
    have hrule : rule ∈ matching rules.entries matches? path := by simp [h]
    refine ⟨(mem_matching.1 hrule).1, (mem_matching.1 hrule).2, fun glob hglob hm => ?_⟩
    obtain ⟨b, hb⟩ := KeyMap.mem_keys_iff.1 hglob
    have hmem : (glob, b) ∈ matching rules.entries matches? path := mem_matching.2 ⟨hb, hm⟩
    rw [h, List.mem_singleton] at hmem
    exact congrArg Prod.fst hmem
  · rintro ⟨hrule, hm, honly⟩
    have hsorted := rules.sorted.filter fun rule => matches? rule.1 path = .ok true
    have hall : ∀ x ∈ matching rules.entries matches? path, x.1 = rule.1 := fun x hx =>
      honly x.1 (KeyMap.mem_keys_iff.2 ⟨x.2, (mem_matching.1 hx).1⟩) (mem_matching.1 hx).2
    have hmem : rule ∈ matching rules.entries matches? path := mem_matching.2 ⟨hrule, hm⟩
    rw [← matching] at hsorted
    cases hs : matching rules.entries matches? path with
    | nil => simp [hs] at hmem
    | cons x xs =>
      rw [hs] at hsorted hall hmem
      cases xs with
      | nil => rw [List.mem_singleton.1 hmem]
      | cons y ys =>
        have hlt : x.1 < y.1 := (List.pairwise_cons.1 hsorted).1 y (by simp)
        rw [hall x (by simp), hall y (by simp)] at hlt
        exact absurd hlt (String.lt_irrefl _)

/-! ### Ambiguous matches -/

lemma filter_bundleFailures (r : PathRecord) (rule : String × Bundle) :
    (bundleFailures r rule).filter Failure.isAmbiguousMatch = [] := by
  by_cases h : rule.2.name = r.bundle <;> simp [bundleFailures, h, Failure.isAmbiguousMatch]

/-- Every match after the first one is ambiguous once, with the first one. -/
lemma filter_laterFailures (r : PathRecord) (first : String) (later : List (String × Bundle)) :
    (laterFailures r first later).filter Failure.isAmbiguousMatch =
      later.map fun rule => .ambiguousMatch r.path rule.1 first rule.2.name := by
  induction later with
  | nil => rfl
  | cons rule later ih =>
    rw [laterFailures] at ih ⊢
    rw [List.flatMap_cons, List.filter_append, ih, List.filter_cons_of_pos rfl,
      filter_bundleFailures]
    rfl

lemma filter_fileFailures (r : PathRecord) (found : List (String × Bundle)) :
    (fileFailures r found).filter Failure.isAmbiguousMatch =
      match found with
      | [] => []
      | rule :: later =>
        later.map fun l => .ambiguousMatch r.path l.1 rule.2.name l.2.name := by
  cases found with
  | nil => rfl
  | cons rule later =>
    rw [fileFailures, List.filter_append, filter_bundleFailures, filter_laterFailures]
    rfl

/-- The failures of the check in order: those of every rule by itself, in the order of the bytes of
the patterns and whatever files there are, and then those of every file. A file that several rules
match is ambiguous once for each of them but the first, always with the first one. -/
theorem failures_check (records : List PathRecord) (rules : RuleSet) (matches? : Matcher) :
    rules.keys.Pairwise (fun g g' => Text.bytes g < Text.bytes g') ∧
    (check [] rules matches?).failures = rules.entries.flatMap (ruleFailures matches?) ∧
    (check records rules matches?).failures =
      (check [] rules matches?).failures ++
        records.flatMap (fun r => fileFailures r (matching rules.entries matches? r.path)) ∧
    ∀ r : PathRecord,
      (checkPaths [r] rules matches?).failures.filter Failure.isAmbiguousMatch =
        match matching rules.entries matches? r.path with
        | [] => []
        | rule :: later =>
          later.map fun l => .ambiguousMatch r.path l.1 rule.2.name l.2.name := by
  have hrules : (check [] rules matches?).failures =
      rules.entries.flatMap (ruleFailures matches?) := by
    simp [failures_check_eq]
  refine ⟨?_, hrules, ?_, fun r => ?_⟩
  · exact rules.pairwise_bytes_keys
  · rw [hrules, failures_check_eq]
  · rw [checkPaths_eq, List.flatMap_singleton]
    exact filter_fileFailures r _

end Partition

end ShardCheck
