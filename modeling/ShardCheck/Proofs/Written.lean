import Mathlib.Tactic.Common
import ShardCheck.Proofs.Inventory
import ShardCheck.Proofs.Yaml.Reader

/-!
# What is written and what is checked

A file that is accepted is read as a whole, entry by entry, but what its entries are read as is kept
by key. Of several entries with one key only the last is checked: a rule or a list of jobs before it
is gone without a word. Where all keys are different nothing is lost.
-/

namespace ShardCheck

open Yaml

/-! ### Fields -/

namespace Yaml

variable {α : Type} {d : Document}

lemma Reader.reads_root_of_readText {r : Reader α} {s : List Char} {x : α}
    (h : r.readText s = .ok x) : (Document.load s).Reads r (Document.load s).root x := by
  rw [readText, Fallible.bind_eq_ok_iff] at h
  obtain ⟨⟨y, n⟩, hread, h⟩ := h
  have hxy : y = x := by
    simp only at h
    split at h
    · cases h
    · split at h
      · cases h
      · exact Except.ok.inj h
  exact ⟨[], 0, n, hxy ▸ hread⟩

/-- The entries of a map that may be left out are those under its name. -/
lemma Document.exists_readsEntries {r : Reader α} {ns : List Node} {m : Option (KeyMap α)}
    (h : List.Forall₂ (d.Reads (.map r)) ns m.toList) :
    ∃ es, d.ReadsEntries r (ns.flatMap d.written) es ∧ m.getD ∅ = .ofList es := by
  cases m with
  | none =>
    cases h
    exact ⟨[], .nil, rfl⟩
  | some m =>
    obtain ⟨n, -, hn, ⟨⟩, rfl⟩ := List.forall₂_cons_right_iff.1 h
    rw [List.flatMap_singleton]
    exact hn.map

lemma Document.reads_items {r : Reader α} {ns : List Node} {xs : Option (List α)}
    (h : List.Forall₂ (d.Reads (.list r)) ns xs.toList) :
    List.Forall₂ (d.Reads r) (ns.flatMap d.items) (xs.getD []) := by
  cases xs with
  | none =>
    cases h
    exact .nil
  | some xs =>
    obtain ⟨n, -, hn, ⟨⟩, rfl⟩ := List.forall₂_cons_right_iff.1 h
    rw [List.flatMap_singleton]
    exact hn.list

lemma Document.ReadsEntries.isLast_of_nodup {r : Reader α} {ws : List (String × Node)}
    {es : List (String × α)} (h : d.ReadsEntries r ws es) (hkeys : (ws.map Prod.fst).Nodup)
    {e : String × α} (he : e ∈ es) : KeyMap.IsLast es e := by
  refine KeyMap.isLast_of_nodup ?_ he
  have hsame : ws.map Prod.fst = es.map Prod.fst := by
    clear hkeys he
    induction h with
    | nil => rfl
    | cons hw _ ih => rw [List.map_cons, List.map_cons, hw.1, ih]
  rwa [hsame] at hkeys

end Yaml

/-! ### Rules -/

namespace RuleSet

variable {d : Document}

def written (d : Document) : List (String × Node) :=
  (d.under "config_updater" d.root).flatMap fun updater =>
    (d.under "maps" updater).flatMap d.written

lemma exists_readsEntries {rules : RuleSet} (h : d.Reads reader d.root rules) :
    ∃ es, d.ReadsEntries Bundle.reader (written d) es ∧ rules = .ofList es := by
  obtain ⟨path, h⟩ := h
  obtain ⟨updater, hupdater, h⟩ := h.exists_of_bind
  obtain rfl := Reading.gives_pure_iff.1 h
  have hunder := Document.Reads.record_single ⟨path, hupdater⟩
  rw [written]
  cases updater with
  | none =>
    rw [List.forall₂_nil_right_iff.1 hunder]
    exact ⟨[], .nil, rfl⟩
  | some rules =>
    obtain ⟨u, -, ⟨path, hu⟩, ⟨⟩, heq⟩ := List.forall₂_cons_right_iff.1 hunder
    rw [heq, List.flatMap_singleton]
    obtain ⟨maps, hmaps, hu⟩ := hu.exists_of_bind
    obtain rfl := Reading.gives_pure_iff.1 hu
    have hunder := Document.Reads.record_single ⟨path, hmaps⟩
    exact Document.exists_readsEntries (m := maps) hunder

/-- Of all entries that are written the last ones of their keys are the rules, and all of them are
if no key is repeated. -/
def KeepsLast (d : Document) (rules : RuleSet) : Prop :=
  ∃ es, d.ReadsEntries Bundle.reader (written d) es ∧
    (∀ glob bundle, rules.get? glob = some bundle ↔ KeyMap.IsLast es (glob, bundle)) ∧
    (((written d).map Prod.fst).Nodup → ∀ e ∈ es, rules.get? e.1 = some e.2)

lemma keepsLast_of_readText {s : List Char} {rules : RuleSet}
    (h : reader.readText s = .ok rules) : KeepsLast (Document.load s) rules := by
  obtain ⟨es, hes, rfl⟩ := exists_readsEntries (Reader.reads_root_of_readText h)
  refine ⟨es, hes, fun glob bundle => KeyMap.get?_ofList_eq_some_iff, fun hkeys e he => ?_⟩
  exact KeyMap.get?_ofList_eq_some_iff.2 (hes.isLast_of_nodup hkeys he)

end RuleSet

/-! ### Jobs -/

namespace JobConfig

variable {d : Document}

/-- The entries that are written for the jobs of some kind around merges. -/
def written (d : Document) (kind : String) : List (String × Node) :=
  (d.under kind d.root).flatMap d.written

def periodicsWritten (d : Document) : List Node := (d.under "periodics" d.root).flatMap d.items

lemma exists_readsEntries {c : JobConfig} (h : d.Reads reader d.root c) :
    (∃ es, d.ReadsEntries (.list Job.reader) (written d "presubmits") es ∧
      c.presubmits = .ofList es) ∧
    (∃ es, d.ReadsEntries (.list Job.reader) (written d "postsubmits") es ∧
      c.postsubmits = .ofList es) ∧
    List.Forall₂ (d.Reads Job.reader) (periodicsWritten d) c.periodics := by
  obtain ⟨path, h⟩ := h
  obtain ⟨draft, hdraft, h⟩ := h.exists_of_bind
  obtain rfl := Reading.gives_pure_iff.1 h
  have hpresubmits : List.Forall₂ (d.Reads (.map (.list Job.reader)))
      (d.under "presubmits" d.root) draft.presubmits.toList := by
    refine Document.Reads.record ⟨path, hdraft⟩ ⟨rfl, fun _ _ => rfl, ?_⟩ rfl
    exact List.forall_mem_cons.2 ⟨fun h => absurd rfl h, List.forall_mem_cons.2
      ⟨fun _ => Document.keeps_once fun _ _ => rfl, List.forall_mem_singleton.2
        fun _ => Document.keeps_once fun _ _ => rfl⟩⟩
  have hpostsubmits : List.Forall₂ (d.Reads (.map (.list Job.reader)))
      (d.under "postsubmits" d.root) draft.postsubmits.toList := by
    refine Document.Reads.record ⟨path, hdraft⟩ ⟨rfl, fun _ _ => rfl, ?_⟩ rfl
    exact List.forall_mem_cons.2 ⟨fun _ => Document.keeps_once fun _ _ => rfl,
      List.forall_mem_cons.2 ⟨fun h => absurd rfl h, List.forall_mem_singleton.2
        fun _ => Document.keeps_once fun _ _ => rfl⟩⟩
  have hperiodics : List.Forall₂ (d.Reads (.list Job.reader))
      (d.under "periodics" d.root) draft.periodics.toList := by
    refine Document.Reads.record ⟨path, hdraft⟩ ⟨rfl, fun _ _ => rfl, ?_⟩ rfl
    exact List.forall_mem_cons.2 ⟨fun _ => Document.keeps_once fun _ _ => rfl,
      List.forall_mem_cons.2 ⟨fun _ => Document.keeps_once fun _ _ => rfl,
        List.forall_mem_singleton.2 fun h => absurd rfl h⟩⟩
  exact ⟨Document.exists_readsEntries hpresubmits, Document.exists_readsEntries hpostsubmits,
    Document.reads_items hperiodics⟩

/-- A job is in the last list of its repository, or is a periodic one. -/
def IsKept (presubmits postsubmits : List (String × List Job)) (periodics : List Job) (job : Job) :
    JobKind → Prop
  | .presubmit => ∃ repo jobs, KeyMap.IsLast presubmits (repo, jobs) ∧ job ∈ jobs
  | .postsubmit => ∃ repo jobs, KeyMap.IsLast postsubmits (repo, jobs) ∧ job ∈ jobs
  | .periodic => job ∈ periodics

/-- Of all lists that are written the jobs of the last ones of their repositories are visited, and
what they inject is among the references. All lists are last ones if no repository is repeated. -/
def KeepsLast (d : Document) (c : JobConfig) : Prop :=
  ∃ presubmits postsubmits,
    d.ReadsEntries (.list Job.reader) (written d "presubmits") presubmits ∧
    d.ReadsEntries (.list Job.reader) (written d "postsubmits") postsubmits ∧
    List.Forall₂ (d.Reads Job.reader) (periodicsWritten d) c.periodics ∧
    (((written d "presubmits").map Prod.fst).Nodup →
      ∀ e ∈ presubmits, KeyMap.IsLast presubmits e) ∧
    (((written d "postsubmits").map Prod.fst).Nodup →
      ∀ e ∈ postsubmits, KeyMap.IsLast postsubmits e) ∧
    ∀ kind job spec,
      ((kind, job, spec) ∈ c.jobsWithSpec ↔
        job.spec = some spec ∧ IsKept presubmits postsubmits c.periodics job kind) ∧
      ((kind, job, spec) ∈ c.jobsWithSpec →
        ∀ sourceFile, ∀ x ∈ spec.references sourceFile kind job.name, x ∈ c.references sourceFile)

lemma mem_jobsWithSpec_iff {c : JobConfig} {kind : JobKind} {job : Job} {spec : PodSpec} :
    (kind, job, spec) ∈ c.jobsWithSpec ↔ job.spec = some spec ∧ c.HasJob job kind := by
  rw [← mem_jobs_iff, jobsWithSpec, List.mem_filterMap]
  constructor
  · rintro ⟨⟨kind', job'⟩, hmem, heq⟩
    obtain ⟨spec', hspec, heq⟩ := Option.map_eq_some_iff.1 heq
    cases heq
    exact ⟨hspec, hmem⟩
  · rintro ⟨hspec, hmem⟩
    exact ⟨(kind, job), hmem, by simp [hspec]⟩

lemma keepsLast_of_readText {s : List Char} {c : JobConfig}
    (h : reader.readText s = .ok c) : KeepsLast (Document.load s) c := by
  obtain ⟨⟨presubmits, hpre, heqPre⟩, ⟨postsubmits, hpost, heqPost⟩, hperiodics⟩ :=
    exists_readsEntries (Reader.reads_root_of_readText h)
  refine ⟨presubmits, postsubmits, hpre, hpost, hperiodics,
    fun hkeys e he => hpre.isLast_of_nodup hkeys he,
    fun hkeys e he => hpost.isLast_of_nodup hkeys he, fun kind job spec => ⟨?_, ?_⟩⟩
  · rw [mem_jobsWithSpec_iff]
    refine and_congr_right fun _ => ?_
    cases kind with
    | presubmit => simp only [HasJob, IsKept, heqPre, KeyMap.get?_ofList_eq_some_iff]
    | postsubmit => simp only [HasJob, IsKept, heqPost, KeyMap.get?_ofList_eq_some_iff]
    | periodic => rfl
  · intro hmem sourceFile x hx
    exact List.mem_flatMap.2 ⟨(kind, job, spec), hmem, hx⟩

end JobConfig

/-! ### Files -/

/-- What a file holds is kept by key. The rules are what the last entries of their keys are read as,
and the jobs that are visited are those of the last lists of their repositories. -/
theorem keepsLast_of_load (fs : FileSystem) (path : String) :
    (∀ rules, fs.loadRules path = .ok rules → ∃ s, fs.readText path = .ok s ∧
      (Text.allBlank s.toList = true ∧ rules = ∅ ∨
        Text.allBlank s.toList = false ∧ rules.KeepsLast (Document.load s.toList))) ∧
    ∀ c, fs.loadJobs path = .ok c → ∃ s, fs.readText path = .ok s ∧
      (Text.allBlank s.toList = true ∧ c = .empty ∨
        Text.allBlank s.toList = false ∧ c.KeepsLast (Document.load s.toList)) := by
  refine ⟨fun rules h => ?_, fun c h => ?_⟩
  · rw [FileSystem.loadRules] at h
    split at h
    · obtain ⟨s, htext, hs⟩ := FileSystem.load_eq_ok_iff.1 h
      exact ⟨s, htext, hs.imp id fun hs => ⟨hs.1, RuleSet.keepsLast_of_readText hs.2⟩⟩
    · cases h
  · obtain ⟨s, htext, hs⟩ := FileSystem.load_eq_ok_iff.1 h
    exact ⟨s, htext, hs.imp id fun hs => ⟨hs.1, JobConfig.keepsLast_of_readText hs.2⟩⟩

/-! ### Repeated keys -/

def repeatedGlob : String := "config_updater:\n maps:\n  a:\n   name: x\n  a:\n   name: y\n"

/-- Two lists of jobs of one repository, the first with a job that injects a configuration. -/
def repeatedRepo : String :=
  "presubmits:\n o/r:\n - name: j\n   spec:\n    containers:\n    - env:\n" ++
    "      - name: CONFIG_SPEC\n        valueFrom:\n" ++
    "         configMapKeyRef: \x7bname: m, key: k\x7d\n o/r: []\n"

def repeatedFiles : FileSystem where
  workDir := []
  entries := [(["plugins"], .file (some repeatedGlob)), (["jobs"], .file (some repeatedRepo))]

lemma loadRules_repeatedFiles :
    repeatedFiles.loadRules "/plugins" = .ok (.ofList [("a", ⟨"y", ∅, none⟩)]) := by
  decide +kernel

lemma loadJobs_repeatedFiles :
    repeatedFiles.loadJobs "/jobs" = .ok ⟨.ofList [("o/r", [])], ∅, []⟩ := by decide +kernel

/-- Of the two rules and of the two lists the second one is kept. -/
theorem keepsLast_repeatedFiles :
    (∃ rules, repeatedFiles.loadRules "/plugins" = .ok rules ∧
      rules.KeepsLast (Document.load repeatedGlob.toList)) ∧
    ∃ c, repeatedFiles.loadJobs "/jobs" = .ok c ∧
      c.KeepsLast (Document.load repeatedRepo.toList) := by
  have hplugins : repeatedFiles.readText "/plugins" = .ok repeatedGlob := by decide +kernel
  have hjobs : repeatedFiles.readText "/jobs" = .ok repeatedRepo := by decide +kernel
  have hglob : Text.allBlank repeatedGlob.toList = false := by decide +kernel
  have hrepo : Text.allBlank repeatedRepo.toList = false := by decide +kernel
  obtain ⟨hrules, -⟩ := keepsLast_of_load repeatedFiles "/plugins"
  obtain ⟨-, hlists⟩ := keepsLast_of_load repeatedFiles "/jobs"
  refine ⟨⟨_, loadRules_repeatedFiles, ?_⟩, ⟨_, loadJobs_repeatedFiles, ?_⟩⟩
  · obtain ⟨s, hs, ⟨hblank, -⟩ | ⟨-, hkeeps⟩⟩ := hrules _ loadRules_repeatedFiles
    · cases hplugins.symm.trans hs
      rw [hglob] at hblank
      cases hblank
    · cases hplugins.symm.trans hs
      exact hkeeps
  · obtain ⟨s, hs, ⟨hblank, -⟩ | ⟨-, hkeeps⟩⟩ := hlists _ loadJobs_repeatedFiles
    · cases hjobs.symm.trans hs
      rw [hrepo] at hblank
      cases hblank
    · cases hjobs.symm.trans hs
      exact hkeeps

/-- Both files are accepted, but the first rule is no rule, and the job of the first list is not
visited although it has a pod with a reference. -/
theorem lost_of_repeated_key :
    (∃ rules w bundle, repeatedFiles.loadRules "/plugins" = .ok rules ∧
      w ∈ RuleSet.written (Document.load repeatedGlob.toList) ∧
      (Document.load repeatedGlob.toList).Reads Bundle.reader w.2 bundle ∧
      rules.get? w.1 ≠ some bundle) ∧
    ∃ c w jobs job spec, repeatedFiles.loadJobs "/jobs" = .ok c ∧
      w ∈ JobConfig.written (Document.load repeatedRepo.toList) "presubmits" ∧
      (Document.load repeatedRepo.toList).Reads (.list Job.reader) w.2 jobs ∧ job ∈ jobs ∧
      job.spec = some spec ∧ spec.references "jobs" .presubmit job.name ≠ [] ∧
      (JobKind.presubmit, job, spec) ∉ c.jobsWithSpec := by
  have hglobs : (RuleSet.written (Document.load repeatedGlob.toList)).map
      (fun w => (w.1, Bundle.reader (Document.load repeatedGlob.toList) [] w.2 0)) =
      [("a", .ok (⟨"x", ∅, none⟩, 0)), ("a", .ok (⟨"y", ∅, none⟩, 0))] := by decide +kernel
  have hlists : (JobConfig.written (Document.load repeatedRepo.toList) "presubmits").map
      (fun w => (w.1, (Reader.list Job.reader) (Document.load repeatedRepo.toList) [] w.2 0)) =
      [("o/r", .ok ([⟨"j", some ⟨[⟨[⟨"CONFIG_SPEC", some ⟨some ⟨"m", "k"⟩⟩⟩]⟩]⟩⟩], 0)),
        ("o/r", .ok ([], 0))] := by decide +kernel
  refine ⟨?_, ?_⟩
  · obtain ⟨w, rest, hw, hfirst, -⟩ := List.map_eq_cons_iff.1 hglobs
    obtain ⟨hkey, hread⟩ := Prod.mk.inj hfirst
    -- the first of the two entries is lost
    refine ⟨_, w, _, loadRules_repeatedFiles, by rw [hw]; exact List.mem_cons_self,
      ⟨[], 0, 0, hread⟩, ?_⟩
    rw [hkey]
    decide
  · obtain ⟨w, rest, hw, hfirst, -⟩ := List.map_eq_cons_iff.1 hlists
    obtain ⟨-, hread⟩ := Prod.mk.inj hfirst
    exact ⟨_, w, _, _, _, loadJobs_repeatedFiles, by rw [hw]; exact List.mem_cons_self,
      ⟨[], 0, 0, hread⟩, List.mem_singleton_self _, rfl, by decide, by decide⟩

end ShardCheck
