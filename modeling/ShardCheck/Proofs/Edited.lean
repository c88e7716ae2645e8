import Mathlib.Tactic.Common
import ShardCheck.Proofs.Inventory
import ShardCheck.Proofs.Written
import ShardCheck.Proofs.Yaml.Harmless

/-!
# Edited files

The rules and the jobs that are loaded from a file depend neither on the order of its mappings nor
on keys that are no fields. A field goes by its own name only: the key of a config map is looked for
in `valueFrom` and `configMapKeyRef`, and other spellings of these names are keys like any other.
-/

namespace ShardCheck

open Yaml

variable {α : Type} {e : Edit} {r : Reader α}

/-! ### Texts -/

/-- A text holds one complete document. -/
structure Yaml.IsDocument (text : String) : Prop where
  notBlank : Text.allBlank text.toList = false
  noFault : (Document.load text.toList).fault = none
  notFollowed : (Document.load text.toList).followed = false

/-- The document of one text is an edited one of that of another text. -/
def Yaml.Edit.AllowsText (e : Edit) (text text' : String) : Prop :=
  e.Allows (Document.load text.toList).root (Document.load text'.toList).root

lemma Yaml.Edit.IsHarmless.readText {text text' : String} (h : e.IsHarmless r)
    (hedit : e.AllowsText text text') (htext : IsDocument text') {x : α}
    (hread : r.readText text.toList = .ok x) : r.readText text'.toList = .ok x := by
  have hroot : r (Document.load text'.toList) [] (Document.load text'.toList).root 0 = .ok (x, 0) :=
    h.takes hedit (Reader.reads_root_of_readText hread) [] 0
  rw [Reader.readText, Fallible.bind_eq_ok_iff]
  refine ⟨(x, 0), hroot, ?_⟩
  simp only [htext.noFault, htext.notFollowed, Bool.false_eq_true, if_false]
  rfl

lemma FileSystem.readText_of_load {fs : FileSystem} {path text : String}
    (htext : fs.readText path = .ok text) (hblank : Text.allBlank text.toList = false)
    {empty x : α} (hload : fs.load r empty path = .ok x) : r.readText text.toList = .ok x := by
  obtain ⟨s, hs, hread⟩ := load_eq_ok_iff.1 hload
  obtain rfl : s = text := Except.ok.inj (hs.symm.trans htext)
  rcases hread with ⟨hs', -⟩ | ⟨-, hread⟩
  · rw [hblank] at hs'
    cases hs'
  · exact hread

lemma Yaml.Edit.IsHarmless.load {fs fs' : FileSystem} {path path' text text' : String}
    (h : e.IsHarmless r) (htext : fs.readText path = .ok text)
    (htext' : fs'.readText path' = .ok text') (hblank : Text.allBlank text.toList = false)
    (hdoc : IsDocument text') {empty x : α} (hload : fs.load r empty path = .ok x)
    (hedit : e.AllowsText text text') : fs'.load r empty path' = .ok x := by
  have hread := FileSystem.readText_of_load htext hblank hload
  exact FileSystem.load_of_readText htext' hdoc.notBlank (h.readText hedit hdoc hread)

lemma Yaml.Edit.IsHarmless.allowsText_self {fs : FileSystem} {path text : String}
    (h : e.IsHarmless r) (htext : fs.readText path = .ok text)
    (hblank : Text.allBlank text.toList = false) {empty x : α}
    (hload : fs.load r empty path = .ok x) (hplain : (Document.load text.toList).root.IsPlain) :
    e.AllowsText text text :=
  h.refl hplain (Reader.reads_root_of_readText (FileSystem.readText_of_load htext hblank hload))

lemma FileSystem.isFile_of_readText {fs : FileSystem} {path text : String}
    (h : fs.readText path = .ok text) : fs.isFile path = true := by
  rw [readText] at h
  rw [isFile]
  split at h
  · cases h
  · rename_i hresolve
    rw [hresolve]
  · cases h
  · cases h

/-! ### Rules -/

def Bundle.edit : Edit :=
  .record [("name", .keep), ("clusters", .map (.list .keep)), ("gzip", .keep)]

def RuleSet.edit : Edit :=
  .record [("config_updater", .record [("maps", .map Bundle.edit)])]

lemma Bundle.isHarmless_edit : Bundle.edit.IsHarmless Bundle.reader := by
  refine Edit.IsHarmless.bind_pure (Edit.isHarmless_record ?_ ?_) _
  · exact .cons ⟨rfl, Edit.isHarmless_string.once⟩
      (.cons ⟨rfl, Edit.isHarmless_string.list.optional.map.once⟩
        (.cons ⟨rfl, Edit.isHarmless_bool.optional.once⟩ .nil))
  · refine .cons (Field.isOnce_once fun _ _ => rfl) ?_
      (.cons (Field.isOnce_once fun _ _ => rfl) ?_ (Field.areIndependent_single fun _ _ => rfl))
    · refine List.forall_mem_cons.2 ⟨?_, List.forall_mem_singleton.2 ?_⟩
      · exact Field.commute_once (fun _ _ => rfl) (fun _ _ => rfl) fun _ _ _ => rfl
      · exact Field.commute_once (fun _ _ => rfl) (fun _ _ => rfl) fun _ _ _ => rfl
    · refine List.forall_mem_singleton.2 ?_
      exact Field.commute_once (fun _ _ => rfl) (fun _ _ => rfl) fun _ _ _ => rfl

lemma isHarmless_single (h : e.IsHarmless r) {record part : String} :
    (Edit.record [(part, e)]).IsHarmless
      (Reader.record record (none : Option α) [.once part id (fun _ x => some x) r]
        fun _ => none) := by
  refine Edit.isHarmless_record ?_ ?_
  · exact .cons ⟨rfl, h.once⟩ .nil
  · exact Field.areIndependent_single fun _ _ => rfl

lemma RuleSet.isHarmless_edit : RuleSet.edit.IsHarmless RuleSet.reader := by
  have hupdater : (Edit.record [("maps", .map Bundle.edit)]).IsHarmless updaterReader :=
    (isHarmless_single Bundle.isHarmless_edit.map).bind_pure (·.getD ∅)
  exact (isHarmless_single hupdater).bind_pure (·.getD ∅)

/-! ### Jobs -/

def ConfigMapKey.edit : Edit := .record [("name", .keep), ("key", .keep)]

def ValueSource.edit : Edit := .record [("configMapKeyRef", ConfigMapKey.edit)]

def EnvVar.edit : Edit := .record [("name", .keep), ("valueFrom", ValueSource.edit)]

def Container.edit : Edit := .record [("env", .list EnvVar.edit)]

def PodSpec.edit : Edit := .record [("containers", .list Container.edit)]

def Job.edit : Edit := .record [("name", .keep), ("spec", PodSpec.edit)]

def JobConfig.edit : Edit :=
  .record [("presubmits", .map (.list Job.edit)), ("postsubmits", .map (.list Job.edit)),
    ("periodics", .list Job.edit)]

lemma NamedDraft.isHarmless (h : e.IsHarmless r) {record part : String}
    {missing : NamedDraft α → Option String} :
    (Edit.record [("name", .keep), (part, e)]).IsHarmless
      (NamedDraft.reader record part r missing) := by
  refine Edit.isHarmless_record ?_ ?_
  · exact .cons ⟨rfl, Edit.isHarmless_string.once⟩ (.cons ⟨rfl, h.once⟩ .nil)
  · refine .cons (Field.isOnce_once fun _ _ => rfl) (List.forall_mem_singleton.2 ?_)
      (Field.areIndependent_single fun _ _ => rfl)
    exact Field.commute_once (fun _ _ => rfl) (fun _ _ => rfl) fun _ _ _ => rfl

lemma singleReader_isHarmless (h : e.IsHarmless r) {record part : String} {absent : α} :
    (Edit.record [(part, e)]).IsHarmless (singleReader record part absent r) :=
  (isHarmless_single h).bind_pure (·.getD absent)

lemma ConfigMapKey.isHarmless_edit : ConfigMapKey.edit.IsHarmless ConfigMapKey.reader :=
  (NamedDraft.isHarmless Edit.isHarmless_string).bind_pure _

lemma ValueSource.isHarmless_edit : ValueSource.edit.IsHarmless ValueSource.reader :=
  (singleReader_isHarmless ConfigMapKey.isHarmless_edit.optional).bind_pure mk

lemma EnvVar.isHarmless_edit : EnvVar.edit.IsHarmless EnvVar.reader :=
  (NamedDraft.isHarmless ValueSource.isHarmless_edit.optional).bind_pure _

lemma Container.isHarmless_edit : Container.edit.IsHarmless Container.reader :=
  (singleReader_isHarmless EnvVar.isHarmless_edit.list).bind_pure mk

lemma PodSpec.isHarmless_edit : PodSpec.edit.IsHarmless PodSpec.reader :=
  (singleReader_isHarmless Container.isHarmless_edit.list).bind_pure mk

lemma Job.isHarmless_edit : Job.edit.IsHarmless Job.reader :=
  (NamedDraft.isHarmless PodSpec.isHarmless_edit.optional).bind_pure _

lemma JobConfig.isHarmless_edit : JobConfig.edit.IsHarmless JobConfig.reader := by
  refine Edit.IsHarmless.bind_pure (Edit.isHarmless_record ?_ ?_) _
  · have hjobs := Job.isHarmless_edit.list
    exact .cons ⟨rfl, hjobs.map.once⟩ (.cons ⟨rfl, hjobs.map.once⟩ (.cons ⟨rfl, hjobs.once⟩ .nil))
  · refine .cons (Field.isOnce_once fun _ _ => rfl) ?_
      (.cons (Field.isOnce_once fun _ _ => rfl) ?_ (Field.areIndependent_single fun _ _ => rfl))
    · refine List.forall_mem_cons.2 ⟨?_, List.forall_mem_singleton.2 ?_⟩
      · exact Field.commute_once (fun _ _ => rfl) (fun _ _ => rfl) fun _ _ _ => rfl
      · exact Field.commute_once (fun _ _ => rfl) (fun _ _ => rfl) fun _ _ _ => rfl
    · refine List.forall_mem_singleton.2 ?_
      exact Field.commute_once (fun _ _ => rfl) (fun _ _ => rfl) fun _ _ _ => rfl

/-! ### Loading -/

/-- A file is accepted for the same rules and for the same jobs if it is edited: if mappings come in
another order, and other keys than the fields of a record come and go. Every accepted document
without aliases and with different keys is one that may stay as it is. -/
theorem load_of_edited {fs fs' : FileSystem} {path path' text text' : String}
    (htext : fs.readText path = .ok text) (htext' : fs'.readText path' = .ok text')
    (hblank : Text.allBlank text.toList = false) (hdoc : IsDocument text') :
    (∀ rules, fs.loadRules path = .ok rules →
      ((Document.load text.toList).root.IsPlain → RuleSet.edit.AllowsText text text) ∧
      (RuleSet.edit.AllowsText text text' → fs'.loadRules path' = .ok rules)) ∧
    ∀ c, fs.loadJobs path = .ok c →
      ((Document.load text.toList).root.IsPlain → JobConfig.edit.AllowsText text text) ∧
      (JobConfig.edit.AllowsText text text' → ∃ c', fs'.loadJobs path' = .ok c' ∧
        ∀ sourceFile, c'.references sourceFile = c.references sourceFile) := by
  refine ⟨fun rules hload => ?_, fun c hload => ?_⟩
  · rw [FileSystem.loadRules, if_pos (FileSystem.isFile_of_readText htext)] at hload
    refine ⟨fun hplain => ?_, fun hedit => ?_⟩
    · exact RuleSet.isHarmless_edit.allowsText_self htext hblank hload hplain
    · rw [FileSystem.loadRules, if_pos (FileSystem.isFile_of_readText htext')]
      exact RuleSet.isHarmless_edit.load htext htext' hblank hdoc hload hedit
  · refine ⟨fun hplain => ?_, fun hedit => ⟨c, ?_, fun _ => rfl⟩⟩
    · exact JobConfig.isHarmless_edit.allowsText_self htext hblank hload hplain
    · exact JobConfig.isHarmless_edit.load htext htext' hblank hdoc hload hedit

/-- A word at a place in the first line. -/
def wordAt (n : Nat) (s : String) : Node := .scalar ⟨n, 0, n⟩ ⟨none, s.toList, .plain⟩

def itemsAt (n : Nat) (ns : List Node) : Node := .sequence ⟨n, 0, n⟩ ns

def entriesAt (n : Nat) (es : List (Node × Node)) : Node := .mapping ⟨n, 0, n⟩ es

/-- A rule, and a job that injects a configuration. -/
def orderedText : String :=
  "\x7bconfig_updater: \x7bmaps: \x7ba: \x7bname: x\x7d\x7d\x7d, periodics: [\x7bname: j, spec: " ++
    "\x7bcontainers: [\x7benv: [\x7bname: CONFIG_SPEC, valueFrom: " ++
    "\x7bconfigMapKeyRef: \x7bkey: k\x7d\x7d\x7d]\x7d]\x7d\x7d]\x7d"

def orderedRoot : Node :=
  entriesAt 0 [
    (wordAt 1 "config_updater", entriesAt 17 [(wordAt 18 "maps", entriesAt 24 [
      (wordAt 25 "a", entriesAt 28 [(wordAt 29 "name", wordAt 35 "x")])])]),
    (wordAt 41 "periodics", itemsAt 52 [entriesAt 53 [
      (wordAt 54 "name", wordAt 60 "j"),
      (wordAt 63 "spec", entriesAt 69 [(wordAt 70 "containers", itemsAt 82 [entriesAt 83 [
        (wordAt 84 "env", itemsAt 89 [entriesAt 90 [
          (wordAt 91 "name", wordAt 97 "CONFIG_SPEC"),
          (wordAt 110 "valueFrom", entriesAt 121 [
            (wordAt 122 "configMapKeyRef", entriesAt 139 [
              (wordAt 140 "key", wordAt 145 "k")])])]])]])])]])]

/-- The same rule and the same job with their keys in another order, and with `note` and
`value_from`, which are no fields. -/
def reorderedText : String :=
  "\x7bperiodics: [\x7bspec: \x7bcontainers: [\x7benv: [\x7bvalue_from: v, valueFrom: " ++
    "\x7bconfigMapKeyRef: \x7bkey: k\x7d\x7d, name: CONFIG_SPEC\x7d]\x7d]\x7d, name: j\x7d], " ++
    "config_updater: \x7bmaps: \x7ba: \x7bnote: v, name: x\x7d\x7d\x7d\x7d"

def reorderedRoot : Node :=
  entriesAt 0 [
    (wordAt 1 "periodics", itemsAt 12 [entriesAt 13 [
      (wordAt 14 "spec", entriesAt 20 [(wordAt 21 "containers", itemsAt 33 [entriesAt 34 [
        (wordAt 35 "env", itemsAt 40 [entriesAt 41 [
          (wordAt 42 "value_from", wordAt 54 "v"),
          (wordAt 57 "valueFrom", entriesAt 68 [
            (wordAt 69 "configMapKeyRef", entriesAt 86 [(wordAt 87 "key", wordAt 92 "k")])]),
          (wordAt 97 "name", wordAt 103 "CONFIG_SPEC")]])]])]),
      (wordAt 121 "name", wordAt 127 "j")]]),
    (wordAt 132 "config_updater", entriesAt 148 [(wordAt 149 "maps", entriesAt 155 [
      (wordAt 156 "a", entriesAt 159 [
        (wordAt 160 "note", wordAt 166 "v"), (wordAt 169 "name", wordAt 175 "x")])])])]

lemma text?_wordAt (n : Nat) (s : String) : (wordAt n s).text? = some s := by
  simp [wordAt, Node.text?]

lemma RuleSet.allows_reorderedRoot : RuleSet.edit.Allows orderedRoot reorderedRoot := by
  refine .record (.put rfl (text?_wordAt _ _) rfl
    (.edit rfl (text?_wordAt _ _) (text?_wordAt _ _) ?updater (.take rfl (text?_wordAt _ _) .nil)))
  refine .record (.edit rfl (text?_wordAt _ _) (text?_wordAt _ _) (.map ?nodup ?rules) .nil)
  case nodup => simp [named, text?_wordAt]
  case rules =>
    refine .edit rfl (text?_wordAt _ _) (text?_wordAt _ _) (.record ?_) .nil
    exact .put rfl (text?_wordAt _ _) rfl
      (.edit rfl (text?_wordAt _ _) (text?_wordAt _ _) .scalar .nil)

lemma JobConfig.allows_reorderedRoot : JobConfig.edit.Allows orderedRoot reorderedRoot := by
  refine .record (.take rfl (text?_wordAt _ _) (.edit rfl (text?_wordAt _ _) (text?_wordAt _ _)
    (.list (.cons ?job .nil)) (.put rfl (text?_wordAt _ _) rfl .nil)))
  refine .record (.perm (.swap _ _ _) (.edit rfl (text?_wordAt _ _) (text?_wordAt _ _) ?spec
    (.edit rfl (text?_wordAt _ _) (text?_wordAt _ _) .scalar .nil)))
  refine .record (.edit rfl (text?_wordAt _ _) (text?_wordAt _ _) (.list (.cons ?container .nil))
    .nil)
  refine .record (.edit rfl (text?_wordAt _ _) (text?_wordAt _ _) (.list (.cons ?env .nil)) .nil)
  refine .record (.put rfl (text?_wordAt _ _) rfl (.perm (.swap _ _ _)
    (.edit rfl (text?_wordAt _ _) (text?_wordAt _ _) ?source
      (.edit rfl (text?_wordAt _ _) (text?_wordAt _ _) .scalar .nil))))
  refine .record (.edit rfl (text?_wordAt _ _) (text?_wordAt _ _) (.record ?key) .nil)
  exact .edit rfl (text?_wordAt _ _) (text?_wordAt _ _) .scalar .nil

/-- Two files with the same rule and the same job. -/
def reorderedFiles : FileSystem where
  workDir := []
  entries := [(["a"], .file (some orderedText)), (["b"], .file (some reorderedText))]

/-- Both files hold the same rule and the same reference to a configuration. -/
theorem load_reorderedFiles :
    (∃ rules, rules ≠ ∅ ∧ reorderedFiles.loadRules "/a" = .ok rules ∧
      reorderedFiles.loadRules "/b" = .ok rules) ∧
    ∃ c c', reorderedFiles.loadJobs "/a" = .ok c ∧ reorderedFiles.loadJobs "/b" = .ok c' ∧
      c'.references "jobs.yaml" = c.references "jobs.yaml" ∧ c.references "jobs.yaml" ≠ [] := by
  have htext : reorderedFiles.readText "/a" = .ok orderedText := by decide +kernel
  have htext' : reorderedFiles.readText "/b" = .ok reorderedText := by decide +kernel
  -- each text is loaded once
  obtain ⟨hroot, hblank, hrules, hjobs⟩ :
      (Document.load orderedText.toList).root.same orderedRoot = true ∧
      Text.allBlank orderedText.toList = false ∧
      RuleSet.reader.readText orderedText.toList = .ok (.ofList [("a", ⟨"x", ∅, none⟩)]) ∧
      JobConfig.reader.readText orderedText.toList = .ok ⟨∅, ∅,
        [⟨"j", some ⟨[⟨[⟨"CONFIG_SPEC", some ⟨some ⟨"", "k"⟩⟩⟩]⟩]⟩⟩]⟩ := by
    decide +kernel
  obtain ⟨hroot', hblank', hfault, hfollowed⟩ :
      (Document.load reorderedText.toList).root.same reorderedRoot = true ∧
      Text.allBlank reorderedText.toList = false ∧
      (Document.load reorderedText.toList).fault = none ∧
      (Document.load reorderedText.toList).followed = false := by
    decide +kernel
  have hloadRules : reorderedFiles.loadRules "/a" = .ok (.ofList [("a", ⟨"x", ∅, none⟩)]) := by
    rw [FileSystem.loadRules, if_pos (FileSystem.isFile_of_readText htext)]
    exact FileSystem.load_of_readText htext hblank hrules
  have hallows : RuleSet.edit.AllowsText orderedText reorderedText ∧
      JobConfig.edit.AllowsText orderedText reorderedText := by
    rw [Edit.AllowsText, Edit.AllowsText, Node.eq_of_same hroot, Node.eq_of_same hroot']
    exact ⟨RuleSet.allows_reorderedRoot, JobConfig.allows_reorderedRoot⟩
  obtain ⟨hsame, hsame'⟩ := load_of_edited htext htext' hblank ⟨hblank', hfault, hfollowed⟩
  have hloadRules' := (hsame _ hloadRules).2 hallows.1
  have hloadJobs : reorderedFiles.loadJobs "/a" = .ok _ :=
    FileSystem.load_of_readText htext hblank hjobs
  obtain ⟨c', hc', hreferences⟩ := (hsame' _ hloadJobs).2 hallows.2
  exact ⟨⟨_, by decide, hloadRules, hloadRules'⟩, _, c', hloadJobs, hc', hreferences _, by decide⟩

end ShardCheck
