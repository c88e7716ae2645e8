import Mathlib.Tactic.Common
import ShardCheck.Program
import ShardCheck.Proofs.Verdict

/-!
# What the report tells

The events of the findings tell them apart: two failures with one event are the same finding. The
last event of a run sums it up. It counts the failures if there are any, and if the repository could
not be read it has the path at which reading stopped and the reason.
-/

namespace ShardCheck

/-! ### Lines -/

namespace LogEvent

/-- A printable character of ASCII. -/
def isPlain (c : Char) : Bool := ' ' ≤ c && c ≤ '~'

lemma escapeChar_of_isPlain {c : Char} (h : isPlain c = true) : escapeChar c = [c] := by
  obtain ⟨hlow, hhigh⟩ : 0x20 ≤ c.toNat ∧ c.toNat ≤ 0x7e := by
    simpa [isPlain, Char.le_def, UInt32.le_iff_toNat_le] using h
  have hne : ∀ d : Char, d.toNat < 0x20 ∨ 0x7e < d.toNat → (c == d) = false := by
    intro d hd
    refine beq_eq_false_iff_ne.2 fun heq => ?_
    subst heq
    omega
  have hlarge : ¬ 0x80 ≤ c.toNat := by omega
  simp [escapeChar, hne, hlarge]

/-- A message of printable characters is written as it is. -/
lemma escape_of_isPlain {s : String} (h : s.toList.all isPlain = true) : escape s = s := by
  have hchars : ∀ cs : List Char, cs.all isPlain = true → cs.flatMap escapeChar = cs := by
    intro cs hcs
    induction cs with
    | nil => rfl
    | cons c cs ih =>
      rw [List.all_cons, Bool.and_eq_true] at hcs
      rw [List.flatMap_cons, escapeChar_of_isPlain hcs.1, ih hcs.2]
      rfl
  rw [escape, hchars _ h, String.ofList_toList]

lemma isPlain_toString (n : Nat) : (toString n).toList.all isPlain = true := by
  have hdigits : (toString n).toList = Nat.toDigits 10 n := Nat.toList_repr
  rw [hdigits, List.all_eq_true]
  intro c hc
  have hdigit := Nat.isDigit_of_mem_toDigits (by decide) (by decide) hc
  simp only [Char.isDigit, Bool.and_eq_true, decide_eq_true_eq] at hdigit
  simp only [isPlain, Bool.and_eq_true, decide_eq_true_eq, Char.le_def]
  constructor
  · exact Nat.le_trans (by decide : (32 : Nat) ≤ 48) hdigit.1
  · exact Nat.le_trans hdigit.2 (by decide : (57 : Nat) ≤ 126)

end LogEvent

/-! ### Findings -/

lemma JobKind.text_injective {k k' : JobKind} (h : k.text = k'.text) : k = k' := by
  cases k <;> cases k' <;> first | rfl | exact absurd h (by decide)

lemma SourceLocation.fields_injective {l l' : SourceLocation} (h : l.fields = l'.fields) :
    l = l' := by
  obtain ⟨file, kind, job, container⟩ := l
  obtain ⟨file', kind', job', container'⟩ := l'
  simp only [fields, List.cons.injEq, Prod.mk.injEq, FieldValue.shown.injEq,
    FieldValue.number.injEq, true_and, and_true] at h
  obtain ⟨rfl, hkind, rfl, rfl⟩ := h
  rw [JobKind.text_injective hkind]

lemma Warning.event_injective {w w' : Warning} (h : w.event = w'.event) : w = w' := by
  obtain ⟨file, glob, reason⟩ := w
  obtain ⟨file', glob', reason'⟩ := w'
  obtain ⟨-, -, hfields⟩ := LogEvent.mk.inj h
  simpa using hfields

namespace Failure

/-- What is told of a failure. Where two config maps are named they stand in one text, which need
not tell the end of the first name. -/
def finding : Failure → Failure
  | .ambiguousMatch sourceFile glob first second =>
    .ambiguousMatch sourceFile glob (first ++ ", " ++ second) ""
  | .unexpectedBundle sourceFile glob matched expected =>
    .unexpectedBundle sourceFile glob (matched ++ " instead of " ++ expected) ""
  | f => f

section Message

variable (sourceFile glob bundle first second matched expected : String)

lemma message_defaultClusterAlias_ne (glob' bundle' : String) :
    (defaultClusterAlias glob bundle).message ≠ (jobConfigGzipDisabled glob' bundle').message := by
  have h : "cluster alias " ++ Bundle.defaultAlias ++
      " is not allowed, please explicitly specify the name of the cluster" ≠
        "gzip must be enabled for job configs" := by decide +kernel
  exact h

lemma message_ambiguousMatch : (ambiguousMatch sourceFile glob first second).message =
    "File matches glob from more than one ConfigMap: " ++ ((first ++ ", " ++ second) ++ ".") := by
  simp only [← String.append_assoc]
  rfl

lemma message_unexpectedBundle : (unexpectedBundle sourceFile glob matched expected).message =
    "File matches glob from unexpected ConfigMap " ++
      ((matched ++ " instead of " ++ expected) ++ ".") := by
  simp only [← String.append_assoc]
  rfl

/-- A file that is matched too often is told from one in the wrong config map. -/
lemma message_ambiguousMatch_ne (sourceFile' glob' : String) :
    (ambiguousMatch sourceFile glob first second).message ≠
      (unexpectedBundle sourceFile' glob' matched expected).message := by
  rw [message_ambiguousMatch, message_unexpectedBundle]
  generalize first ++ ", " ++ second ++ "." = s, matched ++ " instead of " ++ expected ++ "." = s'
  intro h
  have htexts := congrArg String.toList h
  rw [String.toList_append, String.toList_append] at htexts
  -- the openings differ before the shorter one ends
  rcases List.append_eq_append_iff.1 htexts with ⟨rest, hrest, -⟩ | ⟨rest, hrest, -⟩
  · exact absurd (List.prefix_iff_eq_append.1 ⟨rest, hrest.symm⟩) (by decide +kernel)
  · exact absurd (List.prefix_iff_eq_append.1 ⟨rest, hrest.symm⟩) (by decide +kernel)

end Message

/-- The event of a failure tells what was found. -/
lemma finding_eq_of_event_eq {f f' : Failure} (h : f.event = f'.event) :
    f.finding = f'.finding := by
  obtain ⟨-, hmessage, hfields⟩ := LogEvent.mk.inj h
  -- the keys of the fields tell the kind of a failure, but for two pairs that differ in the message
  cases f with
  | defaultClusterAlias glob bundle =>
    cases f' with
    | defaultClusterAlias glob' bundle' => simpa [fields, finding] using hfields
    | jobConfigGzipDisabled glob' bundle' =>
      exact absurd hmessage (message_defaultClusterAlias_ne _ _ _ _)
    | _ => simp [fields, SourceLocation.fields] at hfields
  | jobConfigGzipDisabled glob bundle =>
    cases f' with
    | jobConfigGzipDisabled glob' bundle' => simpa [fields, finding] using hfields
    | defaultClusterAlias glob' bundle' =>
      exact absurd hmessage.symm (message_defaultClusterAlias_ne _ _ _ _)
    | _ => simp [fields, SourceLocation.fields] at hfields
  | jobConfigProbeFailed glob reason =>
    cases f' with
    | jobConfigProbeFailed glob' reason' =>
      have hreason : reason = reason' := (String.append_right_inj _).1 hmessage
      have hglob : glob = glob' := by simpa [fields] using hfields
      rw [hglob, hreason]
    | _ => simp [fields, SourceLocation.fields] at hfields
  | ambiguousMatch sourceFile glob first second =>
    cases f' with
    | ambiguousMatch sourceFile' glob' first' second' =>
      obtain ⟨rfl, rfl⟩ : sourceFile = sourceFile' ∧ glob = glob' := by simpa [fields] using hfields
      rw [message_ambiguousMatch, message_ambiguousMatch, String.append_right_inj,
        String.append_left_inj] at hmessage
      rw [finding, finding, hmessage]
    | unexpectedBundle sourceFile' glob' matched expected =>
      exact absurd hmessage (message_ambiguousMatch_ne _ _ _ _ _ _ _ _)
    | _ => simp [fields, SourceLocation.fields] at hfields
  | unexpectedBundle sourceFile glob matched expected =>
    cases f' with
    | unexpectedBundle sourceFile' glob' matched' expected' =>
      obtain ⟨rfl, rfl⟩ : sourceFile = sourceFile' ∧ glob = glob' := by simpa [fields] using hfields
      rw [message_unexpectedBundle, message_unexpectedBundle, String.append_right_inj,
        String.append_left_inj] at hmessage
      rw [finding, finding, hmessage]
    | ambiguousMatch sourceFile' glob' first second =>
      exact absurd hmessage.symm (message_ambiguousMatch_ne _ _ _ _ _ _ _ _)
    | _ => simp [fields, SourceLocation.fields] at hfields
  | uncovered sourceFile =>
    cases f' with
    | uncovered sourceFile' => simpa [fields, finding] using hfields
    | _ => simp [fields, SourceLocation.fields] at hfields
  | unknownConfigKey location key =>
    cases f' with
    | unknownConfigKey location' key' =>
      obtain ⟨hlocation, hkey⟩ := List.append_inj hfields rfl
      rw [SourceLocation.fields_injective hlocation]
      simpa [finding] using hkey
    | _ => simp [fields, SourceLocation.fields] at hfields
  | wrongInjectedBundle location key got expected =>
    cases f' with
    | wrongInjectedBundle location' key' got' expected' =>
      obtain ⟨hlocation, hrest⟩ := List.append_inj hfields rfl
      rw [SourceLocation.fields_injective hlocation]
      simpa [finding] using hrest
    | _ => simp [fields, SourceLocation.fields] at hfields

end Failure

/-! ### The last event -/

/-- The event that sums up a check. -/
def Outcome.closing (o : Outcome) : LogEvent :=
  if o.failures = [] then
    ⟨.info, "All configurations belong to the correct auto-updating config.",
      [("warnings", .number o.warnings.length)]⟩
  else
    ⟨.error, "Found configurations that do not belong to the correct auto-updating config (" ++
      toString o.failures.length ++ " failures)", []⟩

/-- The event that sums up a bad check gives the number of failures on its line. -/
lemma Outcome.line_closing {o : Outcome} (h : o.failures ≠ []) :
    o.closing.line =
      "ERROR Found configurations that do not belong to the correct auto-updating config (" ++
        toString o.failures.length ++ " failures)" := by
  have hplain : ("Found configurations that do not belong to the correct auto-updating config (" ++
      toString o.failures.length ++ " failures)").toList.all LogEvent.isPlain = true := by
    rw [String.toList_append, String.toList_append, List.all_append, List.all_append,
      LogEvent.isPlain_toString]
    decide +kernel
  rw [closing, if_neg h, LogEvent.line, LogEvent.escape_of_isPlain hplain, List.foldl_nil,
    ← String.append_assoc, ← String.append_assoc]
  have hhead : LogLevel.error.label ++ " " ++
      "Found configurations that do not belong to the correct auto-updating config (" =
        "ERROR Found configurations that do not belong to the correct auto-updating config (" := by
    decide +kernel
  rw [hhead]

/-- The text that tells why a repository could not be read, with the path and the reason. -/
inductive RunError.IsToldBy : RunError → String → Prop where
  | configParseFailed (path reason : String) : IsToldBy (.configParseFailed path reason)
      ("Failed to parse configuration file: " ++ path ++ ": " ++ reason)
  | configReadFailed (path reason : String) : IsToldBy (.configReadFailed path reason)
      ("Failed to read configuration file: " ++ path ++ ": " ++ reason)
  | dirNotFound (path : String) : IsToldBy (.dirNotFound path) ("Directory not found: " ++ path)
  | walkFailed (path reason : String) : IsToldBy (.walkFailed path reason)
      ("Failed to walk directory: " ++ path ++ ": " ++ reason)

end ShardCheck
