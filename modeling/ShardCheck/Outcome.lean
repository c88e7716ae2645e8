import ShardCheck.Inventory

/-!
# What the checks find

Failures make a repository invalid; warnings tell of patterns that could not be tried on a file.
-/

namespace ShardCheck

/-- A violation with all that is needed to locate it. -/
inductive Failure where
  | defaultClusterAlias (glob bundle : String)
  | jobConfigGzipDisabled (glob bundle : String)
  | jobConfigProbeFailed (glob reason : String)
  | ambiguousMatch (sourceFile glob first second : String)
  | unexpectedBundle (sourceFile glob matched expected : String)
  | uncovered (sourceFile : String)
  | unknownConfigKey (location : SourceLocation) (key : String)
  | wrongInjectedBundle (location : SourceLocation) (key got expected : String)
  deriving Repr, DecidableEq

def Failure.message : Failure → String
  | .defaultClusterAlias _ _ =>
    "cluster alias " ++ Bundle.defaultAlias ++
      " is not allowed, please explicitly specify the name of the cluster"
  | .jobConfigGzipDisabled _ _ => "gzip must be enabled for job configs"
  | .jobConfigProbeFailed _ reason => "failed to check if config is a jobconfig: " ++ reason
  | .ambiguousMatch _ _ first second =>
    "File matches glob from more than one ConfigMap: " ++ first ++ ", " ++ second ++ "."
  | .unexpectedBundle _ _ matched expected =>
    "File matches glob from unexpected ConfigMap " ++ matched ++ " instead of " ++ expected ++ "."
  | .uncovered _ => "Config file does not belong to any auto-updating config."
  | .unknownConfigKey _ _ => "Could not find CI Operator configuration file for that key."
  | .wrongInjectedBundle _ _ _ _ =>
    "Invalid config map shard for injected CI-Operator config key."

/-- A pattern that could not be tried on a file. -/
structure Warning where
  sourceFile : String
  glob : String
  reason : String
  deriving Repr, DecidableEq

def Warning.message (_ : Warning) : String := "Failed to check glob match."

/-- The failures and warnings of some checks, in the order in which they were found. -/
structure Outcome where
  failures : List Failure
  warnings : List Warning
  deriving Repr, DecidableEq

namespace Outcome

def empty : Outcome := ⟨[], []⟩

instance : EmptyCollection Outcome := ⟨empty⟩

def append (a b : Outcome) : Outcome := ⟨a.failures ++ b.failures, a.warnings ++ b.warnings⟩

instance : Append Outcome := ⟨append⟩

@[simp] theorem failures_append (a b : Outcome) : (a ++ b).failures = a.failures ++ b.failures :=
  rfl

@[simp] theorem warnings_append (a b : Outcome) : (a ++ b).warnings = a.warnings ++ b.warnings :=
  rfl

@[simp] theorem failures_empty : (∅ : Outcome).failures = [] := rfl

@[simp] theorem warnings_empty : (∅ : Outcome).warnings = [] := rfl

def isClean (o : Outcome) : Bool := o.failures.isEmpty

def ofFailure (f : Failure) : Outcome := ⟨[f], []⟩

def ofWarning (w : Warning) : Outcome := ⟨[], [w]⟩

end Outcome

end ShardCheck
