import ShardCheck.Outcome

/-!
# The report on an outcome

Every warning and every failure becomes a log event, warnings first. The verdict on an outcome is
good exactly if there is no failure.
-/

namespace ShardCheck

def Warning.event (w : Warning) : LogEvent :=
  ⟨.warn, w.message,
    [("source_file", .shown w.sourceFile), ("glob", .shown w.glob), ("error", .shown w.reason)]⟩

def SourceLocation.fields (l : SourceLocation) : List (String × FieldValue) :=
  [("source_file", .shown l.sourceFile), ("job_kind", .shown l.jobKind.text),
    ("job", .shown l.job), ("container", .number l.container)]

def Failure.fields : Failure → List (String × FieldValue)
  | .defaultClusterAlias glob bundle | .jobConfigGzipDisabled glob bundle =>
    [("glob", .shown glob), ("config_map", .shown bundle)]
  | .jobConfigProbeFailed glob _ => [("glob", .shown glob)]
  | .ambiguousMatch sourceFile glob _ _ | .unexpectedBundle sourceFile glob _ _ =>
    [("source_file", .shown sourceFile), ("glob", .shown glob)]
  | .uncovered sourceFile => [("source_file", .shown sourceFile)]
  | .unknownConfigKey location key => location.fields ++ [("key", .shown key)]
  | .wrongInjectedBundle location key got expected =>
    location.fields ++ [("key", .shown key), ("got", .shown got), ("expected", .shown expected)]

def Failure.event (f : Failure) : LogEvent := ⟨.error, f.message, f.fields⟩

namespace Outcome

def events (o : Outcome) : List LogEvent :=
  o.warnings.map Warning.event ++ o.failures.map Failure.event

def emit (o : Outcome) : Run Unit := modify (· ++ o.events)

def verdict (o : Outcome) : Run Unit :=
  if o.isClean then
    Run.log .info "All configurations belong to the correct auto-updating config."
      [("warnings", .number o.warnings.length)]
  else throw (.error (.validationFailed o.failures.length))

end Outcome

end ShardCheck
