/-!
# Errors of a run

What ends a run. Every error has a message, a code for tools, and for some a word of help.
-/

namespace ShardCheck

/-- Why a run fails. -/
inductive RunError where
  | missingFlag (flag : String)
  | invalidLogLevel (reason : String)
  | repoNotFound (path : String)
  | configParseFailed (path reason : String)
  | configReadFailed (path reason : String)
  | dirNotFound (path : String)
  | walkFailed (path reason : String)
  | validationFailed (count : Nat)
  deriving Repr, DecidableEq

namespace RunError

def message : RunError → String
  | .missingFlag flag => "required flag --" ++ flag ++ " was unset"
  | .invalidLogLevel reason => "invalid --log-level: " ++ reason
  | .repoNotFound path => "Release repository not found at: " ++ path
  | .configParseFailed path reason =>
    "Failed to parse configuration file: " ++ path ++ ": " ++ reason
  | .configReadFailed path reason =>
    "Failed to read configuration file: " ++ path ++ ": " ++ reason
  | .dirNotFound path => "Directory not found: " ++ path
  | .walkFailed path reason => "Failed to walk directory: " ++ path ++ ": " ++ reason
  | .validationFailed count =>
    "Found configurations that do not belong to the correct auto-updating config (" ++
      toString count ++ " failures)"

def code : RunError → String
  | .missingFlag _ => "shard::options::missing_flag"
  | .invalidLogLevel _ => "shard::options::invalid_log_level"
  | .repoNotFound _ => "shard::options::repo_not_found"
  | .configParseFailed _ _ => "shard::config::parse_failed"
  | .configReadFailed _ _ => "shard::config::read_failed"
  | .dirNotFound _ => "shard::fs::dir_not_found"
  | .walkFailed _ _ => "shard::fs::walk_failed"
  | .validationFailed _ => "shard::validation::failed"

def help? : RunError → Option String
  | .missingFlag _ => none
  | .invalidLogLevel _ =>
    some "Valid levels: panic, fatal, error, warn, warning, info, debug, trace"
  | .repoNotFound _ => some "Point --release-repo-dir at a checkout of the release repository"
  | .validationFailed _ => some "Each failure is logged above with the file and glob involved"
  | _ => none

end RunError

end ShardCheck
