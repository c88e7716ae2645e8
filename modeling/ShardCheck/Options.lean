import ShardCheck.FileSystem
import ShardCheck.Log
import ShardCheck.Options.Usage

/-!
# Options

The options of a run as given on the command line, and as checked: the directory has to be there,
and the level has to be one.
-/

namespace ShardCheck

/-- The options as given. -/
structure Arguments where
  releaseRepoDir : Option String
  logLevel : String
  deriving Repr, DecidableEq

/-- Reads the command line. Without a level it is `info`. -/
def Arguments.parse (args : List String) : Except UsageStop Arguments := do
  let s ← ArgumentState.takeAll args .start
  return ⟨s.releaseRepoDir, s.logLevel.getD "info"⟩

/-- The options of a run. -/
structure Options where
  releaseRepoDir : String
  logLevel : LogLevel
  deriving Repr, DecidableEq

/-- Checks the options: first that the directory is given, then the level, then that the directory
is there. -/
def Arguments.check (a : Arguments) (fs : FileSystem) : Except RunError Options := do
  let dir ←
    match a.releaseRepoDir.filter (· != "") with
    | some dir => pure dir
    | none => throw (.missingFlag "release-repo-dir")
  let level ← LogLevel.parse a.logLevel
  if fs.isDir dir then return ⟨dir, level⟩ else throw (.repoNotFound dir)

end ShardCheck
