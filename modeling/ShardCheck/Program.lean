import ShardCheck.Glob
import ShardCheck.Options
import ShardCheck.Validate

/-!
# The program

A run of the whole program: what it writes and the exit code that it ends with. Help and version go
to the standard output, everything else to the error output.
-/

namespace ShardCheck

/-- What a run of the program leaves behind. -/
structure ProgramResult where
  exitCode : Nat
  output : String
  errors : String
  deriving Repr, DecidableEq

namespace ProgramResult

def unlines (ls : List String) : String := String.join (ls.map (· ++ "\n"))

/-- The result for a command line that cannot be used, or that only asks for help. -/
def ofStop (s : UsageStop) : ProgramResult :=
  if s.isAnswer then ⟨0, s.text, ""⟩ else ⟨2, "", s.text⟩

def errorEvent (e : RunError) : LogEvent := ⟨.error, e.message, []⟩

def ofRun (level : LogLevel) : Except Halt Unit × List LogEvent → ProgramResult
  | (.ok (), events) => ⟨0, "", unlines (writtenLog level events)⟩
  | (.error (.error e), events) => ⟨1, "", unlines (writtenLog level (events ++ [errorEvent e]))⟩
  | (.error (.crash reason), events) =>
    ⟨101, "", unlines (writtenLog level events ++ [reason])⟩

end ProgramResult

def runProgram (fs : FileSystem) (args : List String) : ProgramResult :=
  match Arguments.parse args with
  | .error stop => .ofStop stop
  | .ok arguments =>
    match arguments.check fs with
    | .error e => ⟨1, "", "Error: Invalid options: " ++ e.message ++ "\n"⟩
    | .ok options =>
      .ofRun options.logLevel (validate fs Glob.matcherFor options.releaseRepoDir).result

end ShardCheck
