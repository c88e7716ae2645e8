import ShardCheck.Glob.Limits
import ShardCheck.Glob.Meaning
import ShardCheck.Glob.ProgramSize
import ShardCheck.Glob.Violation
import ShardCheck.Matcher

/-!
# Globs

A glob is compiled to a regular expression, and a path matches it if it matches the expression as a
whole. Compiling comes first, so what is wrong with a glob does not depend on the path.
-/

namespace ShardCheck.Glob

/-- Why a glob cannot be used. -/
inductive Fault where
  /-- The text is no glob. -/
  | unreadable
  | malformed (v : Violation)
  /-- The program for the glob is too large. -/
  | oversized
  /-- The glob is beyond a limit that no rule guards. This is no error but the end of the
  program. -/
  | crash
  deriving Repr, DecidableEq

def Fault.reason : Fault → String
  | .unreadable => "failed to parse glob expression"
  | .malformed v => "malformed glob expression: " ++ v.text
  | .oversized => "failed to compile glob: oversized program"
  | .crash => "failed to compile glob"

def compile (glob : String) : Except Fault Regex :=
  match Pattern.parse? glob with
  | none => .error .unreadable
  | some p =>
    match p.violation? with
    | some v => .error (.malformed v)
    | none =>
      if withinLimits p then
        if p.regex.fits then .ok p.regex else .error .oversized
      else .error .crash

def isMatch (glob path : String) : Except Fault Bool :=
  (compile glob).map fun r => r.accepts path.toList

/-- The glob ends the program. -/
def crashes (glob : String) : Bool :=
  match compile glob with
  | .error .crash => true
  | _ => false

/-- The matcher of globs that do not end the program. -/
def matcher : Matcher := fun glob path =>
  (isMatch glob path).mapError fun f => ⟨glob, f.reason⟩

/-- The matcher of globs, unless one of them ends the program. -/
def matcherFor : MatcherSource := fun globs =>
  if globs.any crashes then .error Fault.crash.reason else .ok matcher

end ShardCheck.Glob
