/-!
# Matchers

The checks ask only whether a path matches a pattern. A pattern that means nothing is an error, and
what it is depends on the matcher.
-/

namespace ShardCheck

/-- A pattern that cannot be used, with the reason. -/
structure GlobError where
  pattern : String
  reason : String
  deriving Repr, DecidableEq

def GlobError.message (e : GlobError) : String :=
  "invalid glob '" ++ e.pattern ++ "': " ++ e.reason

/-- Whether a path, the second argument, matches a pattern. -/
abbrev Matcher := String → String → Except GlobError Bool

/-- A matcher for the given patterns, or why one of them ends the program. -/
abbrev MatcherSource := List String → Except String Matcher

end ShardCheck
