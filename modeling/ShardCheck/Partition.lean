import ShardCheck.Matcher
import ShardCheck.Outcome

/-!
# The partition of the files

Every file has to match the pattern of exactly one rule, the one that fills the config map it
belongs to. Apart from the files, no rule may use the default cluster alias, and a rule for job
configurations has to compress.

The rules are tried in the order of their patterns, and what is found joins what was found before.
-/

namespace ShardCheck

namespace Partition

/-! ### Rules -/

/-- Checks one rule. A rule is for job configurations if its pattern matches the job tree. -/
def checkRule (matches? : Matcher) (found : Outcome) : String × Bundle → Outcome
  | (glob, b) =>
    let found :=
      if b.hasAlias Bundle.defaultAlias then found ++ .ofFailure (.defaultClusterAlias glob b.name)
      else found
    match matches? glob Layout.jobTreePath with
    | .error e => found ++ .ofFailure (.jobConfigProbeFailed glob e.message)
    | .ok true =>
      if b.gzipEnabled then found else found ++ .ofFailure (.jobConfigGzipDisabled glob b.name)
    | .ok false => found

def checkRules (rules : RuleSet) (matches? : Matcher) : Outcome :=
  rules.entries.foldl (checkRule matches?) ∅

/-! ### Files -/

/-- A file while the rules are tried on it: the config map of the first rule that matched it, and
what was found so far. -/
structure Trial where
  first : Option String
  found : Outcome

/-- Tries a rule on a file. A match after the first one is one too many, and every match has to
fill the right config map. A pattern that cannot be tried does not match. -/
def Trial.next (matches? : Matcher) (r : PathRecord) (t : Trial) : String × Bundle → Trial
  | (glob, b) =>
    match matches? glob r.path with
    | .error e => { t with found := t.found ++ .ofWarning ⟨r.path, glob, e.message⟩ }
    | .ok false => t
    | .ok true =>
      let found :=
        match t.first with
        | some first => t.found ++ .ofFailure (.ambiguousMatch r.path glob first b.name)
        | none => t.found
      let found :=
        if b.name == r.bundle then found
        else found ++ .ofFailure (.unexpectedBundle r.path glob b.name r.bundle)
      ⟨some (t.first.getD b.name), found⟩

def checkPath (rules : RuleSet) (matches? : Matcher) (found : Outcome) (r : PathRecord) : Outcome :=
  let t := rules.entries.foldl (Trial.next matches? r) ⟨none, found⟩
  if t.first.isNone then t.found ++ .ofFailure (.uncovered r.path) else t.found

def checkPaths (records : List PathRecord) (rules : RuleSet) (matches? : Matcher) : Outcome :=
  records.foldl (checkPath rules matches?) ∅

/-- Checks the rules, and then the files. -/
def check (records : List PathRecord) (rules : RuleSet) (matches? : Matcher) : Outcome :=
  checkRules rules matches? ++ checkPaths records rules matches?

end Partition

end ShardCheck
