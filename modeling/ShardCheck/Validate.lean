import ShardCheck.Injection
import ShardCheck.Partition
import ShardCheck.Report

/-!
# Validation of a repository

The rules and both trees are read, in this order, and checked. Then the findings are logged and the
run ends with the verdict on them.
-/

namespace ShardCheck

def RuleSet.matcher (rules : RuleSet) (source : MatcherSource) : Run Matcher :=
  match source rules.keys with
  | .ok m => pure m
  | .error reason => throw (.crash reason)

def validateRepo (fs : FileSystem) (source : MatcherSource) (root : String) : Run Outcome := do
  let rules ← liftM (fs.loadRules (Layout.pluginConfig root))
  let configs ← ConfigInventory.build fs root (Layout.configTree root)
  let jobs ← JobInventory.build fs root (Layout.jobTree root)
  Run.log .info "Loaded release repository."
    [("rules", .number rules.size), ("configs", .number configs.records.length),
      ("jobs", .number jobs.records.length), ("injections", .number jobs.injections.length)]
  let matches? ← rules.matcher source
  return Partition.check (configs.records ++ jobs.records) rules matches? ++
    Injection.check jobs.injections configs.index

def validate (fs : FileSystem) (source : MatcherSource) (root : String) : Run Unit := do
  let outcome ← validateRepo fs source root
  outcome.emit
  outcome.verdict

end ShardCheck
