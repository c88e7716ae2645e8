import Mathlib.Order.MinMax
import Mathlib.Tactic.Common
import ShardCheck.Proofs.Partition
import ShardCheck.Proofs.Repository
import ShardCheck.Glob

/-!
# Patterns beyond the limits

A glob that cannot be used is an error like any other, with one exception: no rule for patterns
keeps the bounds of repetitions and the nesting of groups within what can be compiled, and a glob
beyond these limits ends the program. It does so whatever the path is. When no pattern of the rules
is beyond the limits, the checks run to their end, and each pattern that cannot be used is reported
with its rule.
-/

namespace ShardCheck

namespace Glob

/-! ### Great bounds -/

/-- A glob that cannot be used gives an error with the glob and the reason. -/
lemma matcher_eq_error {glob : String} {fault : Fault} (h : compile glob = .error fault)
    (path : String) : matcher glob path = .error ⟨glob, fault.reason⟩ := by
  rw [matcher, isMatch, h]
  rfl

end Glob

end ShardCheck
