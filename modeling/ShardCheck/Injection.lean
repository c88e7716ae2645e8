import ShardCheck.Outcome

/-!
# Injected configurations

A job that injects a configuration names a config map for it. The configuration has to exist, and
the config map has to be the one that its file belongs to.
-/

namespace ShardCheck.Injection

def checkReference (index : ConfigIndex) (r : InjectionReference) : Option Failure :=
  match index.get? r.key with
  | none => some (.unknownConfigKey r.location r.key)
  | some record =>
    if r.bundle == record.bundle then none
    else some (.wrongInjectedBundle r.location r.key r.bundle record.bundle)

def check (references : List InjectionReference) (index : ConfigIndex) : Outcome :=
  ⟨references.filterMap (checkReference index), []⟩

end ShardCheck.Injection
