import ShardCheck.Yaml.Reader

/-!
# Rules of the config updater

The plugin configuration tells for glob patterns over the repository into which config map the
matching files go. Only that part of it is read; everything else in the file is passed over.
-/

namespace ShardCheck

/-- The config map that a rule fills: its name, the namespaces by cluster alias, and whether its
content is compressed. -/
structure Bundle where
  name : String
  clusters : KeyMap (Option (List String))
  gzip : Option Bool
  deriving DecidableEq

namespace Bundle

/-- The alias that no rule may use. -/
def defaultAlias : String := "default"

def hasAlias (b : Bundle) (name : String) : Bool := b.clusters.contains name

/-- The content is compressed; without a word on it, it is not. -/
def gzipEnabled (b : Bundle) : Bool := b.gzip.getD false

end Bundle

/-- The rules: bundles by glob pattern. -/
abbrev RuleSet := KeyMap Bundle

/-! ### Reading -/

namespace Bundle

/-- A bundle under construction. -/
structure Draft where
  name : Option String
  clusters : Option (KeyMap (Option (List String)))
  gzip : Option (Option Bool)

/-- Reads a bundle, which must have a name. -/
def reader : Yaml.Reader Bundle := fun d path n => do
  let draft ← Yaml.Reader.record "BundleDescriptor" (⟨none, none, none⟩ : Draft)
    [.once "name" Draft.name (fun s x => { s with name := some x }) .string,
      .once "clusters" Draft.clusters (fun s x => { s with clusters := some x })
        (.map (.optional (.list .string))),
      .once "gzip" Draft.gzip (fun s x => { s with gzip := some x }) (.optional .bool)]
    (fun s => if s.name.isNone then some "name" else none) d path n
  return ⟨draft.name.getD "", draft.clusters.getD ∅, draft.gzip.getD none⟩

end Bundle

namespace RuleSet

/-- Reads the part of the configuration that maps patterns to bundles. -/
def updaterReader : Yaml.Reader RuleSet := fun d path n => do
  let maps ← Yaml.Reader.record "ConfigUpdater" (none : Option RuleSet)
    [.once "maps" id (fun _ x => some x) (.map Bundle.reader)] (fun _ => none) d path n
  return maps.getD ∅

/-- Reads the rules out of a plugin configuration. -/
def reader : Yaml.Reader RuleSet := fun d path n => do
  let updater ← Yaml.Reader.record "PluginConfig" (none : Option RuleSet)
    [.once "config_updater" id (fun _ x => some x) updaterReader] (fun _ => none) d path n
  return updater.getD ∅

end RuleSet

end ShardCheck
