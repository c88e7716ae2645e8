import ShardCheck.Yaml.Reader

/-!
# CI operator configurations

Of a CI operator configuration only the generated metadata are read. They say for which branch of
which repository the file was made.
-/

namespace ShardCheck

/-- Metadata stamped into a configuration. -/
structure Metadata where
  org : String
  repo : String
  branch : String
  variant : Option String
  deriving Repr, DecidableEq

/-- A CI operator configuration. -/
structure CiOperatorConfig where
  metadata : Option Metadata
  deriving Repr, DecidableEq

namespace Metadata

/-- Metadata under construction. -/
structure Draft where
  org : Option String
  repo : Option String
  branch : Option String
  variant : Option (Option String)

/-- Reads metadata, of which every part may be left out. -/
def reader : Yaml.Reader Metadata := fun d path n => do
  let draft ← Yaml.Reader.record "Metadata" (⟨none, none, none, none⟩ : Draft)
    [.once "org" Draft.org (fun s x => { s with org := some x }) .string,
      .once "repo" Draft.repo (fun s x => { s with repo := some x }) .string,
      .once "branch" Draft.branch (fun s x => { s with branch := some x }) .string,
      .once "variant" Draft.variant (fun s x => { s with variant := some x })
        (.optional .string)]
    (fun _ => none) d path n
  return ⟨draft.org.getD "", draft.repo.getD "", draft.branch.getD "", draft.variant.getD none⟩

end Metadata

namespace CiOperatorConfig

/-- The configuration of an empty file. -/
def empty : CiOperatorConfig := ⟨none⟩

def reader : Yaml.Reader CiOperatorConfig := fun d path n => do
  let metadata ← Yaml.Reader.record "CiOperatorConfig" (none : Option (Option Metadata))
    [.once "zz_generated_metadata" id (fun _ x => some x) (.optional Metadata.reader)]
    (fun _ => none) d path n
  return ⟨metadata.getD none⟩

end CiOperatorConfig

end ShardCheck
