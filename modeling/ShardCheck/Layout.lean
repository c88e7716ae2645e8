import ShardCheck.Path

/-!
# The layout of the repository

Where the release repository keeps the plugin configuration and the two trees of configurations.
-/

namespace ShardCheck.Layout

/-- The plugin configuration, from the root of the repository. -/
def pluginConfigPath : String := "core-services/prow/02_config/_plugins.yaml"

/-- The tree of CI operator configurations, from the root of the repository. -/
def configTreePath : String := "ci-operator/config"

/-- The tree of job configurations, from the root of the repository. -/
def jobTreePath : String := "ci-operator/jobs"

def pluginConfig (root : String) : String := Path.join root pluginConfigPath

def configTree (root : String) : String := Path.join root configTreePath

def jobTree (root : String) : String := Path.join root jobTreePath

end ShardCheck.Layout
