import ShardCheck.CiOperator
import ShardCheck.ConfigUpdater
import ShardCheck.Jobs
import ShardCheck.Layout
import ShardCheck.Log
import ShardCheck.Naming
import ShardCheck.Text.Basic
import ShardCheck.Walk

/-!
# The inventory of a repository

The files of the two trees with the config maps they belong to, and the configurations that jobs
inject. Reading stops at the first directory or file that cannot be read.
-/

namespace ShardCheck

/-! ### What is recorded -/

/-- A file, by its path in the repository, and the config map that it belongs to. -/
structure PathRecord where
  path : String
  bundle : String
  deriving Repr, DecidableEq

/-- The container that a reference stands in. -/
structure SourceLocation where
  sourceFile : String
  jobKind : JobKind
  job : String
  container : Nat
  deriving Repr, DecidableEq

/-- A configuration that a job injects: the key of its file, and the config map that the job names
for it. -/
structure InjectionReference where
  key : String
  bundle : String
  location : SourceLocation
  deriving Repr, DecidableEq

/-- The files of the configuration tree, by key. -/
abbrev ConfigIndex := KeyMap PathRecord

/-- The configuration tree as read. -/
structure ConfigInventory where
  records : List PathRecord
  index : ConfigIndex
  deriving DecidableEq

/-- The job tree as read. -/
structure JobInventory where
  records : List PathRecord
  injections : List InjectionReference
  deriving DecidableEq

instance : Inhabited ConfigInventory := ⟨⟨[], ∅⟩⟩

instance : Inhabited JobInventory := ⟨⟨[], []⟩⟩

def PodSpec.references (spec : PodSpec) (sourceFile : String) (kind : JobKind) (job : String) :
    List InjectionReference :=
  spec.containers.zipIdx.flatMap fun (c, i) =>
    (c.env.filterMap EnvVar.injected?).map fun k => ⟨k.key, k.name, ⟨sourceFile, kind, job, i⟩⟩

def JobConfig.references (c : JobConfig) (sourceFile : String) : List InjectionReference :=
  c.jobsWithSpec.flatMap fun (kind, job, spec) => spec.references sourceFile kind job.name

/-! ### Reading files -/

/-- Reads a configuration. A blank file gives the given empty one. -/
def FileSystem.load {α : Type} (fs : FileSystem) (r : Yaml.Reader α) (empty : α) (path : String) :
    Except RunError α :=
  match fs.readText path with
  | .error f => .error (.configReadFailed path f.message)
  | .ok s =>
    if Text.allBlank s.toList then .ok empty
    else (r.readText s.toList).mapError fun e => .configParseFailed path e.message

/-- Reads the rules, whose file must be there. -/
def FileSystem.loadRules (fs : FileSystem) (path : String) : Except RunError RuleSet :=
  if fs.isFile path then fs.load RuleSet.reader ∅ path
  else .error (.configReadFailed path "file does not exist")

def FileSystem.loadConfig (fs : FileSystem) (path : String) : Except RunError CiOperatorConfig :=
  fs.load CiOperatorConfig.reader CiOperatorConfig.empty path

def FileSystem.loadJobs (fs : FileSystem) (path : String) : Except RunError JobConfig :=
  fs.load JobConfig.reader JobConfig.empty path

/-- The configuration files below a directory in walking order. -/
def FileSystem.yamlFiles (fs : FileSystem) (dir : String) : Except RunError (List String) :=
  if fs.isDir dir then
    match fs.walk dir with
    | .ok files => .ok (files.filter fun p => Path.extension? p == some "yaml")
    | .error f => .error (.walkFailed f.path f.message)
  else .error (.dirNotFound dir)

/-! ### Configurations -/

namespace ConfigInventory

/-- Logs that the metadata of a file name another branch than the file. -/
def logOtherBranch (r : PathRecord) (i : FileInfo) (m : Metadata) : Run Unit :=
  if i.branch == some m.branch then pure ()
  else Run.log .debug "Generated metadata branch differs from the file name."
    [("source_file", .shown r.path), ("org", .shown m.org), ("repo", .shown m.repo),
      ("branch", .shown m.branch), ("variant", .quoted (m.variant.getD ""))]

def logFound (r : PathRecord) (i : FileInfo) : Run Unit :=
  Run.log .debug "Found CI operator configuration."
    [("source_file", .shown r.path), ("bundle", .shown r.bundle),
      ("org", .quoted (i.org.getD "")), ("repo", .quoted (i.repo.getD "")),
      ("variant", .quoted (i.variant.getD ""))]

/-- The inventory with a file more. A later file takes the key of an earlier one. -/
def add (v : ConfigInventory) (i : FileInfo) (r : PathRecord) : ConfigInventory :=
  ⟨v.records ++ [r], v.index.insert i.key r⟩

def readFile (fs : FileSystem) (root tree : String) (v : ConfigInventory) (path : String) :
    Run ConfigInventory := do
  let config ← liftM (fs.loadConfig path)
  let i := FileInfo.ofPath .ciOperator tree path
  let r : PathRecord := ⟨Path.relativeTo root path, i.bundleName⟩
  match config.metadata with
  | some m => logOtherBranch r i m
  | none => pure ()
  logFound r i
  return v.add i r

def build (fs : FileSystem) (root tree : String) : Run ConfigInventory := do
  let files ← liftM (fs.yamlFiles tree)
  files.foldlM (readFile fs root tree) default

end ConfigInventory

/-! ### Jobs -/

namespace JobInventory

def readFile (fs : FileSystem) (root tree : String) (v : JobInventory) (path : String) :
    Run JobInventory := do
  let config ← liftM (fs.loadJobs path)
  let i := FileInfo.ofPath .job tree path
  let r : PathRecord := ⟨Path.relativeTo root path, i.bundleName⟩
  let found := config.references r.path
  Run.log .debug "Found job configuration."
    [("source_file", .shown r.path), ("bundle", .shown r.bundle),
      ("injections", .number found.length)]
  return ⟨v.records ++ [r], v.injections ++ found⟩

def build (fs : FileSystem) (root tree : String) : Run JobInventory := do
  let files ← liftM (fs.yamlFiles tree)
  files.foldlM (readFile fs root tree) default

end JobInventory

end ShardCheck
