import ShardCheck.Path
import ShardCheck.Text.Basic

/-!
# Names of configuration files

A file of a tree lies at `org/repo/org-repo-branch.yaml`. A variant may follow the branch after two
underscores, and the file of a job has a suffix for the kind of its jobs. The branch picks a flavor
and the flavor the config map that the file belongs to:

* `master` and `main` are flavors of their own;
* a branch of a version 3 has the flavor `3.x`, one of a version 4 that version;
* any other branch, and a file without one, has the flavor `misc`.
-/

namespace ShardCheck

open Text

/-! ### Branches and flavors -/

/-- What may stand before the version in the name of a branch. -/
def versionMarks : List (List Char) :=
  ["release-", "enterprise-", "openshift-"].map String.toList

/-- One digit or more. -/
def isNumber (s : List Char) : Bool := !s.isEmpty && s.all Char.isDigit

/-- The two numbers of a version, written with a point between them. -/
def splitVersion? (s : List Char) : Option (List Char × List Char) := do
  let (major, minor) ← splitFirst? ['.'] s
  if isNumber major && isNumber minor then some (major, minor) else none

/-- The group of branches that share a config map. -/
inductive Flavor where
  | master
  | main
  | three
  | four (version : List Char)
  | misc
  deriving Repr, DecidableEq

namespace Flavor

def text : Flavor → String
  | .master => "master"
  | .main => "main"
  | .three => "3.x"
  | .four version => String.ofList version
  | .misc => "misc"

def ofVersion (version : List Char) : Flavor :=
  match splitVersion? version with
  | some (major, _) =>
    if major == ['3'] then .three
    else if major == ['4'] then .four version
    else .misc
  | none => .misc

def ofBranch (branch : List Char) : Flavor :=
  if branch == "master".toList then .master
  else if branch == "main".toList then .main
  else (versionMarks.findSome? (dropStart? · branch)).elim .misc ofVersion

end Flavor

/-! ### Files -/

/-- The tree that a file belongs to. -/
inductive ConfigKind where
  | ciOperator
  | job
  deriving Repr, DecidableEq

namespace ConfigKind

/-- The suffixes that a tree puts behind branch and variant. -/
def suffixes : ConfigKind → List (List Char)
  | .ciOperator => []
  | .job => ["-presubmits", "-postsubmits", "-periodics"].map String.toList

def bundleName (k : ConfigKind) (f : Flavor) : String :=
  match k with
  | .ciOperator => "ci-operator-" ++ f.text ++ "-configs"
  | .job => "job-config-" ++ f.text

end ConfigKind

/-- A branch and the variant of its configuration. -/
structure BranchName where
  branch : List Char
  variant : Option (List Char)
  deriving Repr, DecidableEq

namespace BranchName

/-- The branch and the variant in the middle part of a file name. -/
def ofMiddle (s : List Char) : BranchName :=
  match splitFirst? ['_', '_'] s with
  | some (branch, variant) => ⟨branch, some variant⟩
  | none => ⟨s, none⟩

/-- The middle part without the suffix of its tree. -/
def dropSuffix (k : ConfigKind) (s : List Char) : List Char :=
  (k.suffixes.findSome? (dropEnd? · s)).getD s

def ofFileName? (k : ConfigKind) (org repo name : List Char) : Option BranchName := do
  let stem ← dropEnd? ".yaml".toList name
  let middle ← dropStart? (org ++ '-' :: repo ++ ['-']) stem
  let b := ofMiddle (dropSuffix k middle)
  if b.branch.isEmpty then none else some b

end BranchName

/-- What the place of a file tells about it. -/
structure FileInfo where
  kind : ConfigKind
  basename : String
  org : Option String
  repo : Option String
  branch : Option String
  variant : Option String
  deriving Repr, DecidableEq

namespace FileInfo

/-- The names on the way from a tree to a file. A file outside the tree counts from its own
start. -/
def namesUnder (tree path : String) : List String :=
  Path.names ((Path.strip? tree path).getD path)

/-- What the place of a file under a tree tells about it. Only files exactly three levels down
carry a branch. -/
def ofPath (k : ConfigKind) (tree path : String) : FileInfo :=
  let basename := (Path.fileName? path).getD ""
  match namesUnder tree path with
  | [org, repo, _] =>
    let b := BranchName.ofFileName? k org.toList repo.toList basename.toList
    { kind := k
      basename := basename
      org := some org
      repo := some repo
      branch := b.map (String.ofList ·.branch)
      variant := (b.bind (·.variant)).map String.ofList }
  | _ => ⟨k, basename, none, none, none, none⟩

def flavor (i : FileInfo) : Flavor :=
  i.branch.elim .misc fun b => Flavor.ofBranch b.toList

def bundleName (i : FileInfo) : String := i.kind.bundleName i.flavor

def key (i : FileInfo) : String := i.basename

end FileInfo

end ShardCheck
