import ShardCheck.Program

/-!
# The command line

Takes a picture of the directory that the options name, and of what its links lead to, and runs the
program on it. Only configuration files are read.
-/

namespace ShardCheck.Picture

/-- The location that a path leads to from a directory, links aside. -/
def locationFrom (dir : Location) (path : String) : Location :=
  ((Path.segments path).filter Path.isName).foldl
    (fun l name => if name == ".." then l.dropLast else l ++ [name])
    (if Path.isAbsolute path then [] else dir)

def locationOf (path : String) : Location := locationFrom [] path

def directoriesTo (l : Location) : List (Location × Entry) :=
  (List.range (l.length + 1)).map fun n => (l.take n, .dir)

def readFile (path : String) : IO Entry := do
  if Path.extension? path == some "yaml" then
    return .file (String.fromUTF8? (← IO.FS.readBinFile path))
  return .file (some "")

/-- The absolute path that a link leads to, or nothing if the link is broken. -/
def readLink (path : String) : IO (Option String) := do
  try
    let _ ← IO.FS.Handle.mk path .read
    return some (← IO.FS.realPath path).toString
  catch _ => return none

/-- Adds what is at an absolute path, with all below it, to a picture. -/
partial def add (seen : List (Location × Entry)) (path : String) :
    IO (List (Location × Entry)) := do
  let place := locationOf path
  if seen.any fun x => x.1 == place && x.2 != .dir then return seen
  let real ← IO.FS.realPath path
  if (← real.isDir) && real.toString == path then
    let mut all := (place, .dir) :: seen
    for e in ← real.readDir do
      all ← addChild all (path ++ "/" ++ e.fileName)
    return all
  return (place, ← readFile path) :: seen
where
  /-- Adds an entry of a directory. A link brings with it what it leads to, unless that is in the
  picture. -/
  addChild (seen : List (Location × Entry)) (path : String) : IO (List (Location × Entry)) := do
    let place := locationOf path
    match ← readLink path with
    | none => return (place, .link "") :: seen
    | some target =>
      if target == path then add seen path
      else
        let seen := (place, .link target) :: seen
        if seen.any fun x => (locationOf target).isPrefixOf x.1 then return seen
        add (directoriesTo (locationOf target).dropLast ++ seen) target

/-- The file system as far as a run with the given options sees it. -/
def take (args : List String) : IO FileSystem := do
  let workDir := locationOf (← IO.currentDir).toString
  let entries := directoriesTo workDir
  match Arguments.parse args with
  | .ok ⟨some dir, _⟩ =>
    match ← readLink dir with
    | none => return ⟨entries, workDir⟩
    | some real =>
      let entries ← add (directoriesTo (locationOf real) ++ entries) real
      let given := locationFrom workDir dir
      let shortcut := if given == locationOf real then [] else [(given, Entry.link real)]
      return ⟨directoriesTo given.dropLast ++ shortcut ++ entries, workDir⟩
  | _ => return ⟨entries, workDir⟩

end ShardCheck.Picture

def main (args : List String) : IO UInt32 := do
  let r := ShardCheck.runProgram (← ShardCheck.Picture.take args) args
  IO.print r.output
  IO.eprint r.errors
  return r.exitCode.toUInt32
