import ShardCheck.FileSystem

/-!
# Walking a directory

A walk goes through a directory and all below it, entries of a directory in the order of their
names, links followed. It stops at the first link that leads nowhere, at the first that leads back
to a directory it is inside of, and at the first directory whose path is too long to open. Every
link on the way down therefore leads to a new directory, which bounds the depth.
-/

namespace ShardCheck

/-- Why a walk stops, with the path it stops at. -/
inductive WalkFault where
  | unreachable (path : String) (fault : IoFault)
  | cycle (path ancestor : String)
  deriving Repr, DecidableEq

namespace WalkFault

def path : WalkFault → String
  | .unreachable p _ => p
  | .cycle p _ => p

def message : WalkFault → String
  | .unreachable p f => "IO error for operation on " ++ p ++ ": " ++ f.message
  | .cycle p a => "File system loop found: " ++ p ++ " points to an ancestor " ++ a

end WalkFault

namespace FileSystem

/-- A directory that the walk is inside of: the path by which it came there, and its location. -/
abbrev Ancestor := String × Location

/-- The innermost directory among those with the given location. -/
def ancestor? (ancestors : List Ancestor) (l : Location) : Option String :=
  (ancestors.find? (·.2 == l)).map (·.1)

/-- The files that an entry stands for. `stack` holds the directories that the walk is inside of,
innermost first, and `below` lists the files below the first of some directories. -/
def filesAt (fs : FileSystem) (stack : List Ancestor)
    (below : List Ancestor → Except WalkFault (List String)) (path : String) (l : Location) :
    Entry → Except WalkFault (List String)
  | .file _ => .ok [path]
  | .dir =>
    if maxPath < path.utf8ByteSize then .error (.unreachable path .nameTooLong)
    else below ((path, l) :: stack)
  | .link _ =>
    match fs.resolve path with
    | .error f => .error (.unreachable path f)
    | .ok (target, .dir) =>
      match ancestor? stack target with
      | some a => .error (.cycle path a)
      | none => below ((path, target) :: stack)
    | .ok _ => .ok [path]

/-- The files below a directory in walking order. The stack holds the directory itself and those
around it, innermost first. -/
def filesBelow (fs : FileSystem) : Nat → List Ancestor → Except WalkFault (List String)
  | 0, _ => .ok []
  | _ + 1, [] => .ok []
  | fuel + 1, (path, l) :: outer =>
    (fs.children l).entries.foldlM (fun files (name, e) => do
      let found ← fs.filesAt ((path, l) :: outer) (filesBelow fs fuel) (Path.join path name)
        (l ++ [name]) e
      return files ++ found) []

/-- A bound on the depth of a walk: between two links a walk descends through the tree, and the
links lead to different directories. -/
def walkDepth (fs : FileSystem) : Nat := (fs.entries.length + 2) * (fs.entries.length + 2)

def walk (fs : FileSystem) (dir : String) : Except WalkFault (List String) :=
  match fs.resolve dir with
  | .ok (l, .dir) => fs.filesBelow fs.walkDepth [(dir, l)]
  | .ok _ => .ok [dir]
  | .error f => .error (.unreachable dir f)

end FileSystem

end ShardCheck
