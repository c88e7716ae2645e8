import ShardCheck.KeyMap
import ShardCheck.Path

/-!
# File systems

A file system is a finite collection of files, directories and symbolic links, each at a location:
the names on the way from the root. A path is resolved from the left, and a link on the way is
replaced by its target. Of links at most forty are followed.

Names and targets are texts, so every name is valid in UTF-8; only the content of a file need not
be. There are no permissions: every directory can be listed and every file can be read. What is said
elsewhere of the files of a tree, of the walk over them and of its faults relies on both.
-/

namespace ShardCheck

/-- What is at a location. A file without a text holds bytes that are no UTF-8. -/
inductive Entry where
  | file (text : Option String)
  | dir
  | link (target : String)
  deriving Repr, DecidableEq

/-- Why an operation on a path fails. -/
inductive IoFault where
  | notFound
  | notDirectory
  | isDirectory
  | nameTooLong
  | tooManyLinks
  | notUtf8
  deriving Repr, DecidableEq

def IoFault.message : IoFault → String
  | .notFound => "No such file or directory (os error 2)"
  | .notDirectory => "Not a directory (os error 20)"
  | .isDirectory => "Is a directory (os error 21)"
  | .nameTooLong => "File name too long (os error 36)"
  | .tooManyLinks => "Too many levels of symbolic links (os error 40)"
  | .notUtf8 => "stream did not contain valid UTF-8"

/-- The names from the root to an entry. -/
abbrev Location := List String

/-- A file system: its entries other than the root, and the directory that relative paths start
from. -/
structure FileSystem where
  entries : List (Location × Entry)
  workDir : Location

namespace FileSystem

/-! ### Entries -/

/-- What is at a location; the root is a directory. -/
def at? (fs : FileSystem) (l : Location) : Option Entry :=
  if l.isEmpty then some .dir else fs.entries.lookup l

/-- An entry by its name, if it is one of a directory. -/
def childOf? (l : Location) : Location × Entry → Option (String × Entry)
  | (place, e) =>
    match place.getLast? with
    | some name => if place.dropLast == l then some (name, e) else none
    | none => none

/-- The entries of a directory by name. Of two at one location the first counts. -/
def children (fs : FileSystem) (l : Location) : KeyMap Entry :=
  KeyMap.ofList (fs.entries.reverse.filterMap (childOf? l))

def set (fs : FileSystem) (l : Location) (e : Entry) : FileSystem :=
  { fs with entries := (l, e) :: fs.entries.filter (·.1 != l) }

/-- The file system without a location and all below it. -/
def delete (fs : FileSystem) (l : Location) : FileSystem :=
  { fs with entries := fs.entries.filter fun x => !l.isPrefixOf x.1 }

/-! ### Resolving paths -/

/-- The greatest number of links that the resolution of a path follows. -/
def maxLinks : Nat := 40

/-- Bytes that the name of an entry may take. -/
def maxName : Nat := 255

/-- Bytes that a path may take. -/
def maxPath : Nat := 4095

/-- Where the resolution of a path pauses: at its end, or at a link in a directory with segments
left. -/
inductive Stop where
  | found (l : Location) (e : Entry)
  | link (target : String) (dir : Location) (left : List String)

/-- Goes along segments from an entry up to their end or the first link. -/
def follow (fs : FileSystem) : List String → Location → Entry → Except IoFault Stop
  | [], l, e => .ok (.found l e)
  | s :: ss, l, e =>
    if e != .dir then .error .notDirectory
    else if !Path.isName s then follow fs ss l e
    else if s == ".." then follow fs ss l.dropLast .dir
    else if maxName < s.utf8ByteSize then .error .nameTooLong
    else
      match fs.at? (l ++ [s]) with
      | none => .error .notFound
      | some (.link target) => .ok (.link target l ss)
      | some e => follow fs ss (l ++ [s]) e

/-- Goes along segments with at most the given number of links on the way. -/
def resolveFrom (fs : FileSystem) : Nat → List String → Location → Except IoFault (Location × Entry)
  | links, ss, l =>
    match fs.follow ss l .dir with
    | .error f => .error f
    | .ok (.found l e) => .ok (l, e)
    | .ok (.link target dir left) =>
      match links with
      | 0 => .error .tooManyLinks
      | n + 1 =>
        if target == "" then .error .notFound
        else
          resolveFrom fs n (Path.segments target ++ left)
            (if Path.isAbsolute target then [] else dir)

/-- The location and the entry that a path leads to, links followed. -/
def resolve (fs : FileSystem) (p : String) : Except IoFault (Location × Entry) :=
  if p == "" then .error .notFound
  else if maxPath < p.utf8ByteSize then .error .nameTooLong
  else
    fs.resolveFrom maxLinks (Path.segments p) (if Path.isAbsolute p then [] else fs.workDir)

def isDir (fs : FileSystem) (p : String) : Bool :=
  match fs.resolve p with
  | .ok (_, .dir) => true
  | _ => false

def isFile (fs : FileSystem) (p : String) : Bool :=
  match fs.resolve p with
  | .ok (_, .file _) => true
  | _ => false

def readText (fs : FileSystem) (p : String) : Except IoFault String :=
  match fs.resolve p with
  | .error f => .error f
  | .ok (_, .file (some s)) => .ok s
  | .ok (_, .file none) => .error .notUtf8
  | .ok (_, _) => .error .isDirectory

/-! ### Changing entries -/

/-- Makes the directories along segments where nothing is yet, and gives the location they lead
to. -/
def makeDirs (fs : FileSystem) : List String → Location → FileSystem × Location
  | [], l => (fs, l)
  | s :: ss, l =>
    match fs.resolveFrom maxLinks [s] l with
    | .ok (l, _) => makeDirs fs ss l
    | .error _ => makeDirs (fs.set (l ++ [s]) .dir) ss (l ++ [s])

/-- Writes an entry under a directory, with the directories on the way to it. A directory that is
there already keeps its content. -/
def write (fs : FileSystem) (base : Location) (names : List String) (e : Entry) : FileSystem :=
  let (fs, dir) := fs.makeDirs names.dropLast base
  match names.getLast? with
  | none => fs
  | some name =>
    if e == .dir && fs.at? (dir ++ [name]) == some .dir then fs else fs.set (dir ++ [name]) e

/-- Removes what is at a location under a directory, a directory with all its content. -/
def remove (fs : FileSystem) (base : Location) (names : List String) : FileSystem :=
  match names.getLast?, fs.resolveFrom maxLinks names.dropLast base with
  | some name, .ok (dir, _) => fs.delete (dir ++ [name])
  | _, _ => fs

end FileSystem

end ShardCheck
