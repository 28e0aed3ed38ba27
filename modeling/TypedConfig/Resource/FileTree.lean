import TypedConfig.Resource.Files
import TypedConfig.Resource.Path

/-!
# Trees of files

A tree lists files and directories by their places: the names that lead to them from its top, or
from the root of all files. A directory is there when it is listed or when something is listed
below it. `FileTree.files` follows a path name by name, as a file system does: nothing can be found
below a file, and a path may go up again. What lies above the top are directories, of whose other
members nothing is known.
-/

namespace TypedConfig

/-- What stands at a place of a tree. -/
inductive FileEntry where
  | text (content : Text)
  /-- A file whose bytes are no text. -/
  | data
  | directory
  deriving DecidableEq

/-- The entries of a tree under their places. -/
abbrev FileTree := List (List Text × FileEntry)

namespace FileTree

/-- The number of bytes that a name may have. -/
def nameLimit : Nat := 255

/-- The number of bytes that a path may have. -/
def pathLimit : Nat := 4095

/-! ### Places -/

/-- The first name of the places that an absolute path leads to. -/
def root : Text := "/"

/-- The name of the way up. -/
def upward : Text := ".."

/-- The place that a name leads to. At the root the way up leads nowhere else. -/
def step (place : List Text) (name : Text) : List Text :=
  if name = [] || name = ['.'] then place
  else if name = upward then
    match place.getLast? with
    | none => [upward]
    | some last =>
      if last = upward then place ++ [upward] else if last = root then place else place.dropLast
  else place ++ [name]

/-- The place at which a path starts. -/
def start (path : Text) : List Text := if Path.isAbsolute path then [root] else []

/-- A tree with an entry where the names lead, and with the directories on the way to it. -/
def addAt (entry : FileEntry) (tree : FileTree) : (place : List Text) → List Text → FileTree
  | place, [] => tree ++ [(place, entry)]
  | place, name :: names => addAt entry (tree ++ [(place, .directory)]) (step place name) names

/-- A tree with an entry at a path, in place of an earlier file. -/
def add (tree : FileTree) (path : Text) (entry : FileEntry) : FileTree :=
  addAt entry tree (start path) (path.splitOn '/')

/-- The files and directories at hand on every system. -/
def common : FileTree :=
  [([root, "dev".toList, "null".toList], .text [])]
    ++ ["bin", "etc", "home", "lib", "proc", "tmp", "usr", "var"].map fun name =>
      ([root, name.toList], .directory)

/-! ### Reading -/

/-- What stands at a place. -/
def entryAt (tree : FileTree) (place : List Text) : Option FileEntry :=
  match (tree.filter fun entry => entry.1 = place && entry.2 != .directory).getLast? with
  | some (_, entry) => some entry
  | none =>
    if place.all (· = upward) || tree.any fun entry => place.isPrefixOf entry.1 then
      some .directory
    else none

/-- What reading a place gives. -/
def contentAt (tree : FileTree) (place : List Text) : FileContent :=
  match tree.entryAt place with
  | some (.text content) => .text content
  | some _ => .unreadable
  | none => .absent

/-- Follows names from a place. Only a directory has names below it. -/
def follow (tree : FileTree) : (place : List Text) → List Text → FileContent
  | place, [] => tree.contentAt place
  | place, name :: names =>
    match tree.entryAt place with
    | none => .absent
    | some .directory =>
      if nameLimit < name.utf8Length then .unreadable else follow tree (step place name) names
    | some _ => .unreadable

/-- The files of a tree. -/
def files (tree : FileTree) : Files := fun path =>
  if path = [] then .absent
  else if pathLimit < path.utf8Length || path.contains '\x00' then .unreadable
  else follow (tree ++ common) (start path) (path.splitOn '/')

end FileTree

end TypedConfig
