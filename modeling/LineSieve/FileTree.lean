import LineSieve.Files

/-!
# Trees of files

Directories and files as a tree, and how paths are looked up in it. Every part of a path but the
last must lead to a directory; a step up leads to the directory above.

* `FileTree.insert`: a tree with one file or directory more, with the directories above it.
* `FileTree.find`: the file or directory at a path, or the error of the system.
-/

namespace LineSieve

inductive FileNode where
  | file (content : Bytes)
  | directory (entries : List (String × FileNode))

namespace FileNode

def entry? (name : String) : FileNode → Option FileNode
  | file _ => none
  | directory entries => entries.lookup name

/-- Puts `node` at a path below a directory. What is in the way of the path is replaced. -/
def insert (node : FileNode) : List String → FileNode → FileNode
  | [], _ => node
  | name :: path, dir =>
    let entries := match dir with
      | directory entries => entries
      | file _ => []
    let below := (entries.lookup name).getD (directory [])
    directory ((name, insert node path below) :: entries.filter fun e => e.1 ≠ name)

def toEntry : FileNode → FileEntry
  | file content => .file content
  | directory _ => .directory

end FileNode

/-- A tree of files and the directory, an absolute path in it, from which relative paths start. -/
structure FileTree where
  root : FileNode
  workingDirectory : String

namespace FileTree

def nameLimit : Nat := 255

def pathLimit : Nat := 4096

def ofDirectory (workingDirectory : String) : FileTree :=
  ⟨FileNode.insert (.directory []) (Path.components workingDirectory) (.directory []),
    workingDirectory⟩

def insert (t : FileTree) (path : String) (node : FileNode) : FileTree :=
  { t with root := node.insert (Path.components (Path.join t.workingDirectory path)) t.root }

/-- Follows the parts of a path from `node`, with the directories above it innermost first. -/
def walk (above : List FileNode) (node : FileNode) :
    List String → Except SystemError FileNode
  | [] => .ok node
  | name :: rest =>
    match node with
    | .file _ => .error .notADirectory
    | .directory _ =>
      if name.isEmpty || name = "." then walk above node rest
      else if name = ".." then
        match above with
        | [] => walk [] node rest
        | up :: above => walk above up rest
      else if nameLimit < name.utf8ByteSize then .error .fileNameTooLong
      else
        match node.entry? name with
        | none => .error .notFound
        | some child => walk (node :: above) child rest

/-- The file or directory that a path leads to. -/
def find (t : FileTree) (path : String) : Except SystemError FileEntry :=
  if path.isEmpty then .error .notFound
  else if path.contains '\x00' then
    .error ⟨.invalidInput, "file name contained an unexpected NUL byte"⟩
  else if pathLimit ≤ path.utf8ByteSize then .error .fileNameTooLong
  else
    (walk [] t.root (Path.segments (Path.join t.workingDirectory path))).map FileNode.toEntry

def files (t : FileTree) : Files := ⟨t.workingDirectory, t.find⟩

end FileTree

end LineSieve
