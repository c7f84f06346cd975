import LogCollector.Text.Split

/-!
# Directories

A tree of files and folders, as far as an output file needs one: a node is found by the names
that lead to it, and every name but the last has to be that of a folder. There is also a
device that has no space left.
-/

namespace LogCollector.Storage

/-- Why a file cannot be used. -/
inductive FileFault where
  /-- There is no such file. -/
  | notFound
  /-- A name in the middle of the path is that of a file. -/
  | notFolder
  /-- The path leads to a folder. -/
  | isFolder
  /-- There is no space left. -/
  | noSpace
  /-- A name has more than 255 bytes. -/
  | nameTooLong
  /-- The node is no file that could be copied. -/
  | notRegular
  deriving DecidableEq

/-- The wording of a fault. -/
def FileFault.message : FileFault → String
  | .notFound => "No such file or directory (os error 2)"
  | .notFolder => "Not a directory (os error 20)"
  | .isFolder => "Is a directory (os error 21)"
  | .noSpace => "No space left on device (os error 28)"
  | .nameTooLong => "File name too long (os error 36)"
  | .notRegular => "the source path is neither a regular file nor a symlink to a regular file"

/-- The names that lead to a node. -/
abbrev Path := List String

/-- The path that a text spells, names being separated by slashes. -/
def Path.parse (s : String) : Path :=
  ((Text.splitOn '/' s.toList).map String.ofList).filter fun name => name ≠ "" ∧ name ≠ "."

/-- What a path may lead to. -/
inductive Node where
  /-- A file with its content. -/
  | file (content : String)
  /-- A folder. -/
  | folder
  /-- A device without space. -/
  | full
  deriving DecidableEq

/-- The nodes of a tree. -/
structure Directory where
  /-- Each node behind its path. -/
  nodes : List (Path × Node)
  deriving DecidableEq

namespace Directory

/-- The tree with nothing but its root. -/
def empty : Directory := ⟨[]⟩

/-- The node at a path; the root is a folder. -/
def node? (d : Directory) (p : Path) : Option Node :=
  if p = [] then some .folder else d.nodes.lookup p

/-- Puts a node at a path, in place of the one that is there. -/
def put (d : Directory) (p : Path) (x : Node) : Directory :=
  ⟨(p, x) :: d.nodes.filter fun (q, _) => q ≠ p⟩

/-- Takes away the node at a path. -/
def erase (d : Directory) (p : Path) : Directory := ⟨d.nodes.filter fun (q, _) => q ≠ p⟩

/-- Follows names from a node that has been reached. -/
def follow (d : Directory) (reached : Path) : Path → Except FileFault (Option Node)
  | [] => .ok (d.node? reached)
  | name :: rest =>
    match d.node? reached with
    | none => .error .notFound
    | some .folder =>
      if name.utf8ByteSize > 255 then .error .nameTooLong else d.follow (reached ++ [name]) rest
    | some _ => .error .notFolder

/-- Looks for the node at a path whose folders have to be there. -/
def find (d : Directory) (p : Path) : Except FileFault (Option Node) := d.follow [] p

/-- Whether a path leads to a node. -/
def exists? (d : Directory) (p : Path) : Bool := d.find p matches .ok (some _)

/-- The content of the file with a name. A slash at the end of the name asks for a folder. -/
def read (d : Directory) (name : String) : Except FileFault String :=
  if name = "" then .error .notFound
  else match d.find (.parse name) with
    | .error f => .error f
    | .ok none => .error .notFound
    | .ok (some .folder) => .error .isFolder
    | .ok (some x) =>
      if name.toList.getLast? = some '/' then .error .notFolder
      else match x with
        | .file content => .ok content
        | _ => .ok ""

/-- Copies a file to a path. -/
def copy (d : Directory) (source target : Path) : Except FileFault Directory :=
  match d.find source with
  | .error f => .error f
  | .ok none => .error .notFound
  | .ok (some (.file content)) =>
    match d.find target with
    | .error f => .error f
    | .ok (some .folder) => .error .isFolder
    | .ok (some .full) => if content.isEmpty then .ok d else .error .noSpace
    | .ok _ => .ok (d.put target (.file content))
  | .ok (some _) => .error .notRegular

/-- The node that was put at a path is found there. -/
theorem node?_put (d : Directory) {p : Path} (x : Node) (hp : p ≠ []) :
    (d.put p x).node? p = some x := by
  simp [node?, put, hp]

end Directory

end LogCollector.Storage
