import TransferGateway.Execution.Files
import TransferGateway.Text.Split

/-!
# File trees

Files in directories, without links and without permissions.  A path is looked up component by
component, from the root or from the working directory, with the errors of the operating system.
-/

namespace TransferGateway

/-- A node of a file tree. -/
inductive FileNode where
  | file (content : String)
  /-- A program of the system. -/
  | program (name : String)
  /-- Neither a file with content nor a directory. -/
  | device
  | directory (entries : List (String × FileNode))

namespace FileNode

/-- An empty directory. -/
def emptyDirectory : FileNode := .directory []

/-- The names of the programs of the system. -/
def programNames : List String := ["true", "false", "sh", "test", "cat", "sleep"]

/-- The directories and files of a system, with an empty directory to work in. -/
def standardRoot : FileNode :=
  let utilities := programNames.map fun name => (name, FileNode.program name)
  .directory [
    ("dev", .directory [("null", .device)]),
    ("tmp", .directory [("gateway", emptyDirectory)]), ("etc", .directory [("passwd", .file "")]),
    ("bin", .directory utilities), ("usr", .directory [("bin", .directory utilities)]),
    ("var", emptyDirectory), ("home", emptyDirectory), ("root", emptyDirectory),
    ("opt", emptyDirectory), ("proc", emptyDirectory), ("srv", emptyDirectory)]

/-- Whether a node is a directory. -/
def isDirectory : FileNode → Bool
  | .directory _ => true
  | _ => false

/-- The longest name of a file, in bytes. -/
def maxNameLength : Nat := 255

/-- The node under a name. -/
def child (node : FileNode) (name : String) : Except SystemError FileNode :=
  match node with
  | .directory entries =>
    if maxNameLength < name.utf8ByteSize then .error (.number 36)
    else
      match entries.find? fun entry => entry.1 == name with
      | some entry => .ok entry.2
      | none => .error (.number 2)
  | _ => .error (.number 20)

/-- Follow path components from a node; `above` lists the directories it lies in, the nearest first.
At the root two dots lead to the root. -/
def walk (above : List FileNode) (node : FileNode) : List String → Except SystemError FileNode
  | [] => .ok node
  | name :: rest =>
    if name = "" ∨ name = "." then
      if node.isDirectory then walk above node rest else .error (.number 20)
    else if name = ".." then
      if node.isDirectory then
        match above with
        | parent :: others => walk others parent rest
        | [] => walk [] node rest
      else .error (.number 20)
    else
      match node.child name with
      | .ok next => walk (node :: above) next rest
      | .error e => .error e

/-- Put a file at a path, making the directories on the way. -/
def insert (node : FileNode) (leaf : FileNode) : List String → FileNode
  | [] => leaf
  | name :: rest =>
    let entries :=
      match node with
      | .directory entries => entries
      | _ => []
    let below :=
      match entries.find? fun entry => entry.1 == name with
      | some entry => entry.2
      | none => emptyDirectory
    .directory ((entries.filter fun entry => entry.1 != name) ++
      [(name, insert below leaf rest)])

/-- Remove what is at a path. -/
def remove (node : FileNode) : List String → FileNode
  | [] => node
  | [name] =>
    match node with
    | .directory entries => .directory (entries.filter fun entry => entry.1 != name)
    | other => other
  | name :: rest =>
    match node with
    | .directory entries =>
      .directory (entries.map fun entry =>
        if entry.1 = name then (entry.1, remove entry.2 rest) else entry)
    | other => other

end FileNode

/-- The files of a system, and the names that lead from its root to the working directory. -/
structure FileTree where
  root : FileNode := .standardRoot
  work : List String := ["tmp", "gateway"]

namespace FileTree

instance : Inhabited FileTree := ⟨{}⟩

/-- The components of a path. -/
def components (path : String) : List String :=
  (Text.splitAtChar '/' path.toList).map String.ofList

/-- Follow a component in a list of names: two dots lead back. -/
def followName (above : List String) (name : String) : List String :=
  if name = "" ∨ name = "." then above
  else if name = ".." then above.dropLast
  else above ++ [name]

/-- The longest path, in bytes. -/
def maxPathLength : Nat := 4095

/-- Whether a path begins at the root of the system. -/
def isAbsolute (path : String) : Bool := path.toList.head? == some '/'

/-- The names that lead from the root to where a path begins. -/
def origin (tree : FileTree) (path : String) : List String :=
  if isAbsolute path then [] else tree.work

/-- The names that a path leads along from the root. -/
def names (tree : FileTree) (path : String) : List String :=
  (components path).foldl followName (tree.origin path)

/-- The node at a path. -/
def lookup (tree : FileTree) (path : String) : Except SystemError FileNode :=
  if path.toList.any fun c => c.toNat == 0 then .error .zeroByteInPath
  else if path = "" then .error (.number 2)
  else if maxPathLength < path.utf8ByteSize then .error (.number 36)
  else tree.root.walk [] (tree.origin path ++ components path)

/-- Whether there is anything at a path. -/
def exists? (tree : FileTree) (path : String) : Bool :=
  match tree.lookup path with
  | .ok _ => true
  | .error _ => false

/-- The content of a file. -/
def read (tree : FileTree) (path : String) : Except SystemError String :=
  match tree.lookup path with
  | .error e => .error e
  | .ok (.file content) => .ok content
  | .ok .device => .ok ""
  | .ok (.program _) => .error .notText
  | .ok (.directory _) => .error (.number 21)

/-- What an open node is. -/
def kindOf : FileNode → FileKind
  | .file _ => .regular
  | .program _ => .regular
  | .device => .special
  | .directory _ => .special

/-- The files of a tree as they are opened. -/
def view (tree : FileTree) : Files where
  opened path :=
    match tree.lookup path with
    | .error e => .error e
    | .ok node => .ok ⟨.ok (kindOf node)⟩

/-- The program at a path. -/
def programAt (tree : FileTree) (path : String) : Except SystemError String :=
  match tree.lookup path with
  | .error e => .error e
  | .ok (.program program) => .ok program
  | .ok _ => .error (.number 13)

/-- Put a file at a path. -/
def insertFile (tree : FileTree) (path content : String) : FileTree :=
  { tree with root := tree.root.insert (.file content) (tree.names path) }

/-- Make a directory at a path, unless there is something. -/
def insertDirectory (tree : FileTree) (path : String) : FileTree :=
  if tree.exists? path then tree
  else { tree with root := tree.root.insert .emptyDirectory (tree.names path) }

/-- Remove what is at a path. -/
def remove (tree : FileTree) (path : String) : FileTree :=
  { tree with root := tree.root.remove (tree.names path) }

/-- The files of a system whose working directory has the given path. -/
def workingAt (path : String) : FileTree :=
  let tree : FileTree := { work := (components path).foldl followName [] }
  tree.insertDirectory "."

/-- Write a file in a directory that exists. -/
def create (tree : FileTree) (path content : String) : Except SystemError FileTree :=
  let parts := components path
  if parts.getLast? = some "" then .error (.number (if path = "" then 2 else 21))
  else
    match tree.root.walk [] (tree.origin path ++ parts.dropLast) with
    | .error e => .error e
    | .ok (.directory _) => .ok (tree.insertFile path content)
    | .ok _ => .error (.number 20)

/-- Write a file whose directory exists. -/
def write (tree : FileTree) (path content : String) : Except SystemError FileTree :=
  match tree.lookup path with
  | .ok (.file _) => .ok (tree.insertFile path content)
  | .ok .device => .ok tree
  | .ok (.program _) => .error (.number 26)
  | .ok (.directory _) => .error (.number 21)
  | .error (.number 2) => tree.create path content
  | .error e => .error e

end FileTree

end TransferGateway
