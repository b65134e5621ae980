import ServiceAtlas.Failure
import ServiceAtlas.Text.Utf8

/-!
Files and directories as a value.
-/

namespace ServiceAtlas

/-- Entries are named by Unicode strings, so files whose names are no UTF-8 are not among them. -/
inductive FileNode where
  | file (bytes : List Nat)
  | directory (entries : List (String × FileNode))

namespace FileNode

def emptyDirectory : FileNode := .directory []

def isDirectory : FileNode → Bool
  | .directory _ => true
  | .file _ => false

def child? : FileNode → String → Option FileNode
  | .directory entries, name => entries.lookup name
  | .file _, _ => none

private def replace (name : String) (node : FileNode) :
    List (String × FileNode) → List (String × FileNode)
  | [] => [(name, node)]
  | e :: rest => if e.1 = name then (name, node) :: rest else e :: replace name node rest

private def entriesOf : FileNode → List (String × FileNode)
  | .directory entries => entries
  | .file _ => []

/-- Puts a node at a path below a directory, and the directories that lead to it. A directory that is
there already stays as it is. -/
def put (tree : FileNode) (path : List String) (node : FileNode) : FileNode :=
  match path with
  | [] => if tree.isDirectory && node.isDirectory then tree else node
  | name :: path =>
    let entries := tree.entriesOf
    .directory (replace name (put ((entries.lookup name).getD emptyDirectory) path node) entries)

end FileNode

/-- A file system and the directory that relative paths start from. -/
structure Disk where
  root : FileNode
  workingDirectory : List String

namespace Disk

/-- A place: the names that lead to it, and all nodes on the way, both from the inside out. -/
structure Place where
  names : List String
  nodes : List FileNode

def Place.node (p : Place) : FileNode := p.nodes.headD .emptyDirectory

/-- The place as an absolute path. -/
def Place.path (p : Place) : Path := ⟨"/" ++ "/".intercalate p.names.reverse⟩

/-- One segment of a path. Each of them, also an empty one, needs a directory to start from. -/
def step (p : Place) (segment : List Char) : Except RootFault Place :=
  if !p.node.isDirectory then .error .fileOnTheWay
  else if segment = [] || segment = ['.'] then .ok p
  else if segment = ['.', '.'] then
    .ok (if p.names.isEmpty then p else ⟨p.names.drop 1, p.nodes.drop 1⟩)
  else
    let name := String.ofList segment
    match p.node.child? name with
    | some node => .ok ⟨name :: p.names, node :: p.nodes⟩
    | none => .error .missing

def walk (start : Place) (segments : List (List Char)) : Except RootFault Place :=
  segments.foldlM step start

/-- The place that a path leads to. -/
def locate (d : Disk) (p : Path) : Except RootFault Place :=
  let top : Place := ⟨[], [d.root]⟩
  let segments := Text.splitAtEach '/' p.text.toList
  if p.text.isEmpty then .error .missing
  else if p.isAbsolute then walk top segments
  else do walk (← walk top (d.workingDirectory.map String.toList)) segments

def node? (d : Disk) (p : Path) : Option FileNode := (d.locate p).toOption.map (·.node)

/-- The bytes of a regular file. -/
def fileBytes? (d : Disk) (p : Path) : Option (List Nat) :=
  match d.node? p with
  | some (.file bytes) => some bytes
  | _ => none

/-- A directory to be scanned, by its absolute path. -/
def openDirectory (d : Disk) (p : Path) : Except Failure (Path × FileNode) :=
  match d.locate p with
  | .error fault => .error (.rootUnreadable p fault)
  | .ok place =>
    if place.node.isDirectory then .ok (place.path, place.node)
    else .error (.rootUnreadable p .noDirectory)

end Disk

end ServiceAtlas
