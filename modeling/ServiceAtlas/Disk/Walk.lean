import ServiceAtlas.Disk.Basic
import ServiceAtlas.Disk.IgnoreRule
import ServiceAtlas.SourceTree

/-!
The files below a directory, in the order of their names, directory by directory. On request the rules
of ignore files leave out files and whole directories.
-/

namespace ServiceAtlas

/-- The rules in force in a directory: those of its own files, and how many names lead to it. -/
structure IgnoreLevel where
  depth : Nat
  ignore : List IgnoreRule
  gitignore : List IgnoreRule

namespace IgnoreLevel

private def rulesIn (entries : List (String × FileNode)) (name : String) : List IgnoreRule :=
  match entries.lookup name with
  | some (.file bytes) => IgnoreRule.ofBytes bytes
  | _ => []

def ofEntries (depth : Nat) (entries : List (String × FileNode)) : IgnoreLevel where
  depth := depth
  ignore := rulesIn entries ".ignore"
  gitignore := rulesIn entries ".gitignore"

/-- Whether a path is left out. Inner directories are asked first, and `.ignore` files of any directory
go before `.gitignore` files. -/
def leavesOut (levels : List IgnoreLevel) (names : List String) (isDirectory : Bool) : Bool :=
  let below (l : IgnoreLevel) : String := "/".intercalate (names.drop l.depth)
  let ask (rules : IgnoreLevel → List IgnoreRule) : Option Bool :=
    levels.findSome? fun l => IgnoreRule.verdict? (rules l) (below l) isDirectory
  (ask (·.ignore) <|> ask (·.gitignore)) == some false

end IgnoreLevel

/-- A file and the names that lead to it. -/
structure FoundFile where
  names : List String
  bytes : List Nat

namespace FileNode

def byName (a b : String × List FoundFile) : Bool := decide (a.1 ≤ b.1)

mutual

/-- The files below a node at `names`. -/
def filesFrom (respect : Bool) (levels : List IgnoreLevel) (names : List String) :
    FileNode → List FoundFile
  | .file bytes => [⟨names, bytes⟩]
  | .directory entries =>
    let levels := if respect then .ofEntries names.length entries :: levels else levels
    ((entriesFrom respect levels names entries).mergeSort byName).flatMap (·.2)

/-- For each entry of a directory that is not left out, its name and the files below it. -/
def entriesFrom (respect : Bool) (levels : List IgnoreLevel) (names : List String) :
    List (String × FileNode) → List (String × List FoundFile)
  | [] => []
  | (name, node) :: rest =>
    let here := names ++ [name]
    let others := entriesFrom respect levels names rest
    if respect && IgnoreLevel.leavesOut levels here node.isDirectory then others
    else (name, filesFrom respect levels here node) :: others

end

/-- All files below a directory. -/
def files (respect : Bool) (n : FileNode) : List FoundFile := filesFrom respect [] [] n

/-- A directory as a tree to scan. Bytes that are no text are replaced. -/
def sourceTree (root : Path) (respect : Bool) (n : FileNode) : SourceTree where
  root := root
  files := (n.files respect).map fun f =>
    ⟨⟨"/".intercalate f.names⟩, some (String.ofList (Text.lossy f.bytes))⟩

end FileNode

end ServiceAtlas
