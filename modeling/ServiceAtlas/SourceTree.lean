import ServiceAtlas.Failure

/-!
A tree of files to scan: a root and the files below it in the order in which they are visited. It has a
URL table for which all its configuration files count, wherever they lie; a file that cannot be read or
is not well formed is skipped and counted. When two files have the same key the later one wins.
-/

namespace ServiceAtlas

inductive ReadFault where
  | denied
  | missing
  deriving DecidableEq, Repr

def ReadFault.message : ReadFault → String
  | .denied => "permission denied"
  | .missing => "no such file"

/-- A listed file; one without contents cannot be read. -/
structure SourceFile where
  path : Path
  contents : Option String
  deriving DecidableEq, Repr

structure SourceTree where
  root : Path
  files : List SourceFile

namespace SourceTree

/-- The contents of the first file at the same place. -/
def read (t : SourceTree) (path : Path) : Except ReadFault String :=
  match t.files.find? fun f => f.path.same path with
  | some ⟨_, some text⟩ => .ok text
  | some ⟨_, none⟩ => .error .denied
  | none => .error .missing

def paths (t : SourceTree) : List Path := t.files.map (·.path)

end SourceTree

/-! ### URLs -/

/-- A URL table, and how many files were read for it or failed. -/
structure UrlSurvey where
  table : UrlTable
  read : Nat
  failed : Nat

namespace UrlSurvey

def empty : UrlSurvey := ⟨.empty, 0, 0⟩

/-- Enters the pairs of one file. -/
def enter (dialect : Dialect) (source : Path) (t : UrlTable) (pair : String × String) : UrlTable :=
  t.insert pair.1 ⟨pair.2, dialect, source⟩

private def keyMessage (source : Path) (pair : String × String) : LogEntry :=
  ⟨.debug, "URL key " ++ pair.1 ++ " = " ++ pair.2 ++ " (" ++ source.text ++ ")"⟩

/-- Takes one file of the tree into account. -/
def visit (t : SourceTree) (s : UrlSurvey) (path : Path) : Logged UrlSurvey :=
  match Dialect.ofPath? path with
  | none => pure s
  | some dialect =>
    let full := t.root.join path
    match t.read path with
    | .error e => do
      Logged.warn ("Error reading " ++ full.text ++ ": " ++ e.message)
      return { s with failed := s.failed + 1 }
    | .ok text =>
      match dialect.urlPairs text with
      | .error e => do
        Logged.warn (Failure.malformedConfig full e).message
        return { s with failed := s.failed + 1 }
      | .ok pairs =>
        ⟨{ s with table := pairs.foldl (enter dialect path) s.table, read := s.read + 1 },
          pairs.map (keyMessage path)⟩

def ofTree (t : SourceTree) : Logged UrlSurvey := t.paths.foldlM (visit t) empty

end UrlSurvey

end ServiceAtlas
