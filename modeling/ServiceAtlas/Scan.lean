import ServiceAtlas.Calls
import ServiceAtlas.Glob.Match
import ServiceAtlas.Graph
import ServiceAtlas.Outline.Extraction
import ServiceAtlas.SourceTree

/-!
The scan of a tree. The URL table is made first; then each source file is visited once, in the order
of the tree. A file that fails is counted and skipped, and never ends the scan.
-/

namespace ServiceAtlas

structure ScanStats where
  visited : Nat := 0
  java : Nat := 0
  python : Nat := 0
  malformed : Nat := 0
  unreadable : Nat := 0
  configRead : Nat := 0
  configFailed : Nat := 0
  pruned : Nat := 0
  deriving DecidableEq, Repr

/-- What a scan finds. -/
structure Scan where
  urls : UrlTable
  dependencies : List Dependency
  contexts : Contexts
  stats : ScanStats

/-- What a scan is told: settings whose patterns have been read and which name a verb. -/
structure ScanPlan where
  rules : Rules
  verbs : List String
  excludedDirs : List String
  exclude : List (List Glob.Token)

/-- The tokens of each pattern, or what is wrong with the first bad one. -/
def readPatterns : List String → Except Failure (List (List Glob.Token))
  | [] => .ok []
  | pattern :: rest =>
    match Glob.read .class_ pattern with
    | .error e => .error (.glob pattern e)
    | .ok tokens => (readPatterns rest).map (tokens :: ·)

/-- Patterns are read in order, then the verbs are looked at. -/
def Settings.plan (s : Settings) : Except Failure ScanPlan :=
  match readPatterns s.excludeGlobs with
  | .error e => .error e
  | .ok exclude =>
    if s.verbs.isEmpty then .error (.settings .noVerbs)
    else .ok ⟨s.rules, s.verbs, s.excludedDirs, exclude⟩

namespace ScanPlan

/-- Wildcards of an exclusion pass separators. -/
def globOptions : Glob.Options := { literalSeparator := false }

/-- Whether a pattern matches the path or its file name. -/
def isExcluded (p : ScanPlan) (path : Path) : Bool :=
  let hit (text : String) : Bool := p.exclude.any fun tokens => Glob.isMatch globOptions tokens text
  hit path.text || path.fileName?.any hit

/-- The calls in a source, seen from the service it belongs to. All of them are taken to go to the
service that the first known URL in the source belongs to. -/
def dependencies (p : ScanPlan) (urls : UrlTable) (service text : String) : List Dependency :=
  (CallSite.find p.verbs text.toList).map fun call =>
    ⟨service, calleeOf urls text.toList, call.verb⟩

end ScanPlan

/-- A scan in progress, with the subtrees that were left out. -/
structure ScanProgress extends Scan where
  subtrees : List Path

/-- What is said of a source file that is skipped because it is not well formed. -/
def sourceWarning (file : Path) : LogEntry :=
  ⟨.warn, "Syntax error in " ++ file.text ++ ". Skipping: " ++ unexpectedSyntax⟩

namespace ScanProgress

def countLanguage (s : ScanStats) : Language → ScanStats
  | .java => { s with java := s.java + 1 }
  | .python => { s with python := s.python + 1 }

/-- Reads a source file and adds what it holds. Its service is listed even if it cannot be read. -/
def source (plan : ScanPlan) (t : SourceTree) (s : ScanProgress) (path : Path) (language : Language) :
    Logged ScanProgress := do
  let full := t.root.join path
  Logged.debug ("Processing file: " ++ full.text)
  let service := Service.ofPath full
  let s := { s with
    stats := countLanguage s.stats language
    contexts := s.contexts.mention service }
  match t.read path with
  | .error e => do
    Logged.warn ("Error reading " ++ full.text ++ ": " ++ e.message)
    return { s with stats := { s.stats with unreadable := s.stats.unreadable + 1 } }
  | .ok text =>
    let calls := if language.hasCallSites then plan.dependencies s.urls service text else []
    let s := { s with dependencies := s.dependencies ++ calls }
    match extract? plan.rules language (.ofString text) with
    | some facts => return { s with contexts := s.contexts.add service facts }
    | none =>
      ⟨{ s with stats := { s.stats with malformed := s.stats.malformed + 1 } }, [sourceWarning full]⟩

/-- Notes a subtree that is left out. -/
def prune (s : ScanProgress) (dir : Path) : Logged ScanProgress :=
  if s.subtrees.any (·.same dir) then pure s
  else do
    Logged.debug ("Skipping excluded subtree: " ++ dir.text)
    return { s with subtrees := s.subtrees ++ [dir] }

/-- Takes one file of the tree into account. -/
def visit (plan : ScanPlan) (t : SourceTree) (s : ScanProgress) (path : Path) : Logged ScanProgress :=
  match path.excludedAncestor? plan.excludedDirs with
  | some dir => s.prune dir
  | none =>
    if plan.isExcluded path then pure s
    else
      let s := { s with stats := { s.stats with visited := s.stats.visited + 1 } }
      match Language.ofPath? path with
      | none => pure s
      | some language => s.source plan t path language

end ScanProgress

namespace Scan

private def summaryMessage (s : Scan) : String :=
  "Scanned " ++ toString s.stats.visited ++ " files: " ++ toString s.dependencies.length ++
    " dependencies, " ++ toString s.contexts.totalEndpoints ++ " endpoints, " ++
    toString s.contexts.totalEntities ++ " entities across " ++ toString s.contexts.size ++ " services"

def start (survey : UrlSurvey) : ScanProgress where
  urls := survey.table
  dependencies := []
  contexts := .empty
  stats := { configRead := survey.read, configFailed := survey.failed }
  subtrees := []

def run (plan : ScanPlan) (t : SourceTree) : Logged Scan := do
  let survey ← UrlSurvey.ofTree t
  let progress ← t.paths.foldlM (ScanProgress.visit plan t) (start survey)
  let s : Scan :=
    { progress.toScan with stats := { progress.stats with pruned := progress.subtrees.length } }
  Logged.info s.summaryMessage
  return s

def graph (s : Scan) : ServiceGraph := .build s.contexts.keys s.dependencies

end Scan

end ServiceAtlas
