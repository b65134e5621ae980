import ServiceAtlas.Command.Arguments
import ServiceAtlas.Disk.Walk
import ServiceAtlas.Graph.Dot
import ServiceAtlas.Report.ScanJson
import ServiceAtlas.Report.ScanText
import ServiceAtlas.Report.UrlList
import ServiceAtlas.Settings.Resolve
import ServiceAtlas.Settings.Show

/-!
Commands carried out: what they print, or why they fail, and the messages on the way.
-/

namespace ServiceAtlas

/-- Work that may fail, with messages that are kept either way. -/
abbrev Work := ExceptT Failure Logged

namespace Work

def lift {α : Type} (x : Logged α) : Work α := ExceptT.lift x

def ofResult {α : Type} (x : Except Failure α) : Work α := ExceptT.mk (pure x)

/-- A result that comes with messages, if it comes at all. -/
def ofLogged {α : Type} (x : Except Failure (Logged α)) : Work α :=
  match x with
  | .error e => throw e
  | .ok r => lift r

end Work

def scanOffer : Format.Offer := ⟨"scan", [.json, .text, .dot], .json⟩

def graphOffer : Format.Offer := ⟨"graph", [.dot, .json], .dot⟩

def urlsOffer : Format.Offer := ⟨"urls", [.text, .json], .text⟩

/-- The format to print in. -/
def Format.Offer.select (o : Format.Offer) (asked : Option Format) (configured : Option String) :
    Work Format :=
  match o.choose asked configured with
  | .use f => pure f
  | .refuse f => throw (.settings (.unsupportedFormat f o.command))
  | .fallback word f => do
    Work.lift (Logged.debug ("Configured format " ++ word ++ " not usable for " ++ o.command ++
      "; using " ++ f.name))
    return f

/-- A JSON document on lines of its own. -/
def Json.document (j : Json) : String := j.pretty ++ "\n"

namespace Surroundings

/-- Opens a directory and settles the settings that hold in it. -/
def openTree (s : Surroundings) (path : Path) (o : Overrides) :
    Work (SourceTree × ResolvedSettings) := do
  let (root, node) ← Work.ofResult (s.disk.openDirectory path)
  let r ← Work.ofLogged (s.settings root o)
  return (node.sourceTree root r.respectGitignore, r)

def scanTree (s : Surroundings) (path : Path) (o : Overrides) :
    Work (Path × ResolvedSettings × Scan) := do
  let (tree, r) ← s.openTree path o
  let plan ← Work.ofResult r.toSettings.plan
  let found ← Work.lift (Scan.run plan tree)
  return (tree.root, r, found)

def scan (s : Surroundings) (path : Path) (o : Overrides) : Work String := do
  let (root, r, found) ← s.scanTree path o
  match ← scanOffer.select o.format r.format with
  | .json => return (found.toJson root).document
  | .text => return found.report root
  | .dot => return Dot.render found.graph

def graph (s : Surroundings) (path : Path) (o : Overrides) : Work String := do
  let (_, r, found) ← s.scanTree path o
  let format ← graphOffer.select o.format r.format
  let g := found.graph
  Work.lift (Logged.info ("Service graph: " ++ toString g.services.length ++ " nodes, " ++
    toString g.calls.length ++ " edges"))
  return if format = .json then g.toJson.document else Dot.render g

def urls (s : Surroundings) (path : Path) (o : Overrides) : Work String := do
  let (tree, r) ← s.openTree path o
  let format ← urlsOffer.select o.format r.format
  let survey ← Work.lift (UrlSurvey.ofTree tree)
  Work.lift (Logged.info ("Read " ++ toString survey.read ++ " config files (" ++
    toString survey.failed ++ " failed), " ++ toString survey.table.size ++ " URL keys"))
  return if format = .json then survey.table.toJson.document else survey.table.listing

def showSettings (s : Surroundings) (path : Option Path) : Work String := do
  let path := path.getD ⟨"."⟩
  match s.disk.locate path with
  | .error _ => throw (.settings (.invalidPath path.text))
  | .ok place => return (← Work.ofLogged (s.settings place.path {})).render

/-- Carries out a command. -/
def run (s : Surroundings) (c : Command) : Logged (Except Failure String) :=
  ExceptT.run <|
    match c with
    | .scan path o => s.scan path o
    | .graph path o => s.graph path o
    | .urls path o => s.urls path o
    | .showSettings path => s.showSettings path

end Surroundings

end ServiceAtlas
