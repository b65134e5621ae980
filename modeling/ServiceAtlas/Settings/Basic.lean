import ServiceAtlas.OrderedMap
import ServiceAtlas.Path

/-!
The settings of a scan, and for each of them the place that it was taken from.
-/

namespace ServiceAtlas

/-- Where a setting comes from, from the weakest to the strongest. -/
inductive Source where
  | default
  | userFile (path : Path)
  | projectFile (path : Path)
  | environment (variable_ : String)
  | flag (name : String)
  deriving DecidableEq, Repr

def Source.text : Source → String
  | .default => "default"
  | .userFile path => "user config (" ++ path.text ++ ")"
  | .projectFile path => "project config (" ++ path.text ++ ")"
  | .environment name => "env var (" ++ name ++ ")"
  | .flag name => "CLI flag (" ++ name ++ ")"

/-- Which declarations of a Java source count. -/
structure JavaRules where
  endpointAnnotations : List String
  entityMarkers : List String
  deriving DecidableEq, Repr

def JavaRules.default : JavaRules where
  endpointAnnotations := ["GetMapping", "PostMapping", "RequestMapping"]
  entityMarkers := ["@Entity", "@Table", "@Document"]

/-- Which declarations of a Python source count. -/
structure PythonRules where
  routeDecorators : List String
  modelBase : String
  deriving DecidableEq, Repr

def PythonRules.default : PythonRules where
  routeDecorators := ["route", "get", "post"]
  modelBase := "Model"

/-- The verbs of outbound calls that are looked for unless told otherwise. -/
def defaultVerbs : List String := ["post", "get", "put", "delete"]

/-- The last writer of each setting. -/
abbrev Provenance := OrderedMap String Source

structure Settings where
  format : Option String
  quiet : Bool
  exclude : List String
  ignorePatterns : List String
  excludedDirs : List String
  respectGitignore : Bool
  java : JavaRules
  python : PythonRules
  verbs : List String

def Settings.default : Settings where
  format := none
  quiet := false
  exclude := []
  ignorePatterns := []
  excludedDirs := ["test"]
  respectGitignore := false
  java := .default
  python := .default
  verbs := defaultVerbs

/-- All patterns that keep a source file out of a scan. -/
def Settings.excludeGlobs (s : Settings) : List String := s.exclude ++ s.ignorePatterns

/-- The settings whose origin is kept. -/
inductive Setting where
  | format
  | quiet
  | exclude
  | excludedDirs
  | respectGitignore
  | endpointAnnotations
  | entityMarkers
  | routeDecorators
  | modelBase
  | verbs
  deriving DecidableEq, Repr

namespace Setting

def all : List Setting :=
  [.format, .quiet, .exclude, .excludedDirs, .respectGitignore, .endpointAnnotations,
   .entityMarkers, .routeDecorators, .modelBase, .verbs]

/-- The dotted name under which a setting is shown. -/
def key : Setting → String
  | .format => "defaults.format"
  | .quiet => "defaults.quiet"
  | .exclude => "targeting.exclude"
  | .excludedDirs => "targeting.excluded_dirs"
  | .respectGitignore => "targeting.respect_gitignore"
  | .endpointAnnotations => "java.endpoint_annotations"
  | .entityMarkers => "java.entity_markers"
  | .routeDecorators => "python.route_decorators"
  | .modelBase => "python.model_base"
  | .verbs => "calls.verbs"

def ofKey? (key : String) : Option Setting := all.find? fun s => s.key = key

end Setting

namespace Provenance

/-- Every setting comes from the defaults. -/
def defaults : Provenance := OrderedMap.ofPairs (Setting.all.map fun s => (s.key, .default))

/-- The entries in the order of their keys. -/
def sorted (p : Provenance) : List (String × Source) :=
  p.entries.mergeSort fun a b => decide (a.1 ≤ b.1)

end Provenance

/-- Settings with their origins and the files that were read for them. -/
structure ResolvedSettings extends Settings where
  provenance : Provenance
  loadedFiles : List Path

end ServiceAtlas
