import ServiceAtlas.Settings.Basic
import ServiceAtlas.Text.Unquote

/-!
The display of settings with their origins.
-/

namespace ServiceAtlas

private def showBool (b : Bool) : String := if b then "true" else "false"

def Settings.valueText (s : Settings) : Setting → String
  | .format => s.format.getD "(command default)"
  | .quiet => showBool s.quiet
  | .exclude => Text.quotedList s.exclude
  | .excludedDirs => Text.quotedList s.excludedDirs
  | .respectGitignore => showBool s.respectGitignore
  | .endpointAnnotations => Text.quotedList s.java.endpointAnnotations
  | .entityMarkers => Text.quotedList s.java.entityMarkers
  | .routeDecorators => Text.quotedList s.python.routeDecorators
  | .modelBase => s.python.modelBase
  | .verbs => Text.quotedList s.verbs

namespace ResolvedSettings

private def numbered : Nat → List Path → List String
  | _, [] => []
  | n, p :: rest => ("  " ++ toString n ++ ". " ++ p.text) :: numbered (n + 1) rest

/-- The settings files that were read, with their numbers. -/
def fileLines (s : ResolvedSettings) : List String :=
  if s.loadedFiles.isEmpty then ["Loaded config files: (none)"]
  else "Loaded config files:" :: numbered 1 s.loadedFiles

/-- A setting with its value and its origin. -/
def settingLine (s : ResolvedSettings) (entry : String × Source) : String :=
  let value := ((Setting.ofKey? entry.1).map s.valueText).getD "(unknown)"
  "  " ++ entry.1 ++ ": " ++ value ++ " <- " ++ entry.2.text

def patternLines (s : ResolvedSettings) : List String :=
  if s.ignorePatterns.isEmpty then []
  else ["", ".svcmapignore patterns:"] ++ s.ignorePatterns.map ("  " ++ ·)

def showLines (s : ResolvedSettings) : List String :=
  s.fileLines ++ ["", "Resolved settings:"] ++ s.provenance.sorted.map s.settingLine ++ s.patternLines

def render (s : ResolvedSettings) : String := String.join (s.showLines.map (· ++ "\n"))

end ResolvedSettings

end ServiceAtlas
