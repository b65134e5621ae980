import ServiceAtlas.Report.Format
import ServiceAtlas.Settings.Basic
import ServiceAtlas.Settings.File
import ServiceAtlas.Text.Basic

/-!
The layers of settings. Each layer is laid over those below it: what it sets replaces what was there,
and its origin is noted. Patterns given by flags are added to those below instead.
-/

namespace ServiceAtlas

/-- The environment variables that count. -/
structure Environment where
  format : Option String := none
  quiet : Option String := none
  exclude : Option String := none
  deriving DecidableEq, Repr

/-- What the flags of a command say. -/
structure Overrides where
  format : Option Format := none
  quiet : Bool := false
  exclude : List String := []
  respectGitignore : Bool := false
  deriving DecidableEq, Repr

namespace ResolvedSettings

def default : ResolvedSettings where
  toSettings := Settings.default
  provenance := Provenance.defaults
  loadedFiles := []

/-- Changes one setting and notes where the change comes from. -/
def set (r : ResolvedSettings) (s : Setting) (source : Source) (change : Settings → Settings) :
    ResolvedSettings :=
  { r with toSettings := change r.toSettings, provenance := r.provenance.insert s.key source }

/-- Changes a setting if a value for it is given. -/
def setGiven {α : Type} (r : ResolvedSettings) (s : Setting) (source : Source) (given : Option α)
    (change : α → Settings → Settings) : ResolvedSettings :=
  match given with
  | none => r
  | some v => r.set s source (change v)

/-- Lays a settings file over the settings. An empty list of patterns says nothing. -/
def layFile (r : ResolvedSettings) (source : Source) (f : SettingsFile) : ResolvedSettings :=
  let exclude := if f.exclude.isEmpty then none else some f.exclude
  r.setGiven .format source f.format (fun v s => { s with format := some v })
    |>.setGiven .quiet source f.quiet (fun v s => { s with quiet := v })
    |>.setGiven .exclude source exclude (fun v s => { s with exclude := v })
    |>.setGiven .excludedDirs source f.excludedDirs (fun v s => { s with excludedDirs := v })
    |>.setGiven .respectGitignore source f.respectGitignore (fun v s => { s with respectGitignore := v })
    |>.setGiven .endpointAnnotations source f.endpointAnnotations
      (fun v s => { s with java := { s.java with endpointAnnotations := v } })
    |>.setGiven .entityMarkers source f.entityMarkers
      (fun v s => { s with java := { s.java with entityMarkers := v } })
    |>.setGiven .routeDecorators source f.routeDecorators
      (fun v s => { s with python := { s.python with routeDecorators := v } })
    |>.setGiven .modelBase source f.modelBase
      (fun v s => { s with python := { s.python with modelBase := v } })
    |>.setGiven .verbs source f.verbs (fun v s => { s with verbs := v })

/-- The words for yes in the environment. -/
def saysYes (text : String) : Bool := text == "1" || Text.lower text == "true"

/-- The patterns in a list with commas; blanks around them and empty ones do not count. -/
def splitList (text : String) : List String :=
  (((Text.splitAtEach ',' text.toList).map Text.trim).filter (!·.isEmpty)).map String.ofList

def layEnvironment (r : ResolvedSettings) (e : Environment) : ResolvedSettings :=
  r.setGiven .format (.environment "SVCMAP_FORMAT") e.format (fun v s => { s with format := some v })
    |>.setGiven .quiet (.environment "SVCMAP_QUIET") e.quiet (fun v s => { s with quiet := saysYes v })
    |>.setGiven .exclude (.environment "SVCMAP_EXCLUDE") e.exclude
      (fun v s => { s with exclude := splitList v })

def layFlags (r : ResolvedSettings) (o : Overrides) : ResolvedSettings :=
  let exclude := if o.exclude.isEmpty then none else some o.exclude
  let yes (b : Bool) : Option Unit := if b then some () else none
  r.setGiven .format (.flag "--format") o.format (fun f s => { s with format := some f.name })
    |>.setGiven .quiet (.flag "--quiet") (yes o.quiet) (fun _ s => { s with quiet := true })
    |>.setGiven .exclude (.flag "--exclude") exclude (fun v s => { s with exclude := s.exclude ++ v })
    |>.setGiven .respectGitignore (.flag "--respect-gitignore") (yes o.respectGitignore)
      (fun _ s => { s with respectGitignore := true })

end ResolvedSettings

end ServiceAtlas
