import ServiceAtlas.Disk.Basic
import ServiceAtlas.Failure
import ServiceAtlas.Settings.Layers
import ServiceAtlas.Text.Basic

/-!
Settings as they hold in a directory: defaults, then the user's file, the nearest project file, the
environment and the flags; and the patterns of the nearest list of ignored files.
-/

namespace ServiceAtlas

/-- The outside of a command: files, environment and the user's settings file. -/
structure Surroundings where
  disk : Disk
  environment : Environment
  userFile : Option Path

def projectFileName : String := ".svcmap.toml"

def ignoreListName : String := ".svcmapignore"

/-- Reads a settings file and lays it over the settings. -/
def laySettingsFile (layer : SettingsLayer) (source : Source) (file : Path) (bytes : List Nat)
    (r : ResolvedSettings) : Except Failure ResolvedSettings :=
  match Text.decode? bytes with
  | none => .error (.settings (.unreadable layer file))
  | some text =>
    match SettingsFile.read? (String.ofList text) with
    | none => .error (.settings (.invalid layer file))
    | some f =>
      let r := r.layFile source f
      .ok { r with loadedFiles := r.loadedFiles ++ [file] }

/-- Lays the settings file that is found, if one is. -/
def layFound (layer : SettingsLayer) (source : Path → Source) (found : Option (Path × List Nat))
    (r : ResolvedSettings) : Except Failure ResolvedSettings :=
  match found with
  | none => .ok r
  | some (file, bytes) => laySettingsFile layer (source file) file bytes r

namespace Disk

/-- The regular file of a name in the directory or in the nearest one above it. -/
def nearest? (d : Disk) (name : String) (dir : Path) : Option (Path × List Nat) :=
  dir.ancestors.findSome? fun p =>
    let file := p.join ⟨name⟩
    (d.fileBytes? file).map fun bytes => (file, bytes)

/-- Patterns, one on a line, without comments. -/
def patternsOf (text : List Char) : List String :=
  (((Text.lines text).map Text.trim).filter fun l => !l.isEmpty && l.head? != some '#').map String.ofList

/-- The patterns of the first list that is text, going upwards. -/
def ignorePatterns (d : Disk) : List Path → Logged (List String)
  | [] => pure []
  | dir :: above =>
    let file := dir.join ⟨ignoreListName⟩
    match d.fileBytes? file with
    | none => ignorePatterns d above
    | some bytes =>
      match Text.decode? bytes with
      | some text => pure (patternsOf text)
      | none => do
        Logged.warn ("Error reading " ++ file.text ++ ": stream did not contain valid UTF-8")
        ignorePatterns d above

end Disk

namespace Surroundings

/-- The user's settings file, if it is a regular file. -/
def userSettings? (s : Surroundings) : Option (Path × List Nat) :=
  s.userFile.bind fun p => (s.disk.fileBytes? p).map fun bytes => (p, bytes)

/-- The nearest settings file of a project. -/
def projectSettings? (s : Surroundings) (dir : Path) : Option (Path × List Nat) :=
  s.disk.nearest? projectFileName dir

def layUser (s : Surroundings) : ResolvedSettings → Except Failure ResolvedSettings :=
  layFound .user .userFile s.userSettings?

def layProject (s : Surroundings) (dir : Path) : ResolvedSettings → Except Failure ResolvedSettings :=
  layFound .project .projectFile (s.projectSettings? dir)

/-- The settings that hold in a directory. -/
def settings (s : Surroundings) (dir : Path) (o : Overrides) :
    Except Failure (Logged ResolvedSettings) := do
  let r ← s.layUser .default
  let r ← s.layProject dir r
  let r := (r.layEnvironment s.environment).layFlags o
  let patterns := s.disk.ignorePatterns dir.ancestors
  return ⟨{ r with ignorePatterns := patterns.value }, patterns.log⟩

end Surroundings

end ServiceAtlas
