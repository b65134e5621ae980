import ServiceAtlas.Glob.Pattern
import ServiceAtlas.Report.Format
import ServiceAtlas.Url.Table

/-!
What is told to the user: everything that can end a command, and messages about the progress of the
work, which are kept beside its result in the order in which they arise.
-/

namespace ServiceAtlas

/-- Why a directory cannot be scanned. -/
inductive RootFault where
  | missing
  | fileOnTheWay
  | noDirectory
  deriving DecidableEq, Repr

def RootFault.message : RootFault → String
  | .missing => "No such file or directory (os error 2)"
  | .fileOnTheWay => "Not a directory (os error 20)"
  | .noDirectory => "not a directory"

/-- The two files that settings are read from. -/
inductive SettingsLayer where
  | user
  | project
  deriving DecidableEq, Repr

def SettingsLayer.name : SettingsLayer → String
  | .user => "user"
  | .project => "project"

/-- What is wrong with the settings. -/
inductive SettingsFault where
  | noVerbs
  | unreadable (layer : SettingsLayer) (file : Path)
  | invalid (layer : SettingsLayer) (file : Path)
  | unsupportedFormat (format : Format) (command : String)
  | invalidPath (text : String)
  deriving DecidableEq, Repr

def SettingsFault.message : SettingsFault → String
  | .noVerbs => "calls.verbs must name at least one verb"
  | .unreadable layer file => "Could not read " ++ layer.name ++ " config: " ++ file.text
  | .invalid layer file => "Invalid " ++ layer.name ++ " config " ++ file.text ++ ": malformed settings"
  | .unsupportedFormat format command =>
    format.name ++ " format is not supported for " ++ command
  | .invalidPath text => "Invalid path: " ++ text

inductive Failure where
  | rootUnreadable (root : Path) (fault : RootFault)
  | malformedSource (file : Path)
  | malformedConfig (file : Path) (e : Dialect.Error)
  | settings (fault : SettingsFault)
  | glob (pattern : String) (e : Glob.Error)
  deriving DecidableEq, Repr

/-- What is said of a source that is not well formed. -/
def unexpectedSyntax : String := "unexpected syntax"

def Failure.message : Failure → String
  | .rootUnreadable root fault => "Cannot read scan root " ++ root.text ++ ": " ++ fault.message
  | .malformedSource file => "Syntax error in " ++ file.text ++ ": " ++ unexpectedSyntax
  | .malformedConfig file e => "Error parsing " ++ file.text ++ ": " ++ e.message
  | .settings fault => "Configuration error: " ++ fault.message
  | .glob pattern e => e.message pattern

/-! ### Messages -/

inductive LogLevel where
  | warn
  | info
  | debug
  deriving DecidableEq, Repr

structure LogEntry where
  level : LogLevel
  message : String
  deriving DecidableEq, Repr

/-- A result and the messages that led to it. -/
structure Logged (α : Type) where
  value : α
  log : List LogEntry

namespace Logged

instance : Monad Logged where
  pure a := ⟨a, []⟩
  bind x f := let y := f x.value; ⟨y.value, x.log ++ y.log⟩

def write (level : LogLevel) (message : String) : Logged Unit := ⟨(), [⟨level, message⟩]⟩

def warn (message : String) : Logged Unit := write .warn message

def info (message : String) : Logged Unit := write .info message

def debug (message : String) : Logged Unit := write .debug message

end Logged

end ServiceAtlas
