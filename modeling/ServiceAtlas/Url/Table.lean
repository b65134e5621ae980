import ServiceAtlas.OrderedMap
import ServiceAtlas.Path
import ServiceAtlas.Url.Properties
import ServiceAtlas.Yaml.TopLevel

/-!
The table of service URLs: for each configuration key its value, the dialect it was written in and
the file that it was last read from, in order of first appearance of the keys. The two dialects of
configuration files are told apart by file extension.
-/

namespace ServiceAtlas

inductive Dialect where
  | properties
  | yaml
  deriving DecidableEq, Repr

namespace Dialect

def name : Dialect → String
  | .properties => "properties"
  | .yaml => "yaml"

def ofPath? (p : Path) : Option Dialect :=
  match p.extension? with
  | some "properties" => some .properties
  | some "yml" => some .yaml
  | some "yaml" => some .yaml
  | _ => none

end Dialect

structure UrlEntry where
  value : String
  dialect : Dialect
  source : Path
  deriving DecidableEq, Repr

abbrev UrlTable := OrderedMap String UrlEntry

namespace UrlTable

/-- The first key whose value occurs in the text. -/
def resolve? (t : UrlTable) (text : List Char) : Option String :=
  (t.entries.find? fun e => Text.occursIn e.2.value.toList text).map Prod.fst

end UrlTable

/-- Keys are of interest when they have `url` in them, in any case. -/
def isUrlKey (key : String) : Bool := Text.contains (Text.lower key) "url"

/-! ### The keys of a file -/

/-- Why a configuration file could not be read. -/
inductive Dialect.Error where
  | properties (e : Properties.Error)
  | yaml (fault : Yaml.Fault)
  deriving DecidableEq, Repr

def Dialect.Error.message : Dialect.Error → String
  | .properties e => e.message
  | .yaml fault => fault.message

/-- All pairs of a configuration file, in order. -/
def Dialect.pairs (d : Dialect) (text : String) : Except Dialect.Error (List (String × String)) :=
  match d with
  | .properties => ((Properties.defaultSection text).map (·.entries)).mapError .properties
  | .yaml => (Yaml.topLevel text).mapError .yaml

/-- The pairs whose key is of interest. -/
def Dialect.urlPairs (d : Dialect) (text : String) : Except Dialect.Error (List (String × String)) :=
  (d.pairs text).map (·.filter fun p => isUrlKey p.1)

end ServiceAtlas
