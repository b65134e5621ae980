import ServiceAtlas.Toml.Document

/-!
What a settings file says. Sections that are not known are refused, keys of a section that are not
known are passed over. A section may also be written as an array of its values, in order.
-/

namespace ServiceAtlas

/-- The settings that a file sets; the others are left as they are. -/
structure SettingsFile where
  format : Option String := none
  quiet : Option Bool := none
  exclude : List String := []
  excludedDirs : Option (List String) := none
  respectGitignore : Option Bool := none
  endpointAnnotations : Option (List String) := none
  entityMarkers : Option (List String) := none
  routeDecorators : Option (List String) := none
  modelBase : Option String := none
  verbs : Option (List String) := none
  deriving DecidableEq, Repr

namespace SettingsFile

open Toml (Value)

def string? : Value → Option String
  | .string s => some s
  | _ => none

def bool? : Value → Option Bool
  | .bool b => some b
  | _ => none

def strings? : Value → Option (List String)
  | .array items => items.mapM string?
  | _ => none

/-- A section's values in the order of its fields, `none` for those that are not given. An array has to
give them all. -/
def fields? (names : List String) : Value → Option (List (Option Value))
  | .table _ entries => some (names.map fun name => entries.lookup name)
  | .array items => inOrder items
  | .tables elements => inOrder elements
  | _ => none
where
  inOrder (items : List Value) : Option (List (Option Value)) :=
    if names.length ≤ items.length then some ((items.take names.length).map some) else none

/-- Reads a field if it is given. -/
def given? {α : Type} (read : Value → Option α) : Option Value → Option (Option α)
  | none => some none
  | some v => (read v).map some

/-- Reads a section that has two fields, each with a name and a way to read it. -/
def fieldPair? {α β : Type} (first : String × (Value → Option α)) (second : String × (Value → Option β))
    (set : Option α → Option β → SettingsFile) (v : Value) : Option SettingsFile := do
  match ← fields? [first.1, second.1] v with
  | [x, y] => return set (← given? first.2 x) (← given? second.2 y)
  | _ => none

def defaults? (f : SettingsFile) : Value → Option SettingsFile :=
  fieldPair? ("format", string?) ("quiet", bool?) fun a b => { f with format := a, quiet := b }

def java? (f : SettingsFile) : Value → Option SettingsFile :=
  fieldPair? ("endpoint_annotations", strings?) ("entity_markers", strings?) fun a b =>
    { f with endpointAnnotations := a, entityMarkers := b }

def python? (f : SettingsFile) : Value → Option SettingsFile :=
  fieldPair? ("route_decorators", strings?) ("model_base", string?) fun a b =>
    { f with routeDecorators := a, modelBase := b }

def targeting? (f : SettingsFile) (v : Value) : Option SettingsFile := do
  match ← fields? ["exclude", "excluded_dirs", "respect_gitignore"] v with
  | [exclude, dirs, respect] =>
    return { f with
      exclude := (← given? strings? exclude).getD []
      excludedDirs := ← given? strings? dirs
      respectGitignore := ← given? bool? respect }
  | _ => none

def calls? (f : SettingsFile) (v : Value) : Option SettingsFile := do
  match ← fields? ["verbs"] v with
  | [verbs] => return { f with verbs := ← given? strings? verbs }
  | _ => none

def section? (f : SettingsFile) (e : String × Value) : Option SettingsFile :=
  match e.1 with
  | "defaults" => defaults? f e.2
  | "targeting" => targeting? f e.2
  | "java" => java? f e.2
  | "python" => python? f e.2
  | "calls" => calls? f e.2
  | _ => none

def read? (text : String) : Option SettingsFile :=
  match Toml.read? text with
  | some (.table _ entries) => entries.foldlM section? {}
  | _ => none

end SettingsFile

end ServiceAtlas
