import ServiceAtlas.Text.Basic

/-!
File paths. A path keeps the text it was given, which is how it is shown; what it means is its list
of components, in which repeated separators and inner `.` segments have no trace.
-/

namespace ServiceAtlas

structure Path where
  text : String
  deriving DecidableEq, Repr, Inhabited

namespace Path

inductive Component where
  | root
  | here
  | up
  | name (s : String)
  deriving DecidableEq, Repr

def Component.text : Component → String
  | .root => "/"
  | .here => "."
  | .up => ".."
  | .name s => s

def Component.name? : Component → Option String
  | .name s => some s
  | _ => none

def isAbsolute (p : Path) : Bool := p.text.toList.head? = some '/'

/-- The step that a segment is, wherever it stands. -/
def Component.ofSegment? (segment : List Char) : Option Component :=
  if segment = [] ∨ segment = ['.'] then none
  else if segment = ['.', '.'] then some .up
  else some (.name (String.ofList segment))

/-- The steps of a path. A `.` counts only as the first segment of a relative path. -/
def components (p : Path) : List Component :=
  match Text.splitAtEach '/' p.text.toList with
  | [] => []
  | first :: rest =>
    if p.isAbsolute then .root :: rest.filterMap Component.ofSegment?
    else if first = ['.'] then .here :: rest.filterMap Component.ofSegment?
    else (first :: rest).filterMap Component.ofSegment?

/-- The path with the given steps, written with single separators. -/
def ofComponents : List Component → Path
  | .root :: steps => ⟨"/" ++ "/".intercalate (steps.map Component.text)⟩
  | steps => ⟨"/".intercalate (steps.map Component.text)⟩

/-- The named steps, from the top. -/
def names (p : Path) : List String := p.components.filterMap Component.name?

/-- Two paths are the same place when they have the same steps. -/
def same (p q : Path) : Bool := p.components = q.components

/-- `q` as seen from `p`; an absolute `q` stays as it is. -/
def join (p q : Path) : Path :=
  if q.isAbsolute then q
  else if p.text.isEmpty || p.text.toList.getLast? = some '/' then ⟨p.text ++ q.text⟩
  else ⟨p.text ++ "/" ++ q.text⟩

/-- The last step, if it is a name. -/
def fileName? (p : Path) : Option String :=
  p.components.getLast?.bind Component.name?

/-- What follows the last dot of the file name, unless that dot begins the name. -/
def extension? (p : Path) : Option String :=
  p.fileName?.bind fun name =>
    let rev := name.toList.reverse
    match rev.dropWhile (· != '.') with
    | _ :: _ :: _ => some (String.ofList (rev.takeWhile (· != '.')).reverse)
    | _ => none

/-- The text up to the end of each step, from the first on. -/
def stepEnds (p : Path) : List String :=
  let segments := Text.splitAtEach '/' p.text.toList
  let isStep (n : Nat) (segment : List Char) : Bool :=
    if segment.isEmpty then n = 0 && p.isAbsolute
    else segment ≠ ['.'] || n = 0
  let ends := (List.range segments.length).filter fun n => isStep n (segments.getD n [])
  ends.map fun n =>
    if n = 0 && p.isAbsolute then "/"
    else String.ofList (List.intercalate ['/'] (segments.take (n + 1)))

/-- The path without its last step, written as it was; the root and the empty path have none. -/
def parent? (p : Path) : Option Path :=
  match p.stepEnds.reverse with
  | [] => none
  | [only] => if only = "/" then none else some ⟨""⟩
  | _ :: above :: _ => some ⟨above⟩

/-- The path and all paths above it, from the inside out. -/
def upwards : Nat → Path → List Path
  | 0, p => [p]
  | fuel + 1, p =>
    match p.parent? with
    | none => [p]
    | some above => p :: upwards fuel above

/-- The path and all paths above it. -/
def ancestors (p : Path) : List Path := upwards p.text.length p

/-- The directory that holds the path, as steps. -/
def parentSteps (p : Path) : List Component := p.components.dropLast

/-- The steps up to the first one with a wanted name, after those already passed. -/
def firstNamed (wanted : List String) :
    List Component → List Component → Option (List Component)
  | _, [] => none
  | above, step :: rest =>
    match step with
    | .name s => if s ∈ wanted then some (above ++ [step]) else firstNamed wanted (above ++ [step]) rest
    | _ => firstNamed wanted (above ++ [step]) rest

/-- The topmost directory above `p` whose name is one of `excluded`. -/
def excludedAncestor? (p : Path) (excluded : List String) : Option Path :=
  (firstNamed excluded [] p.parentSteps).map ofComponents

end Path

end ServiceAtlas
