import ServiceAtlas.Text.Basic

/-!
The output formats, and the choice of one for a command.
-/

namespace ServiceAtlas

inductive Format where
  | json
  | text
  | dot
  deriving DecidableEq, Repr

namespace Format

def name : Format → String
  | .json => "json"
  | .text => "text"
  | .dot => "dot"

/-- Reads a format's name in any case. -/
def ofName? (s : String) : Option Format :=
  match Text.lower s with
  | "json" => some .json
  | "text" => some .text
  | "dot" => some .dot
  | _ => none

/-- What a command can print: its name, the formats it knows and the one it prefers. -/
structure Offer where
  command : String
  supported : List Format
  preferred : Format

/-- How a format was arrived at. -/
inductive Choice where
  | use (format : Format)
  | fallback (configured : String) (format : Format)
  | refuse (format : Format)
  deriving DecidableEq, Repr

/-- A format that is asked for must be supported; one that is merely configured gives way to the
preferred format when the command cannot print it. -/
def Offer.choose (o : Offer) (asked : Option Format) (configured : Option String) : Choice :=
  match asked, configured with
  | some f, _ => if f ∈ o.supported then .use f else .refuse f
  | none, none => .use o.preferred
  | none, some word =>
    match ofName? word with
    | some f => if f ∈ o.supported then .use f else .fallback word o.preferred
    | none => .fallback word o.preferred

end Format

end ServiceAtlas
