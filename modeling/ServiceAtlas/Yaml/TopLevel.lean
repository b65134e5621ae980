import ServiceAtlas.Text.Basic
import ServiceAtlas.Yaml.Printer

/-!
The pairs at the top of a YAML document, with their values as text.
-/

namespace ServiceAtlas.Yaml

/-- What keeps a document from having pairs. -/
inductive Fault where
  | malformed
  | empty
  | noMapping
  deriving DecidableEq, Repr

def Fault.message : Fault → String
  | .malformed => "malformed document"
  | .empty => "document is empty"
  | .noMapping => "top level is not a mapping"

/-- A scalar without its quotes, and a collection as a document without blanks at its end. -/
def Value.text? : Value → Option String
  | .null => some ""
  | .bool b => some (if b then "true" else "false")
  | .number n => some n.text
  | .string s => some s
  | v => v.render?.map fun s => String.ofList (Text.trimEnd s.toList)

/-- Pairs whose key is a string, in order. -/
def textPairs? : List (Value × Value) → Option (List (String × String))
  | [] => some []
  | (.string key, v) :: rest => do
    let text ← v.text?
    return (key, text) :: (← textPairs? rest)
  | _ :: rest => textPairs? rest

def topLevel (text : String) : Except Fault (List (String × String)) :=
  match Value.read? text with
  | none => .error .malformed
  | some .null => .error .empty
  | some (.mapping pairs) =>
    match textPairs? pairs with
    | some found => .ok found
    | none => .error .malformed
  | some _ => .error .noMapping

end ServiceAtlas.Yaml
