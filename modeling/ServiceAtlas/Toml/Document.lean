import ServiceAtlas.Toml.StringText

/-!
TOML documents: key-value lines and headers, with arrays and inline tables as values.
-/

namespace ServiceAtlas.Toml

/-- Arrays and inline tables may be nested less than this deep, and keys have fewer parts. -/
def maxDepth : Nat := 80

def skipSpaces (cs : List Char) : List Char := cs.dropWhile isSpace

/-- Passes a comment, if there is one. -/
def skipComment : List Char → List Char
  | '#' :: cs => cs.dropWhile isText
  | cs => cs

/-- Passes spaces, comments and line breaks. -/
def skipBlanks : Nat → List Char → List Char
  | 0, cs => cs
  | fuel + 1, cs =>
    let cs := skipSpaces cs
    match cs with
    | '#' :: _ =>
      match lineBreak? (skipComment cs) with
      | some rest => skipBlanks fuel rest
      | none => cs
    | _ =>
      match lineBreak? cs with
      | some rest => skipBlanks fuel rest
      | none => cs

/-! Keys -/

private def isBare (c : Char) : Bool := c.isAlphanum || c == '-' || c == '_'

def simpleKey? : Reader String := fun cs =>
  match cs with
  | '"' :: _ | '\'' :: _ => (lineString? cs).map fun (s, rest) => (String.ofList s, rest)
  | _ =>
    let name := cs.takeWhile isBare
    if name.isEmpty then none else some (String.ofList name, cs.drop name.length)

/-- The parts of a key after the first, each behind a dot. -/
def keyRest? : Nat → Reader (List String)
  | 0, _ => none
  | fuel + 1, cs =>
    match skipSpaces cs with
    | '.' :: rest => do
      let (part, rest) ← simpleKey? (skipSpaces rest)
      let (parts, rest) ← keyRest? fuel rest
      return (part :: parts, rest)
    | rest => some ([], rest)

/-- A key: all parts but the last, and the last one. Spaces around it are passed. -/
def key? : Reader (List String × String) := fun cs => do
  let (first, rest) ← simpleKey? (skipSpaces cs)
  let (parts, rest) ← keyRest? (rest.length + 1) rest
  let all := first :: parts
  if maxDepth ≤ all.length then none
  let last ← all.getLast?
  return ((all.dropLast, last), rest)

/-! Values -/

mutual

/-- A value; `depth` counts the arrays and inline tables around it. -/
def value? : (fuel depth : Nat) → Reader Value
  | 0, _, _ => none
  | fuel + 1, depth, cs =>
    match cs with
    | [] => none
    | c :: rest =>
      if c = '"' || c = '\'' then string? cs
      else if c = '[' then
        if maxDepth ≤ depth + 1 then none
        else (items? fuel (depth + 1) rest).map fun (vs, rest) => (.array vs, rest)
      else if c = '{' then
        if maxDepth ≤ depth + 1 then none
        else inline? fuel (depth + 1) rest
      else if c = 't' || c = 'f' then bool? cs
      else if c = 'i' || c = 'n' then specialFloat? cs
      else number? cs

/-- The items of an array up to its closing bracket; a comma may stand after the last one. -/
def items? : (fuel depth : Nat) → Reader (List Value)
  | 0, _, _ => none
  | fuel + 1, depth, cs =>
    match skipBlanks (cs.length + 1) cs with
    | ']' :: rest => some ([], rest)
    | cs => do
      let (v, rest) ← value? fuel depth cs
      match skipBlanks (rest.length + 1) rest with
      | ',' :: rest => do
        let (vs, rest) ← items? fuel depth rest
        return (v :: vs, rest)
      | ']' :: rest => return ([v], rest)
      | _ => none

/-- An inline table after its opening brace. -/
def inline? : (fuel depth : Nat) → Reader Value
  | 0, _, _ => none
  | fuel + 1, depth, cs =>
    match skipSpaces cs with
    | '}' :: rest => some (.emptyTable .inline, rest)
    | cs => pairs? fuel depth (.emptyTable .inline) cs

/-- The pairs of an inline table up to its closing brace, entered into `t`. -/
def pairs? : (fuel depth : Nat) → Value → Reader Value
  | 0, _, _, _ => none
  | fuel + 1, depth, t, cs => do
    let ((path, key), rest) ← key? cs
    let (_, rest) ← char? '=' rest
    let (v, rest) ← value? fuel depth (skipSpaces rest)
    let t ← t.put? path key v
    match skipSpaces rest with
    | ',' :: rest => pairs? fuel depth t rest
    | '}' :: rest => return (t, rest)
    | _ => none

end

/-! Lines -/

/-- A document in progress: all of it, and the place of the table that lines belong to. -/
structure Draft where
  root : Value
  place : List String

def Draft.start : Draft := ⟨.emptyTable .header, []⟩

/-- The end of a line: perhaps a comment, then a line break or the end of the text. -/
def lineEnd? (cs : List Char) : Option (List Char) :=
  match skipComment (skipSpaces cs) with
  | [] => some []
  | cs => lineBreak? cs

/-- A header after its first bracket. -/
def header? (d : Draft) (cs : List Char) : Option (Draft × List Char) :=
  match cs with
  | '[' :: cs => do
    let ((path, key), rest) ← key? cs
    let (_, rest) ← char? ']' rest
    let (_, rest) ← char? ']' rest
    return (⟨← d.root.openElement? path key, path ++ [key]⟩, rest)
  | cs => do
    let ((path, key), rest) ← key? cs
    let (_, rest) ← char? ']' rest
    return (⟨← d.root.openTable? path key, path ++ [key]⟩, rest)

/-- A key and its value, entered into the current table. -/
def pair? (d : Draft) (cs : List Char) : Option (Draft × List Char) := do
  let ((path, key), rest) ← key? cs
  let (_, rest) ← char? '=' rest
  let cs := skipSpaces rest
  let (v, rest) ← value? (2 * (cs.length + 1)) 0 cs
  return ({ d with root := ← d.root.atHeader? (·.put? path key v) d.place }, rest)

/-- Reads lines to the end of the text. -/
def lines? : Nat → Draft → List Char → Option Draft
  | 0, _, _ => none
  | fuel + 1, d, cs =>
    match skipSpaces cs with
    | [] => some d
    | c :: rest => do
      let (d, rest) ←
        if c = '[' then header? d rest
        else if c = '#' || c = '\n' || c = '\r' then some (d, c :: rest)
        else pair? d (c :: rest)
      lines? fuel d (← lineEnd? rest)

/-- The table that a document describes. A leading byte-order mark is passed over. -/
def read? (text : String) : Option Value :=
  let cs := match text.toList with
    | '\uFEFF' :: rest => rest
    | cs => cs
  (lines? (cs.length + 1) .start cs).map (·.root)

end ServiceAtlas.Toml
