import ServiceAtlas.Toml.Scalar

/-!
The four kinds of strings of TOML: on one line or several, with escapes or without.
-/

namespace ServiceAtlas.Toml

/-- The characters that may stand in comments and strings. -/
def isText (c : Char) : Bool := c == '\t' || (' ' ≤ c && c.toNat ≠ 0x7F)

def isSpace (c : Char) : Bool := c == ' ' || c == '\t'

/-- A line break, if the text begins with one: what is left after it. -/
def lineBreak? : List Char → Option (List Char)
  | '\n' :: cs => some cs
  | '\r' :: '\n' :: cs => some cs
  | _ => none

private def codePoint? (width : Nat) : Reader Char := fun cs =>
  (Text.numberedChar? width cs).map fun c => (c, cs.drop width)

/-- An escape, after its backslash. -/
def escape? : Reader Char
  | 'b' :: cs => some ('\x08', cs)
  | 'f' :: cs => some ('\x0C', cs)
  | 'n' :: cs => some ('\n', cs)
  | 'r' :: cs => some ('\r', cs)
  | 't' :: cs => some ('\t', cs)
  | '"' :: cs => some ('"', cs)
  | '\\' :: cs => some ('\\', cs)
  | 'u' :: cs => codePoint? 4 cs
  | 'U' :: cs => codePoint? 8 cs
  | _ => none

/-- The rest of a string with escapes, up to its closing quote. -/
def basicFrom? : Nat → List Char → Reader (List Char)
  | 0, _, _ => none
  | fuel + 1, taken, cs =>
    match cs with
    | [] => none
    | c :: rest =>
      if c = '"' then some (taken.reverse, rest)
      else if c = '\\' then
        (escape? rest).bind fun (d, rest) => basicFrom? fuel (d :: taken) rest
      else if isText c then basicFrom? fuel (c :: taken) rest
      else none

/-- The rest of a string without escapes. -/
def literalString? (cs : List Char) : Option (List Char × List Char) :=
  let inside := cs.takeWhile fun c => isText c && c != '\''
  match cs.drop inside.length with
  | '\'' :: rest => some (inside, rest)
  | _ => none

/-- Passes spaces and line breaks. -/
def skipLines : Nat → List Char → List Char
  | 0, cs => cs
  | fuel + 1, cs =>
    match lineBreak? cs with
    | some rest => skipLines fuel rest
    | none =>
      match cs with
      | c :: rest => if isSpace c then skipLines fuel rest else cs
      | [] => []

/-- A backslash at the end of a line: what is left after the line break and the spaces that follow. -/
private def joinedLines? (cs : List Char) : Option (List Char) :=
  (lineBreak? (cs.dropWhile isSpace)).map fun rest => skipLines rest.length rest

/-- The rest of a string of several lines. Up to two quotes may stand right before the closing three. -/
def multiLineFrom? (quote : Char) (escapes : Bool) : Nat → List Char → Reader (List Char)
  | 0, _, _ => none
  | fuel + 1, taken, cs =>
    match cs with
    | [] => none
    | c :: rest =>
      if c = quote then
        let run := (cs.takeWhile (· == quote)).length
        if run < 3 then multiLineFrom? quote escapes fuel (c :: taken) rest
        else
          let inside := min (run - 3) 2
          some (taken.reverse ++ List.replicate inside quote, cs.drop (inside + 3))
      else if escapes && c = '\\' then
        match joinedLines? rest with
        | some rest => multiLineFrom? quote escapes fuel taken rest
        | none => (escape? rest).bind fun (d, rest) => multiLineFrom? quote escapes fuel (d :: taken) rest
      else
        match lineBreak? cs with
        | some rest => multiLineFrom? quote escapes fuel ('\n' :: taken) rest
        | none => if isText c then multiLineFrom? quote escapes fuel (c :: taken) rest else none

private def multiLine? (quote : Char) (cs : List Char) : Option (List Char × List Char) :=
  let cs := (lineBreak? cs).getD cs
  multiLineFrom? quote (quote == '"') (cs.length + 1) [] cs

/-- A string of one line. -/
def lineString? : Reader (List Char)
  | '"' :: cs => basicFrom? (cs.length + 1) [] cs
  | '\'' :: cs => literalString? cs
  | _ => none

def string? : Reader Value := fun cs =>
  let text := match cs with
    | '"' :: '"' :: '"' :: rest => multiLine? '"' rest
    | '\'' :: '\'' :: '\'' :: rest => multiLine? '\'' rest
    | cs => lineString? cs
  text.map fun (s, rest) => (.string (String.ofList s), rest)

end ServiceAtlas.Toml
