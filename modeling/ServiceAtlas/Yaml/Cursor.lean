/-!
Places in a YAML text, and the classes of characters that its tokens are told by.
-/

namespace ServiceAtlas.Yaml

/-- What is left of a text, how many characters came before, and the line and column it begins at. -/
structure Cursor where
  rest : List Char
  index : Nat
  line : Nat
  column : Nat

def isBreak (c : Char) : Bool :=
  c == '\n' || c == '\r' || c == '\x85' || c == '\u2028' || c == '\u2029'

def isBlank (c : Char) : Bool := c == ' ' || c == '\t'

/-- Letters, digits, hyphen and underscore. -/
def isName (c : Char) : Bool := c.isAlphanum || c == '-' || c == '_'

/-- Whether a text begins with a blank or a line break, or is at its end. -/
def endsWord : List Char → Bool
  | [] => true
  | c :: _ => isBlank c || isBreak c

/-- Whether a text begins with a line break or is at its end. -/
def endsLine : List Char → Bool
  | [] => true
  | c :: _ => isBreak c

/-- The characters a YAML text may hold. -/
def isAllowed (c : Char) : Bool :=
  let n := c.toNat
  n == 0x09 || n == 0x0A || n == 0x0D || (0x20 ≤ n && n ≤ 0x7E) || n == 0x85 ||
    (0xA0 ≤ n && n ≤ 0xD7FF) || (0xE000 ≤ n && n ≤ 0xFFFD) || 0x10000 ≤ n

namespace Cursor

def head? (c : Cursor) : Option Char := c.rest.head?

def isHead (c : Cursor) (test : Char → Bool) : Bool := c.rest.head?.any test

/-- Moves over `n` characters of a line. -/
def skip (c : Cursor) (n : Nat) : Cursor :=
  { c with rest := c.rest.drop n, index := c.index + n, column := c.column + n }

/-- Moves over all characters in front that pass the test, none of which may be a line break. -/
def skipWhile (c : Cursor) (test : Char → Bool) : Cursor :=
  c.skip (c.rest.takeWhile test).length

/-- Moves over a line break. -/
def skipBreak (c : Cursor) : Cursor :=
  match c.rest with
  | '\r' :: '\n' :: rest => ⟨rest, c.index + 2, c.line + 1, 0⟩
  | _ :: rest => ⟨rest, c.index + 1, c.line + 1, 0⟩
  | [] => c

/-- What a line break contributes to a scalar. -/
def breakText (c : Cursor) : List Char :=
  match c.rest with
  | '\u2028' :: _ => ['\u2028']
  | '\u2029' :: _ => ['\u2029']
  | _ => ['\n']

/-- Whether three dots or hyphens stand at the start of the line, as a word of their own. -/
def atDocumentMark (c : Cursor) : Bool :=
  c.column == 0 &&
    match c.rest with
    | '-' :: '-' :: '-' :: rest => endsWord rest
    | '.' :: '.' :: '.' :: rest => endsWord rest
    | _ => false

end Cursor

end ServiceAtlas.Yaml
