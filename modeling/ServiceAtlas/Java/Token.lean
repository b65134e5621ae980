import ServiceAtlas.Text.Basic
import ServiceAtlas.Text.Identifier

/-!
The tokens of a Java source. Tokens lose nothing: each keeps the blanks and comments in front of it,
so that the tokens in order, with what follows the last one, spell the source. A string template is
cut at its holes, with the tokens of each hole between the pieces. A closing angle bracket is always a
token of its own, because only the grammar knows whether two of them are a shift.
-/

namespace ServiceAtlas.Java

inductive TokenKind where
  | word
  | number
  | character
  | string
  | stringOpen
  | stringMiddle
  | stringClose
  | sign
  deriving DecidableEq, Repr

structure Token where
  lead : List Char
  kind : TokenKind
  text : String
  deriving DecidableEq, Repr

namespace Token

/-- All characters of the token, what stands before it included. -/
def chars (t : Token) : List Char := t.lead ++ t.text.toList

end Token

/-! Blanks and comments -/

/-- Takes a block comment up to its end, if it has one. -/
def blockComment? (taken : List Char) : List Char → Option (List Char × List Char)
  | '*' :: '/' :: rest => some ('/' :: '*' :: taken, rest)
  | c :: rest => blockComment? (c :: taken) rest
  | [] => none

theorem length_blockComment? {taken cs t r : List Char} (h : blockComment? taken cs = some (t, r)) :
    r.length ≤ cs.length := by
  fun_induction blockComment? taken cs with
  | case1 taken rest => cases h; simp; omega
  | case2 taken c rest _ ih => have := ih h; simp; omega
  | case3 => cases h

/-- Takes blanks and comments; `taken` holds them in reverse. A block comment without end fails. -/
def skipBlanks? (taken cs : List Char) : Option (List Char × List Char) :=
  match cs with
  | '/' :: '/' :: rest =>
    skipBlanks? ((rest.takeWhile (· != '\n')).reverse ++ '/' :: '/' :: taken)
      (rest.dropWhile (· != '\n'))
  | '/' :: '*' :: rest =>
    match _h : blockComment? ('*' :: '/' :: taken) rest with
    | some (taken, rest) => skipBlanks? taken rest
    | none => none
  | c :: rest => if Text.isBlank c then skipBlanks? (c :: taken) rest else some (taken, c :: rest)
  | [] => some (taken, [])
termination_by cs.length
decreasing_by
  · have : (rest.dropWhile (· != '\n')).length ≤ rest.length := (List.dropWhile_sublist _).length_le
    simp; omega
  · have := length_blockComment? _h
    simp; omega
  · simp

/-! Words -/

def isWordStart (c : Char) : Bool := Text.isIdentifierStart c || c == '_' || c == '$'

def isWordContinue (c : Char) : Bool :=
  Text.isIdentifierContinue c || c == '_' || c == '$' || c == '¢'

/-! Numbers. Each function gives what is left after the longest match. -/

/-- More digits, with single underscores between groups. -/
def moreGroups (base : Nat) : List Char → List Char
  | c :: cs =>
    if Text.isDigitIn base c then moreGroups base cs
    else if c = '_' then
      match cs with
      | d :: ds => if Text.isDigitIn base d then moreGroups base ds else c :: d :: ds
      | [] => [c]
    else c :: cs
  | [] => []

/-- Digits with single underscores between groups. -/
def groups? (base : Nat) : List Char → Option (List Char)
  | c :: cs => if Text.isDigitIn base c then some (moreGroups base cs) else none
  | [] => none

/-- More decimal digits, with any number of underscores between groups. The first argument is where
the last digit ended, the second whether underscores follow it. -/
def looseGroups : List Char → Bool → List Char → List Char
  | back, inside, c :: cs =>
    if c.isDigit then looseGroups cs false cs
    else if c = '_' then looseGroups back true cs
    else if inside then back else c :: cs
  | back, inside, [] => if inside then back else []

/-- A decimal number without leading zeros. -/
def decimal? : List Char → Option (List Char)
  | '0' :: cs => some cs
  | c :: cs =>
    if c.isDigit then
      match cs with
      | '_' :: d :: ds => if d.isDigit then some (looseGroups ds false ds) else some cs
      | d :: ds => if d.isDigit then some (looseGroups ds false ds) else some cs
      | [] => some cs
    else none
  | [] => none

def isLong (c : Char) : Bool := c == 'l' || c == 'L'

def isFloatSuffix (c : Char) : Bool := c == 'f' || c == 'F' || c == 'd' || c == 'D'

def isSign (c : Char) : Bool := c == '+' || c == '-'

def exponent? (cs : List Char) : Option (List Char) := do
  let cs ← Text.afterOne? (fun c => c == 'e' || c == 'E') cs
  groups? 10 (Text.skipOne isSign cs)

def binaryExponent? (cs : List Char) : Option (List Char) := do
  let cs ← Text.afterOne? (fun c => c == 'p' || c == 'P') cs
  let cs ← groups? 10 (Text.skipOne isSign cs)
  some (Text.skipOne isFloatSuffix cs)

def tag? (letters : List Char) : List Char → Option (List Char)
  | '0' :: c :: cs => if c ∈ letters then some cs else none
  | _ => none

def numberForms (cs : List Char) : List (Option (List Char)) :=
  let hex := tag? ['x', 'X'] cs
  [ (decimal? cs).map (Text.skipOne isLong),
    (hex >>= groups? 16).map (Text.skipOne isLong),
    (tag? ['o', 'O'] cs >>= groups? 8).map (Text.skipOne isLong),
    (Text.afterOne? (· == '0') cs >>= groups? 8).map (Text.skipOne isLong),
    (tag? ['b', 'B'] cs >>= groups? 2).map (Text.skipOne isLong),
    do
      let cs ← groups? 10 cs
      let cs ← Text.afterOne? (· == '.') cs
      let cs := (groups? 10 cs).getD cs
      some (Text.skipOne isFloatSuffix ((exponent? cs).getD cs)),
    do
      let cs ← Text.afterOne? (· == '.') cs
      let cs ← groups? 10 cs
      some (Text.skipOne isFloatSuffix ((exponent? cs).getD cs)),
    do
      let cs ← decimal? cs
      let cs ← exponent? cs
      some (Text.skipOne isFloatSuffix cs),
    do
      let cs ← decimal? cs
      Text.afterOne? isFloatSuffix ((exponent? cs).getD cs),
    do
      let cs ← hex >>= groups? 16
      let cs := Text.skipOne (· == '.') cs
      some ((binaryExponent? cs).getD cs),
    do
      let cs ← hex
      let cs := (groups? 16 cs).getD cs
      let cs ← Text.afterOne? (· == '.') cs
      let cs ← groups? 16 cs
      some ((binaryExponent? cs).getD cs) ]

/-- What follows the longest number at the front. -/
def afterNumber? (cs : List Char) : Option (List Char) := Text.longestMatch (numberForms cs)

/-! Character literals and strings -/

/-- Takes a character literal from behind its first quote; `filled` says whether it holds something. -/
def characterTail? (filled : Bool) (taken : List Char) :
    List Char → Option (List Char × List Char)
  | '\\' :: c :: cs => characterTail? true (c :: '\\' :: taken) cs
  | '\'' :: cs => if filled then some ('\'' :: taken, cs) else none
  | c :: cs => if c = '\n' ∨ c = '\\' then none else characterTail? true (c :: taken) cs
  | [] => none

/-- How a piece of a string ends: with the string, or before a hole. -/
inductive PieceEnd where
  | closed
  | hole
  deriving DecidableEq, Repr

def isUnicodeEscape (cs : List Char) : Bool :=
  match cs with
  | '{' :: rest =>
    let digits := rest.takeWhile (Text.isDigitIn 16)
    !digits.isEmpty && (rest.drop digits.length).head? == some '}'
  | _ => Text.beginsWithDigits 16 4 cs

/-- Whether an escape with the letter `c` may go on with `cs`. -/
def isEscape (c : Char) (cs : List Char) : Bool :=
  match c with
  | 'x' => Text.beginsWithDigits 16 2 cs
  | 'u' => isUnicodeEscape cs
  | _ => true

/-- Takes a piece of a string between double quotes. -/
def stringPiece? (taken : List Char) : List Char → Option (PieceEnd × List Char × List Char)
  | '"' :: cs => some (.closed, '"' :: taken, cs)
  | '\\' :: '{' :: cs => some (.hole, '{' :: '\\' :: taken, cs)
  | '\\' :: c :: cs => if isEscape c cs then stringPiece? (c :: '\\' :: taken) cs else none
  | c :: cs => if c = '\\' then none else stringPiece? (c :: taken) cs
  | [] => none

/-- Takes a piece of a text block. -/
def blockPiece? (taken : List Char) : List Char → Option (PieceEnd × List Char × List Char)
  | '"' :: '"' :: '"' :: cs => some (.closed, '"' :: '"' :: '"' :: taken, cs)
  | '\\' :: '{' :: cs => some (.hole, '{' :: '\\' :: taken, cs)
  | '\\' :: c :: cs => blockPiece? (c :: '\\' :: taken) cs
  | c :: cs => if c = '\\' then none else blockPiece? (c :: taken) cs
  | [] => none

/-! Signs -/

/-- The signs of more than one character, the longer ones first where one begins another. -/
def longSigns : List String :=
  ["@interface", "...", ">>>=", ">>=", "<<=", "::", "->", "++", "--", "+=", "-=", "*=", "/=", "&=",
   "|=", "^=", "%=", ">=", "<=", "==", "!=", "&&", "||", "<<"]

def shortSigns : List Char :=
  ['(', ')', '{', '}', '[', ']', ';', ',', '.', '@', '=', '>', '<', '!', '~', '?', ':', '+', '-',
   '*', '/', '&', '|', '^', '%']

def sign? (cs : List Char) : Option (String × List Char) :=
  match longSigns.find? fun s => s.toList.isPrefixOf cs with
  | some s => some (s, cs.drop s.length)
  | none =>
    match cs with
    | c :: rest => if c ∈ shortSigns then some (String.singleton c, rest) else none
    | [] => none

/-! The token list -/

/-- A hole of a string template that is being read: how many braces are open in it, and whether the
template is a text block. -/
structure Hole where
  depth : Nat
  block : Bool
  deriving DecidableEq, Repr

/-- One token, what follows it, and the holes that are open after it. -/
structure Lexeme where
  kind : TokenKind
  text : List Char
  rest : List Char
  holes : List Hole

/-- The token of a piece of a string, of one kind if it ends the string and of another if it ends before
a hole. -/
def pieceLexeme (closed opened : TokenKind) (block : Bool) (holes : List Hole) :
    Option (PieceEnd × List Char × List Char) → Option Lexeme
  | some (.closed, taken, rest) => some ⟨closed, taken.reverse, rest, holes⟩
  | some (.hole, taken, rest) => some ⟨opened, taken.reverse, rest, ⟨0, block⟩ :: holes⟩
  | none => none

def startPiece : Bool → List Hole → Option (PieceEnd × List Char × List Char) → Option Lexeme :=
  pieceLexeme .string .stringOpen

def resumePiece : Bool → List Hole → Option (PieceEnd × List Char × List Char) → Option Lexeme :=
  pieceLexeme .stringClose .stringMiddle

def piece? (block : Bool) (taken cs : List Char) : Option (PieceEnd × List Char × List Char) :=
  if block then blockPiece? taken cs else stringPiece? taken cs

def deeper : List Hole → List Hole
  | h :: hs => { h with depth := h.depth + 1 } :: hs
  | [] => []

def signLexeme? (holes : List Hole) (cs : List Char) : Option Lexeme :=
  match sign? cs with
  | some (s, rest) => some ⟨.sign, s.toList, rest, if s = "\x7b" then deeper holes else holes⟩
  | none => none

/-- The token at the front of a text that begins with neither blank nor comment. -/
def lexeme? (holes : List Hole) (cs : List Char) : Option Lexeme :=
  match cs with
  | [] => none
  | c :: rest =>
    if isWordStart c then
      some ⟨.word, c :: rest.takeWhile isWordContinue, rest.dropWhile isWordContinue, holes⟩
    else if c = '"' then
      match rest with
      | '"' :: '"' :: rest => startPiece true holes (blockPiece? ['"', '"', '"'] rest)
      | _ => startPiece false holes (stringPiece? ['"'] rest)
    else if c = '\'' then
      (characterTail? false ['\''] rest).map fun (taken, rest) =>
        ⟨.character, taken.reverse, rest, holes⟩
    else if c = '}' then
      match holes with
      | ⟨0, block⟩ :: holes => resumePiece block holes (piece? block ['}'] rest)
      | ⟨n + 1, block⟩ :: holes => some ⟨.sign, ['}'], rest, ⟨n, block⟩ :: holes⟩
      | [] => some ⟨.sign, ['}'], rest, []⟩
    else
      match afterNumber? cs with
      | some after => some ⟨.number, cs.take (cs.length - after.length), after, holes⟩
      | none => signLexeme? holes cs

/-- The tokens of a text, and what follows the last of them. Fails where no token can be read. -/
def scan? (holes : List Hole) (cs : List Char) : Option (List Token × List Char) :=
  match skipBlanks? [] cs with
  | none => none
  | some (lead, []) => some ([], lead.reverse)
  | some (lead, c :: rest) =>
    match lexeme? holes (c :: rest) with
    | none => none
    | some l =>
      if l.rest.length < cs.length then
        (scan? l.holes l.rest).map fun (tokens, trail) =>
          (⟨lead.reverse, l.kind, String.ofList l.text⟩ :: tokens, trail)
      else none
termination_by cs.length

/-- The tokens of a source. A byte-order mark at its front is passed over; a NUL character is never
part of a token. -/
def tokens? (cs : List Char) : Option (List Token) :=
  if '\x00' ∈ cs then none else (scan? [] (Text.skipMark cs)).map Prod.fst

end ServiceAtlas.Java
