import ServiceAtlas.Outline.Rule
import ServiceAtlas.Python.Layout
import ServiceAtlas.Text.Basic
import ServiceAtlas.Text.Identifier

/-!
Reading a Python source by characters: the place in the text with the open blocks, what a source
declares, and the rules for layout, words, signs and numbers.
-/

namespace ServiceAtlas.Python

/-- What is left of the text, the line it begins on, the indentations of the open blocks with the
innermost first, and whether a format string is being read. -/
structure Cursor where
  line : Nat
  rest : List Char
  levels : List Nat
  format : Bool

instance : Place Cursor where
  line := Cursor.line
  size c := c.rest.length
  lastLine c := c.line + Text.newlines c.rest
  line_le_lastLine _ := Nat.le_add_right _ _

/-- A string literal: its content as written, or nothing if parts of it are computed. -/
abbrev StringContent := Option String

/-- The first argument of a call that is not given by name. A line continuation before it counts as
one. -/
inductive Argument where
  | none
  | strings (contents : List StringContent)
  | constant (text : String)
  | other
  deriving DecidableEq, Repr

/-- A decorator: a call of an attribute, by its name, or any other expression. A decorator whose line is
split behind its sign is no call. -/
inductive Decorator where
  | call (verb : String) (first : Argument)
  | other
  deriving DecidableEq, Repr

/-- A parameter of a function. -/
inductive Parameter where
  | named (name : String)
  /-- The mark after positional-only parameters. -/
  | slash
  /-- A star in any form, a tuple, or a line continuation between parameters. -/
  | other
  deriving DecidableEq, Repr

/-- A function with its decorators, or a class with those of its bases that are plain names. -/
inductive Declaration where
  | function (decorators : List Decorator) (parameters : List Parameter)
  | type (name : String) (bases : List String)
  deriving DecidableEq, Repr

abbrev PythonRule := Rule Cursor Declaration

/-- Moves over `n` characters. -/
def Cursor.advance (c : Cursor) (n : Nat) : Cursor :=
  { c with line := c.line + Text.newlines (c.rest.take n), rest := c.rest.drop n }

private theorem ordered_advance (c : Cursor) (n : Nat) :
    Ordered (δ := Declaration) c [] (c.advance n) where
  size_le := by simp [Place.size, Cursor.advance]
  line_le := by simp [Place.line, Cursor.advance]
  lastLine_eq := by
    have hcount : c.rest.count '\n' = (c.rest.take n).count '\n' + (c.rest.drop n).count '\n' := by
      rw [← List.count_append, List.take_append_drop]
    simp only [Place.lastLine, Cursor.advance, Text.newlines]
    omega
  sorted := .nil
  within := by simp

/-- Takes as many characters as the scanner says. -/
def take {α : Type} (scan : List Char → Option (α × Nat)) : PythonRule α where
  read c :=
    match scan c.rest with
    | none => none
    | some (a, n) => some ⟨a, [], c.advance n⟩
  ordered {s r} h := by
    split at h
    · cases h
    · cases h; exact ordered_advance s _

/-! Layout -/

def Cursor.ahead (c : Cursor) (e : Expect) : Ahead :=
  Python.ahead e c.levels c.format c.rest

/-- Passes the blanks before the next token. Fails where the next token is one of layout. -/
def fetch (e : Expect) : PythonRule Unit where
  read c :=
    match c.ahead e with
    | .layout _ => none
    | .token n => some ⟨(), [], c.advance n⟩
  ordered {s r} h := by
    split at h
    · cases h
    · cases h; exact ordered_advance s _

private theorem ordered_same {s s' : Cursor} (h : s'.rest = s.rest) (h' : s'.line = s.line) :
    Ordered (δ := Declaration) s [] s' where
  size_le := by simp [Place.size, h]
  line_le := by simp [Place.line, h']
  lastLine_eq := by simp [Place.lastLine, h, h']
  sorted := .nil
  within := by simp

/-- Takes a layout token, which has no width. -/
def layout (e : Expect) (accept : LayoutToken → List Nat → Option (List Nat)) : PythonRule Unit where
  read c :=
    match c.ahead e with
    | .token _ => none
    | .layout token =>
      match accept token c.levels with
      | none => none
      | some levels => some ⟨(), [], { c with levels }⟩
  ordered {s r} h := by
    split at h
    · cases h
    · split at h
      · cases h
      · cases h; exact ordered_same rfl rfl

/-- The end of a line, where the grammar expects `e`. -/
def newline (e : Expect) : PythonRule Unit := layout e fun
  | .newline, levels => some levels
  | _, _ => none

def indent (e : Expect) : PythonRule Unit := layout e fun
  | .indent width, levels => some (openBlock width levels)
  | _, _ => none

def dedent (e : Expect) : PythonRule Unit := layout e fun
  | .dedent, levels => some levels.tail
  | _, _ => none

/-- Notes whether a format string is being read. -/
def setFormat (format : Bool) : PythonRule Unit where
  read c := some ⟨(), [], { c with format }⟩
  ordered h := by cases h; exact ordered_same rfl rfl

/-- The end of the source. -/
def atEnd : PythonRule Unit where
  read c := if c.rest.isEmpty then some ⟨(), [], c⟩ else none
  ordered {s r} h := by
    split at h
    · cases h; exact .stay _
    · cases h

/-! Words and signs. These rules do not pass blanks. -/

def isWordStart (c : Char) : Bool := Text.isIdentifierStart c || c == '_'

/-- The word at the front, empty if there is none. -/
def wordAt : List Char → List Char
  | c :: cs => if isWordStart c then c :: cs.takeWhile Text.isIdentifierContinue else []
  | [] => []

/-- A word other than those refused. Which words are keywords depends on the place. -/
def wordExcept (refused : List String) : PythonRule String := take fun cs =>
  let w := wordAt cs
  let text := String.ofList w
  if w.isEmpty || refused.contains text then none else some (text, w.length)

def word : PythonRule String := wordExcept []

def wordIn (words : List String) : PythonRule String := take fun cs =>
  let w := wordAt cs
  let text := String.ofList w
  if words.contains text then some (text, w.length) else none

def keyword (w : String) : PythonRule Unit := (wordIn [w]).skip

/-- The signs, the longer ones first where one begins another. -/
def signs : List String :=
  ["**=", "//=", ">>=", "<<=", "...", "!=", "**", "//", "<<", ">>", "<=", ">=", "==", "<>", "->",
   "+=", "-=", "*=", "/=", "%=", "@=", "&=", "|=", "^=", ":=", "+", "-", "*", "/", "%", "@", "&", "|",
   "^", "~", "<", ">", "(", ")", "[", "]", "\x7b", "\x7d", ",", ":", ".", ";", "="]

def signAt? (cs : List Char) : Option String := signs.find? fun s => s.toList.isPrefixOf cs

def signIn (ss : List String) : PythonRule String := take fun cs =>
  match signAt? cs with
  | some s => if ss.contains s then some (s, s.length) else none
  | none => none

def sign (s : String) : PythonRule Unit := (signIn [s]).skip

/-- A single dot, whatever follows it. -/
def dot : PythonRule Unit := take fun cs => if cs.head? = some '.' then some ((), 1) else none

/-- The text between two places. -/
def Cursor.textUpTo (start stop : Cursor) : String :=
  String.ofList (start.rest.take (start.rest.length - stop.rest.length))

/-- The rule, with the text that it was read from. -/
def withText {α : Type} (p : PythonRule α) : PythonRule (α × String) := do
  let start ← Rule.place
  let a ← p
  let stop ← Rule.place
  return (a, start.textUpTo stop)

/-! Numbers -/

/-- Digits, each group of which may end in an underscore. -/
def digits? (cs : List Char) : Option (List Char) :=
  let rec more : List Char → List Char
    | '_' :: c :: cs => if c.isDigit then more cs else c :: cs
    | ['_'] => []
    | c :: cs => if c.isDigit then more cs else c :: cs
    | [] => []
  match cs with
  | c :: cs => if c.isDigit then some (more cs) else none
  | [] => none

/-- Groups of digits, each of which may begin with an underscore. -/
def tagged? (letters : List Char) (base : Nat) (cs : List Char) : Option (List Char) :=
  let rec more : List Char → List Char
    | '_' :: c :: cs => if Text.isDigitIn base c then more cs else '_' :: c :: cs
    | c :: cs => if Text.isDigitIn base c then more cs else c :: cs
    | [] => []
  match cs with
  | '0' :: t :: cs =>
    if t ∈ letters && (more cs).length < cs.length then some (more cs) else none
  | _ => none

def isLong (c : Char) : Bool := c == 'l' || c == 'L'

def isSuffix (c : Char) : Bool := isLong c || c == 'j' || c == 'J'

def exponent? : List Char → Option (List Char)
  | c :: cs =>
    if c == 'e' || c == 'E' then digits? (Text.skipOne (fun c => c == '+' || c == '-') cs) else none
  | [] => none

def point? : List Char → Option (List Char)
  | '.' :: cs => some cs
  | _ => none

def numberForms (cs : List Char) : List (Option (List Char)) :=
  [ (tagged? ['x', 'X'] 16 cs).map (Text.skipOne isLong),
    (tagged? ['o', 'O'] 8 cs).map (Text.skipOne isLong),
    (tagged? ['b', 'B'] 2 cs).map (Text.skipOne isLong),
    (digits? cs).map (Text.skipOne isSuffix),
    do
      let cs ← digits? cs >>= point?
      let cs := (digits? cs).getD cs
      some (Text.skipOne isSuffix ((exponent? cs).getD cs)),
    do
      let cs ← point? cs >>= digits?
      some (Text.skipOne isSuffix ((exponent? cs).getD cs)),
    (digits? cs >>= exponent?).map (Text.skipOne isSuffix) ]

/-- A number as it is written. -/
def number : PythonRule String := take fun cs =>
  match Text.longestMatch (numberForms cs) with
  | some rest =>
    let n := cs.length - rest.length
    some (String.ofList (cs.take n), n)
  | none => none

end ServiceAtlas.Python
