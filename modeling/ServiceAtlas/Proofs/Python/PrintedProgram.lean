import ServiceAtlas.Proofs.PrintedText
import ServiceAtlas.Service.Facts

/-!
Python programs made of classes and decorated functions, how they are printed, and what they define.
A program is a forest in which every definition has a body of further definitions; its text is a
list of lines in which a body is indented, and the facts about it are read off the forest.
-/

namespace ServiceAtlas.Python

/-- Keywords of both major versions of the language, and those that are keywords in places. A single
underscore is left to be a name. -/
def reservedWords : List String :=
  ["False", "None", "True", "and", "as", "assert", "async", "await", "break", "class", "continue",
   "def", "del", "elif", "else", "except", "finally", "for", "from", "global", "if", "import", "in",
   "is", "lambda", "nonlocal", "not", "or", "pass", "raise", "return", "try", "while", "with",
   "yield", "exec", "print", "case", "match", "type"]

/-- What may stand in a name beside letters and digits. -/
def nameMarks : List Char := ['_']

abbrev Name := Identifier nameMarks reservedWords

/-- A function with one decorator, which calls an attribute of an object with strings that stand one
after the other. -/
structure Function where
  object : Name
  verb : Name
  piece : PathText
  morePieces : List PathText
  name : Name
  parameters : List Name

/-- Definitions one after the other. The body of a definition is again a program. -/
inductive Program where
  | done
  | type (name base : Name) (body rest : Program)
  | function (f : Function) (body rest : Program)

/-! ### Text -/

namespace Function

def pieces (f : Function) : List PathText := f.piece :: f.morePieces

def decoratorLine (f : Function) : String :=
  "@" ++ f.object.text ++ "." ++ f.verb.text ++ "(" ++
    " ".intercalate (f.pieces.map PathText.quoted) ++ ")"

def headerLine (f : Function) : String :=
  "def " ++ f.name.text ++ "(" ++ ", ".intercalate (f.parameters.map (·.text)) ++ "):"

end Function

/-- The lines of a body, further in than those of its definition. A body is never empty. -/
def suiteLines : List String → List String
  | [] => ["    pass"]
  | ls => ls.map ("    " ++ ·)

namespace Program

def classLine (name base : Name) : String := "class " ++ name.text ++ "(" ++ base.text ++ "):"

def lines : Program → List String
  | .done => []
  | .type name base body rest => classLine name base :: suiteLines body.lines ++ rest.lines
  | .function f body rest => f.decoratorLine :: f.headerLine :: suiteLines body.lines ++ rest.lines

def text (p : Program) : String := textOfLines p.lines

/-! ### Definitions -/

/-- All functions in document order, each with the line of its name if the program begins on line
`n`. -/
def functions (n : Nat) : Program → List (Nat × Function)
  | .done => []
  | .type _ _ body rest =>
    body.functions (n + 1) ++ rest.functions (n + 1 + (suiteLines body.lines).length)
  | .function f body rest =>
    (n + 1, f) :: (body.functions (n + 2) ++
      rest.functions (n + 2 + (suiteLines body.lines).length))

/-- All classes in document order by line, name and base. -/
def classes (n : Nat) : Program → List (Nat × Name × Name)
  | .done => []
  | .type name base body rest =>
    (n, name, base) ::
      (body.classes (n + 1) ++ rest.classes (n + 1 + (suiteLines body.lines).length))
  | .function _ body rest =>
    body.classes (n + 2) ++ rest.classes (n + 2 + (suiteLines body.lines).length)

/-- How deep definitions are nested. -/
def height : Program → Nat
  | .done => 0
  | .type _ _ body rest => max (body.height + 1) rest.height
  | .function _ body rest => max (body.height + 1) rest.height

def endpoint (line : Nat) (f : Function) : Endpoint where
  method := f.verb.text.toUpper
  path := String.join (f.pieces.map PathText.text)
  returnType := "unknown"
  params := f.parameters.map (·.text)
  line := line

end Program

end ServiceAtlas.Python
