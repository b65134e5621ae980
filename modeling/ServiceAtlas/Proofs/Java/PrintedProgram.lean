import ServiceAtlas.Proofs.PrintedText
import ServiceAtlas.Service.Facts
import ServiceAtlas.Settings.Basic

/-!
Java programs made of classes and annotated methods, how they are printed, and what they declare.
This is the side of the reader's specification that knows nothing of tokens and grammars: a program
is a forest, its text is a list of lines, and the facts about it are read off the forest.
-/

namespace ServiceAtlas.Java

/-- Keywords, contextual keywords and literals. A single underscore is a keyword too. -/
def reservedWords : List String :=
  ["abstract", "assert", "boolean", "break", "byte", "case", "catch", "char", "class", "const",
   "continue", "default", "do", "double", "else", "enum", "extends", "final", "finally", "float",
   "for", "goto", "if", "implements", "import", "instanceof", "int", "interface", "long", "native",
   "new", "package", "private", "protected", "public", "return", "short", "static", "strictfp",
   "super", "switch", "synchronized", "this", "throw", "throws", "transient", "try", "void",
   "volatile", "while", "exports", "module", "open", "opens", "permits", "provides", "record",
   "requires", "sealed", "to", "transitive", "uses", "var", "when", "with", "yield", "true",
   "false", "null", "_"]

/-- What may stand in a name beside letters and digits. -/
def nameMarks : List Char := ['_', '$']

abbrev Name := Identifier nameMarks reservedWords

/-- The annotation of this name is not taken for the declaration of an annotation type. -/
def IsPlainTag (tag : Name) : Prop := ¬ "interface".toList <+: tag.text.toList

instance (tag : Name) : Decidable (IsPlainTag tag) := inferInstanceAs (Decidable (¬ _))

/-- A method with one annotation, whose name is the tag and which gives one path or more. -/
structure Method where
  tag : Name
  path : PathText
  morePaths : List PathText
  returnType : Name
  name : Name
  /-- The type and the name of each parameter. -/
  parameters : List (Name × Name)

/-- Classes and methods one after the other. A class may have an annotation, given by its name; its
body is again a program. -/
inductive Program where
  | done
  | type (tag : Option Name) (name : Name) (members rest : Program)
  | method (m : Method) (rest : Program)

/-! ### Text -/

namespace Method

def paths (m : Method) : List PathText := m.path :: m.morePaths

/-- What stands between the brackets of the annotation. -/
def argumentText (m : Method) : String :=
  match m.morePaths with
  | [] => m.path.quoted
  | _ => "\x7b" ++ ", ".intercalate (m.paths.map PathText.quoted) ++ "\x7d"

def tagLine (m : Method) : String := "@" ++ m.tag.text ++ "(" ++ m.argumentText ++ ")"

def parameterText (p : Name × Name) : String := p.1.text ++ " " ++ p.2.text

def headerLine (m : Method) : String :=
  m.returnType.text ++ " " ++ m.name.text ++ "(" ++
    ", ".intercalate (m.parameters.map parameterText) ++ ") \x7b\x7d"

end Method

namespace Program

def tagLines (tag : Option Name) : List String := tag.toList.map fun a => "@" ++ a.text

def lines : Program → List String
  | .done => []
  | .type tag name members rest =>
    tagLines tag ++ ("class " ++ name.text ++ " \x7b") :: members.lines ++
      "\x7d" :: rest.lines
  | .method m rest => m.tagLine :: m.headerLine :: rest.lines

def text (p : Program) : String := textOfLines p.lines

/-! ### Declarations -/

/-- All methods in document order, each with the line on which it begins if the program begins on
line `n`. -/
def methods (n : Nat) : Program → List (Nat × Method)
  | .done => []
  | .type tag _ members rest =>
    let first := n + (tagLines tag).length + 1
    members.methods first ++ rest.methods (first + members.lines.length + 1)
  | .method m rest => (n, m) :: rest.methods (n + 2)

/-- All classes in document order by line, tag and name. -/
def classes (n : Nat) : Program → List (Nat × Option Name × Name)
  | .done => []
  | .type tag name members rest =>
    let first := n + (tagLines tag).length + 1
    (n, tag, name) ::
      (members.classes first ++ rest.classes (first + members.lines.length + 1))
  | .method _ rest => rest.classes (n + 2)

/-- The names of all annotations. -/
def tags : Program → List Name
  | .done => []
  | .type tag _ members rest => tag.toList ++ members.tags ++ rest.tags
  | .method m rest => m.tag :: rest.tags

def endpoint (line : Nat) (m : Method) : Endpoint where
  method := m.tag.text
  path := ", ".intercalate (m.paths.map PathText.text)
  returnType := m.returnType.text
  params := m.parameters.map fun p => p.1.text
  line := line

/-- One of the markers is a piece of the annotation as it is written. -/
def IsMarked (markers : List String) (tag : Option Name) : Prop :=
  ∃ a ∈ tag, ∃ m ∈ markers, m.toList <:+: ("@" ++ a.text).toList

instance (markers : List String) (tag : Option Name) : Decidable (IsMarked markers tag) :=
  inferInstanceAs (Decidable (∃ a ∈ tag, ∃ m ∈ markers, m.toList <:+: ("@" ++ a.text).toList))

end Program

end ServiceAtlas.Java
