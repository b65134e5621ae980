import ServiceAtlas.OrderedMap
import ServiceAtlas.Text.Basic

/-!
Flat configuration files. Physical lines are grouped into logical lines: blank lines and comments are
dropped, a line that starts with a bracket stands alone, and any other line goes on while the text so
far ends in a backslash. Assignments before the first header, and those under a header named DEFAULT,
make up the default section.
-/

namespace ServiceAtlas.Properties

/-- What is wrong with a logical line. -/
inductive Fault where
  | unterminatedHeader (line : String)
  | noSeparator (line : String)
  | emptyKey
  deriving DecidableEq, Repr

def Fault.message : Fault → String
  | .unterminatedHeader line => "unterminated section header: " ++ line
  | .noSeparator line => "expected `key = value`, found: " ++ line
  | .emptyKey => "empty key"

/-- A fault and the physical line on which its logical line begins. -/
structure Error where
  line : Nat
  fault : Fault
  deriving DecidableEq, Repr

def Error.message (e : Error) : String := "line " ++ toString e.line ++ ": " ++ e.fault.message

/-- A logical line: where it begins, its first physical line trimmed, and all its text. -/
structure LogicalLine where
  number : Nat
  head : List Char
  text : List Char
  deriving DecidableEq, Repr

def isSkipped : List Char → Bool
  | [] => true
  | c :: _ => c == '#' || c == ';' || c == '!'

def isHeader (line : List Char) : Bool := line.head? == some '['

def isContinued (text : List Char) : Bool := text.getLast? == some '\\'

/-- Groups the physical lines from number `n` on. The first argument is a logical line that still goes
on, without its last backslash. -/
def group : Option LogicalLine → Nat → List (List Char) → List LogicalLine
  | none, _, [] => []
  | some open_, _, [] => [open_]
  | none, n, line :: rest =>
    let head := Text.trim line
    if isSkipped head then group none (n + 1) rest
    else if !isHeader head && isContinued head then
      group (some ⟨n, head, head.dropLast⟩) (n + 1) rest
    else ⟨n, head, head⟩ :: group none (n + 1) rest
  | some open_, n, line :: rest =>
    let text := open_.text ++ Text.trimStart line
    if isContinued text then group (some { open_ with text := text.dropLast }) (n + 1) rest
    else { open_ with text } :: group none (n + 1) rest

def logicalLines (text : String) : List LogicalLine :=
  group none 1 (Text.lines text.toList)

/-- A logical line, read. -/
inductive Statement where
  | header (name : String)
  | assign (key value : String)
  deriving DecidableEq, Repr

def isSeparator (c : Char) : Bool := c == '=' || c == ':'

def LogicalLine.read (l : LogicalLine) : Except Fault Statement :=
  if isHeader l.head then
    let inner := l.head.drop 1
    if inner.getLast? = some ']' then
      .ok (.header (String.ofList (Text.trim inner.dropLast)))
    else .error (.unterminatedHeader (String.ofList l.head))
  else
    match l.text.dropWhile (!isSeparator ·) with
    | [] => .error (.noSeparator (String.ofList l.head))
    | _ :: value =>
      let key := Text.trim (l.text.takeWhile (!isSeparator ·))
      if key.isEmpty then .error .emptyKey
      else .ok (.assign (String.ofList key) (String.ofList (Text.trim value)))

/-- The name of the section that counts. -/
def defaultName : String := "DEFAULT"

/-- Collects the assignments of the default section; `inside` says whether it is open. -/
def collect (inside : Bool) (pairs : OrderedMap String String) :
    List LogicalLine → Except Error (OrderedMap String String)
  | [] => .ok pairs
  | l :: rest =>
    match l.read with
    | .error fault => .error ⟨l.number, fault⟩
    | .ok (.header name) => collect (name = defaultName) pairs rest
    | .ok (.assign key value) => collect inside (if inside then pairs.insert key value else pairs) rest

/-- The pairs of the default section. A key that is assigned again keeps its place and takes the new
value. -/
def defaultSection (text : String) : Except Error (OrderedMap String String) :=
  collect true .empty (logicalLines text)

end ServiceAtlas.Properties
