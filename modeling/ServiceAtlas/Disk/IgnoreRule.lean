import ServiceAtlas.Glob.Match
import ServiceAtlas.Text.Basic
import ServiceAtlas.Text.Utf8

/-!
Rules of ignore files. A rule is a glob for paths below the directory of its file; of the rules that
match a path the last one decides.
-/

namespace ServiceAtlas

structure IgnoreRule where
  /-- The rule brings a path back instead of leaving it out. -/
  keeps : Bool
  onlyDirectories : Bool
  pattern : List Glob.Token

namespace IgnoreRule

private def startsWith (start cs : List Char) : Bool := start.isPrefixOf cs

private def endsWith (ending cs : List Char) : Bool := ending.reverse.isPrefixOf cs.reverse

/-- The glob of a rule: without a slash inside it may match at any depth, and two stars at the end
match what is inside a directory only. -/
def globText (anchored : Bool) (body : List Char) : List Char :=
  let anywhere := !anchored && !body.contains '/' && body ≠ ['*', '*']
  let glob := if anywhere then ['*', '*', '/'] ++ body else body
  if endsWith ['/', '*', '*'] glob then glob ++ ['/', '*'] else glob

/-- Signs in front of a rule: an exclamation mark, a slash, or a backslash that takes the meaning from
a first character. Gives whether the rule keeps, whether it is anchored, and the rest. -/
private def front (line : List Char) : Bool × Bool × List Char :=
  if startsWith ['\\', '!'] line || startsWith ['\\', '#'] line then (false, false, line.drop 1)
  else
    let keeps := line.head? = some '!'
    let line := if keeps then line.drop 1 else line
    if line.head? = some '/' then (keeps, true, line.drop 1) else (keeps, false, line)

/-- A slash at the end, with a backslash before it, is no part of the glob. -/
private def back (body : List Char) : Bool × List Char :=
  if body.getLast? = some '/' then
    let body := body.dropLast
    (true, if body.getLast? = some '\\' then body.dropLast else body)
  else (false, body)

/-- Reads a line; comments, empty lines and patterns that are not well formed are no rules. -/
def ofLine? (line : List Char) : Option IgnoreRule :=
  let trimmed := if endsWith ['\\', ' '] line then line else Text.trimEnd line
  if line.head? = some '#' || trimmed.isEmpty then none
  else
    let (keeps, anchored, body) := front trimmed
    let (onlyDirectories, body) := back body
    match Glob.read .classIfClosed (String.ofList (globText anchored body)) with
    | .ok pattern => some ⟨keeps, onlyDirectories, pattern⟩
    | .error _ => none

private def options : Glob.Options := { literalSeparator := true }

def isMatch (r : IgnoreRule) (path : String) (isDirectory : Bool) : Bool :=
  (!r.onlyDirectories || isDirectory) && Glob.isMatch options r.pattern path

/-- Bytes cut at line feeds, and whether a line feed follows each piece. -/
private def pieces (bytes : List Nat) : List (List Nat × Bool) :=
  let cut := Text.splitAtEach 0x0A bytes
  (cut.dropLast.map fun l => (l, true)) ++ (cut.getLast?.map fun l => (l, false)).toList

private def lineOf? (piece : List Nat × Bool) : Option (List Char) :=
  (Text.decode? piece.1).map fun cs =>
    if piece.2 && cs.getLast? = some '\r' then cs.dropLast else cs

/-- The lines up to the first that is no text. A byte-order mark at the start is passed over. -/
def linesOf (bytes : List Nat) : List (List Char) :=
  let lines := ((pieces bytes).map lineOf?).takeWhile Option.isSome |>.filterMap id
  match lines with
  | [] => []
  | first :: rest => first.dropWhile (· == '\uFEFF') :: rest

def ofBytes (bytes : List Nat) : List IgnoreRule := (linesOf bytes).filterMap ofLine?

end IgnoreRule

/-- What a file's rules say of a path: whether it is kept, if they say anything. -/
def IgnoreRule.verdict? (rules : List IgnoreRule) (path : String) (isDirectory : Bool) : Option Bool :=
  (rules.reverse.find? fun r => r.isMatch path isDirectory).map (·.keeps)

end ServiceAtlas
