import ServiceAtlas.Scan

/-!
A scan and its graph as JSON documents. JSON values keep the members of an object in order and have
two written forms: `compact` on one line, `pretty` with two blanks per level.
-/

namespace ServiceAtlas

inductive Json where
  | text (s : String)
  | count (n : Nat)
  | list (items : List Json)
  | object (members : List (String × Json))

namespace Json

/-- Quotes, backslashes and the characters below U+0020 are escaped, the usual ones of those by a
letter. -/
def escape (c : Char) : List Char :=
  match c with
  | '"' => ['\\', '"']
  | '\\' => ['\\', '\\']
  | '\n' => ['\\', 'n']
  | '\r' => ['\\', 'r']
  | '\t' => ['\\', 't']
  | '\x08' => ['\\', 'b']
  | '\x0c' => ['\\', 'f']
  | c =>
    if c.toNat < 0x20 then ['\\', 'u', '0', '0', Nat.digitChar (c.toNat / 16), Nat.digitChar (c.toNat % 16)]
    else [c]

def quote (s : String) : List Char := '"' :: s.toList.flatMap escape ++ ['"']

def indent (depth : Nat) : List Char := '\n' :: List.replicate (2 * depth) ' '

mutual

def compactChars : Json → List Char
  | .text s => quote s
  | .count n => Nat.toDigits 10 n
  | .list [] => ['[', ']']
  | .list (x :: xs) => '[' :: compactChars x ++ compactItems xs ++ [']']
  | .object [] => ['{', '}']
  | .object ((k, v) :: ms) =>
    '{' :: quote k ++ ':' :: compactChars v ++ compactMembers ms ++ ['}']

def compactItems : List Json → List Char
  | [] => []
  | x :: xs => ',' :: compactChars x ++ compactItems xs

def compactMembers : List (String × Json) → List Char
  | [] => []
  | (k, v) :: ms => ',' :: quote k ++ ':' :: compactChars v ++ compactMembers ms

end

mutual

def prettyChars (depth : Nat) : Json → List Char
  | .text s => quote s
  | .count n => Nat.toDigits 10 n
  | .list [] => ['[', ']']
  | .list (x :: xs) =>
    '[' :: indent (depth + 1) ++ prettyChars (depth + 1) x ++ prettyItems depth xs ++
      indent depth ++ [']']
  | .object [] => ['{', '}']
  | .object ((k, v) :: ms) =>
    '{' :: indent (depth + 1) ++ quote k ++ ':' :: ' ' :: prettyChars (depth + 1) v ++
      prettyMembers depth ms ++ indent depth ++ ['}']

def prettyItems (depth : Nat) : List Json → List Char
  | [] => []
  | x :: xs => ',' :: indent (depth + 1) ++ prettyChars (depth + 1) x ++ prettyItems depth xs

def prettyMembers (depth : Nat) : List (String × Json) → List Char
  | [] => []
  | (k, v) :: ms =>
    ',' :: indent (depth + 1) ++ quote k ++ ':' :: ' ' :: prettyChars (depth + 1) v ++
      prettyMembers depth ms

end

def compact (v : Json) : String := String.ofList v.compactChars

def pretty (v : Json) : String := String.ofList (v.prettyChars 0)

end Json

/-! ### Facts, dependencies and URLs -/

def Endpoint.toJson (e : Endpoint) : Json :=
  .object [("method", .text e.method), ("path", .text e.path), ("return_type", .text e.returnType),
    ("params", .list (e.params.map .text)), ("line", .count e.line)]

def Entity.toJson (e : Entity) : Json :=
  .object [("name", .text e.name), ("line", .count e.line)]

def Facts.toJson (f : Facts) : Json :=
  .object [("endpoints", .list (f.endpoints.map Endpoint.toJson)),
    ("entities", .list (f.entities.map Entity.toJson))]

def Contexts.toJson (c : Contexts) : Json := .object (c.entries.map fun e => (e.1, e.2.toJson))

def Dependency.toJson (d : Dependency) : Json :=
  .object [("caller", .text d.caller), ("callee", .text d.callee), ("label", .text d.label)]

def UrlTable.toJson (t : UrlTable) : Json :=
  .list (t.entries.map fun e =>
    .object [("key", .text e.1), ("value", .text e.2.value), ("format", .text e.2.dialect.name),
      ("source", .text e.2.source.text)])

/-! ### Graphs and scans -/

def ServiceGraph.toJson (g : ServiceGraph) : Json :=
  .object [
    ("nodes", .list (g.services.map fun s =>
      .object [("name", .text s), ("size", .count (g.sizeHint s)), ("color", .text Colour.node)])),
    ("edges", .list (g.calls.map fun d =>
      .object [("from", .text d.caller), ("to", .text d.callee), ("label", .text d.label),
        ("color", .text (Colour.ofLabel d.label))]))]

def ScanStats.toJson (s : ScanStats) : Json :=
  .object [("files_visited", .count s.visited), ("java_files", .count s.java),
    ("python_files", .count s.python), ("files_skipped_syntax", .count s.malformed),
    ("files_skipped_io", .count s.unreadable), ("config_files", .count s.configRead),
    ("config_files_failed", .count s.configFailed), ("subtrees_pruned", .count s.pruned)]

namespace Scan

/-- The sizes of what was found. -/
def summary (s : Scan) : List (String × Nat) :=
  [("services", s.contexts.size), ("dependencies", s.dependencies.length),
   ("endpoints", s.contexts.totalEndpoints), ("entities", s.contexts.totalEntities),
   ("url_keys", s.urls.size)]

def toJson (s : Scan) (root : Path) : Json :=
  .object [("root", .text root.text), ("stats", s.stats.toJson),
    ("summary", .object (s.summary.map fun e => (e.1, .count e.2))),
    ("url_table", s.urls.toJson), ("dependencies", .list (s.dependencies.map Dependency.toJson)),
    ("contexts", s.contexts.toJson)]

end Scan

end ServiceAtlas
