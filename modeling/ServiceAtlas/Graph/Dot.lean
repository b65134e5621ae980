import ServiceAtlas.Graph

/-!
The graph of services as a Graphviz drawing, with a legend of the verb colours.
-/

namespace ServiceAtlas.Dot

/-- Inside a quoted identifier, quotes and backslashes are written with a backslash. -/
def escape (c : Char) : List Char :=
  if c = '"' ∨ c = '\\' then ['\\', c] else [c]

def quote (s : String) : String := "\"" ++ String.ofList (s.toList.flatMap escape) ++ "\""

def twoDigits (n : Nat) : String :=
  if n < 10 then "0" ++ toString n else toString n

/-- A quotient with two decimals, for divisors that leave no more than that. -/
def hundredths (n d : Nat) : String :=
  toString (n / d) ++ "." ++ twoDigits (n % d * 100 / d)

def header : List String :=
  ["digraph service_dependencies \x7b",
   "    label=\"Microservices Dependency Graph\";",
   "    labelloc=t;",
   "    rankdir=LR;",
   "    node [shape=ellipse, style=filled, fillcolor=" ++ Colour.node ++ ", fontsize=10];",
   ""]

def nodeLine (g : ServiceGraph) (name : String) : String :=
  let size := g.sizeHint name
  "    " ++ quote name ++ " [size_hint=" ++ toString size ++ ", width=" ++
    hundredths size ServiceGraph.sizeUnit ++ "];"

def callLine (d : Dependency) : String :=
  "    " ++ quote d.caller ++ " -> " ++ quote d.callee ++ " [label=" ++ quote d.label ++
    ", color=" ++ Colour.ofLabel d.label ++ ", fontcolor=red];"

def legendLine (verb colour : String) : String :=
  "        \"legend_" ++ verb ++ "\" [label=\"" ++ verb ++ "\", fontcolor=" ++ colour ++ "];"

def legend : List String :=
  ["    subgraph cluster_legend \x7b",
   "        label=\"HTTP Methods\";",
   "        node [shape=plaintext, style=\"\"];"] ++
  (Colour.palette ++ [("other", Colour.other)]).map (fun e => legendLine e.1 e.2) ++
  ["    \x7d"]

/-- The lines of the drawing. -/
def lines (g : ServiceGraph) : List String :=
  header ++ g.services.map (nodeLine g) ++ [""] ++ g.calls.map callLine ++ [""] ++ legend ++ ["\x7d"]

def render (g : ServiceGraph) : String := String.join ((lines g).map (· ++ "\n"))

end ServiceAtlas.Dot
