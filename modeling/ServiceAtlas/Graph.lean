import ServiceAtlas.Service.Facts
import ServiceAtlas.Text.Basic

/-!
The graph of services. Nodes are service names in order of first mention; calls are never merged, so
that the degree of a node counts calls and not neighbours.
-/

namespace ServiceAtlas

structure ServiceGraph where
  services : List String
  calls : List Dependency
  deriving Repr, Inhabited

namespace ServiceGraph

def empty : ServiceGraph := ⟨[], []⟩

/-- Makes sure that a service has a node. -/
def mention (g : ServiceGraph) (name : String) : ServiceGraph :=
  if name ∈ g.services then g else { g with services := g.services ++ [name] }

/-- Adds a call, and nodes for its caller and its callee. -/
def addCall (g : ServiceGraph) (d : Dependency) : ServiceGraph :=
  let g := (g.mention d.caller).mention d.callee
  { g with calls := g.calls ++ [d] }

/-- The place of a node among the nodes. -/
def index (g : ServiceGraph) (name : String) : Nat := g.services.idxOf name

def build (contexts : List String) (calls : List Dependency) : ServiceGraph :=
  calls.foldl addCall (contexts.foldl mention empty)

/-- Calls in and out of a service; a call to itself counts twice. -/
def degree (g : ServiceGraph) (name : String) : Nat :=
  g.calls.countP (·.caller = name) + g.calls.countP (·.callee = name)

def sizeUnit : Nat := 3000

/-- How large a service is to be drawn. -/
def sizeHint (g : ServiceGraph) (name : String) : Nat := sizeUnit * (g.degree name + 1)

end ServiceGraph

namespace Colour

def node : String := "lightgreen"

def other : String := "black"

/-- The colours of the verbs, in the order of the legend. -/
def palette : List (String × String) :=
  [("get", "blue"), ("post", "green"), ("put", "orange"), ("delete", "red")]

/-- The colour of a call by its verb, in any case. -/
def ofLabel (label : String) : String :=
  (palette.lookup (Text.lower label)).getD other

end Colour

end ServiceAtlas
