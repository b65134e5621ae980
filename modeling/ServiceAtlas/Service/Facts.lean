import ServiceAtlas.OrderedMap

/-!
What is learnt about services: from the sources of each one the endpoints it serves and the entities it
keeps, and from their calls which depends on which.
-/

namespace ServiceAtlas

/-- An API route. `method` is the annotation or the upper-cased decorator that declares it, `params`
are parameter types or parameter names. -/
structure Endpoint where
  method : String
  path : String
  returnType : String
  params : List String
  line : Nat
  deriving DecidableEq, Repr

/-- A class of persistent data. -/
structure Entity where
  name : String
  line : Nat
  deriving DecidableEq, Repr

structure Facts where
  endpoints : List Endpoint
  entities : List Entity
  deriving DecidableEq, Repr

namespace Facts

def none : Facts := ⟨[], []⟩

instance : Inhabited Facts := ⟨none⟩

def isEmpty (f : Facts) : Bool := f.endpoints.isEmpty && f.entities.isEmpty

def append (f g : Facts) : Facts := ⟨f.endpoints ++ g.endpoints, f.entities ++ g.entities⟩

instance : Append Facts := ⟨append⟩

end Facts

/-- The facts found for each service, in order of first mention. -/
abbrev Contexts := OrderedMap String Facts

namespace Contexts

/-- Adds facts under a service; adding none still mentions it. -/
def add (c : Contexts) (service : String) (facts : Facts) : Contexts :=
  c.alter service fun present => present.getD .none ++ facts

/-- Makes sure that a service is listed. -/
def mention (c : Contexts) (service : String) : Contexts := c.add service .none

def totalEndpoints (c : Contexts) : Nat := c.values.foldl (fun n f => n + f.endpoints.length) 0

def totalEntities (c : Contexts) : Nat := c.values.foldl (fun n f => n + f.entities.length) 0

end Contexts

/-- One service calls another, by a verb as it is written in the caller's source. -/
structure Dependency where
  caller : String
  callee : String
  label : String
  deriving DecidableEq, Repr

end ServiceAtlas
