/-!
Values of a TOML document, and how tables grow. A table remembers how it came to be, because that
decides what may still be added to it: one made by a header or a dotted key is not defined twice, and
one written inline is complete.
-/

namespace ServiceAtlas.Toml

/-- How a table came to be. -/
inductive Origin where
  /-- By a header of its own, or as the document itself. -/
  | header
  /-- On the way to another header. -/
  | headerPath
  /-- On the way of a dotted key. -/
  | dottedKey
  /-- Between braces. -/
  | inline
  deriving DecidableEq, Repr

inductive Value where
  | string (s : String)
  | integer (n : Int)
  | float
  | bool (b : Bool)
  | dateTime
  | array (items : List Value)
  /-- A table that is written in several places of the document. -/
  | tables (elements : List Value)
  | table (origin : Origin) (entries : List (String × Value))

namespace Value

def emptyTable (origin : Origin) : Value := .table origin []

/-- Replaces the value of a key by a new one, or enters it at the end. -/
def write (key : String) (v : Value) : List (String × Value) → List (String × Value)
  | [] => [(key, v)]
  | e :: rest => if e.1 = key then (key, v) :: rest else e :: write key v rest

/-- Applies `f` to the table that a step leads into: of a written-out list of tables the last one. -/
def inner? (f : Value → Option Value) : Value → Option Value
  | .tables elements =>
    match elements.reverse with
    | [] => none
    | last :: before => (f last).map fun t => .tables (t :: before).reverse
  | v => f v

/-- Goes down a path that headers have made, and changes the table at its end. -/
def atHeader? (f : Value → Option Value) : List String → Value → Option Value
  | [], v => f v
  | key :: path, .table origin entries =>
    match entries.lookup key with
    | none =>
      (atHeader? f path (emptyTable .headerPath)).map fun t => .table origin (write key t entries)
    | some child =>
      match child with
      | .table .inline _ => none
      | .table .. => (atHeader? f path child).map fun t => .table origin (write key t entries)
      | .tables _ => (inner? (atHeader? f path) child).map fun t => .table origin (write key t entries)
      | _ => none
  | _ :: _, _ => none

/-- Enters a value under a key that must be new. -/
def enter? (t : Value) (key : String) (v : Value) : Option Value :=
  match t with
  | .table origin entries =>
    if (entries.lookup key).isSome then none else some (.table origin (entries ++ [(key, v)]))
  | _ => none

/-- Enters a value under a dotted key. Only tables that were made on the way of some key or header are
passed, and the last one has to come from a dotted key. -/
def putDotted? (v : Value) (key : String) : List String → Value → Option Value
  | [], t =>
    match t with
    | .table .dottedKey _ => t.enter? key v
    | _ => none
  | step :: path, .table origin entries =>
    match entries.lookup step with
    | none =>
      (putDotted? v key path (emptyTable .dottedKey)).map fun t => .table origin (write step t entries)
    | some child =>
      match child with
      | .table .headerPath _ | .table .dottedKey _ =>
        (putDotted? v key path child).map fun t => .table origin (write step t entries)
      | .tables _ =>
        (inner? (putDotted? v key path) child).map fun t => .table origin (write step t entries)
      | _ => none
  | _ :: _, _ => none

/-- Enters a value into the table itself or, under a dotted key, below it. -/
def put? (t : Value) (path : List String) (key : String) (v : Value) : Option Value :=
  if path.isEmpty then t.enter? key v else putDotted? v key path t

/-- Opens what a header names: `first` under a key that is new, and otherwise what `again` makes of the
value under the key. -/
def openAt? (first : Value) (again : Value → Option Value) (root : Value) (path : List String)
    (key : String) : Option Value :=
  atHeader? (fun parent =>
    match parent with
    | .table origin entries =>
      match entries.lookup key with
      | none => some (.table origin (entries ++ [(key, first)]))
      | some v => (again v).map fun v' => .table origin (write key v' entries)
    | _ => none) path root

/-- Opens a table by a header. It must be new, or known only from longer headers. -/
def openTable? : Value → List String → String → Option Value :=
  openAt? (emptyTable .header) fun
    | .table .headerPath inside => some (.table .header inside)
    | _ => none

/-- Adds an element to a list of tables by a header. -/
def openElement? : Value → List String → String → Option Value :=
  openAt? (.tables [emptyTable .header]) fun
    | .tables elements => some (.tables (elements ++ [emptyTable .header]))
    | _ => none

end Value

end ServiceAtlas.Toml
