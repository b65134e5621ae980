import ServiceAtlas.Yaml.Event
import ServiceAtlas.Yaml.Number

/-!
Values of a YAML document. A scalar without quotes is read as null, a truth value or a number where it
looks like one. Aliases stand for copies of what they name.
-/

namespace ServiceAtlas.Yaml

inductive Value where
  | null
  | bool (b : Bool)
  | number (n : Number)
  | string (s : String)
  | sequence (items : List Value)
  | mapping (pairs : List (Value × Value))
  | tagged (tag : String) (value : Value)
  deriving Repr

namespace Value

mutual

/-- Equality as keys of a mapping: the order of a mapping's own pairs does not count. -/
def same : Value → Value → Bool
  | .null, .null => true
  | .bool a, .bool b => a == b
  | .number m, .number n => m.same n
  | .string s, .string t => s == t
  | .sequence xs, .sequence ys => sameItems xs ys
  | .mapping xs, .mapping ys => xs.length == ys.length && samePairs xs ys
  | .tagged s x, .tagged t y => s == t && same x y
  | _, _ => false

def sameItems : List Value → List Value → Bool
  | [], [] => true
  | x :: xs, y :: ys => same x y && sameItems xs ys
  | _, _ => false

/-- Whether each of the first pairs is among the second. -/
def samePairs : List (Value × Value) → List (Value × Value) → Bool
  | [], _ => true
  | (k, v) :: xs, ys => ys.any (fun (k', v') => same k k' && same v v') && samePairs xs ys

end

/-! Scalars -/

def isNull (s : String) : Bool := ["null", "Null", "NULL", "~"].contains s

def bool? (s : String) : Option Bool :=
  if ["true", "True", "TRUE"].contains s then some true
  else if ["false", "False", "FALSE"].contains s then some false
  else none

/-- What a text without quotes says. A whole number that cannot be held is refused. -/
def ofPlain? (s : String) : Option Value :=
  if s.isEmpty || isNull s then some .null
  else
    match bool? s with
    | some b => some (.bool b)
    | none =>
      match Number.reading s.toList with
      | .number n => some (.number (.whole n))
      | .tooLarge => none
      | .noNumber =>
        if Number.isPadded s.toList then some (.string s)
        else
          match Number.fraction? s.toList with
          | some x => some (.number (.fraction x))
          | none => some (.string s)

/-- Whether a string would be read as something else if it were written without quotes. -/
def needsQuotes (s : String) : Bool :=
  match ofPlain? s with
  | some (.string _) => Number.isPadded s.toList
  | _ => true

private def standardTag (name : String) : String := "tag:yaml.org,2002:" ++ name

/-- A scalar whose tag is a standard one, or which has none. -/
def ofScalar? (tag : Option String) (text : String) (plain : Bool) : Option Value :=
  match tag with
  | none => if plain then ofPlain? text else some (.string text)
  | some t =>
    if t = standardTag "bool" then (bool? text).map .bool
    else if t = standardTag "int" then
      match Number.reading text.toList with
      | .number n => some (.number (.whole n))
      | _ => none
    else if t = standardTag "float" then
      (Number.fraction? text.toList).map fun x => .number (.fraction x)
    else if t = standardTag "null" then if isNull text then some .null else none
    else some (.string text)

/-- The name of a tag of the document's own: what follows its exclamation mark, or the mark itself. -/
def localTag? (tag : Option String) : Option String :=
  tag.bind fun t =>
    match t.toList with
    | ['!'] => some t
    | '!' :: rest => some (String.ofList rest)
    | _ => none

/-! Aliases -/

/-- The events of a document with each alias replaced by a number, and the places that the numbers
stand for. -/
structure Anchors where
  numbers : List (String × Nat) := []
  places : List (Nat × Nat) := []

/-- Gives the node at `place` a number: as many as there are names. A name that is used again takes the
new number, and the number may be taken again by the next name. -/
def Anchors.note (a : Anchors) (anchor : Option String) (place : Nat) : Anchors :=
  match anchor with
  | none => a
  | some name =>
    let n := a.numbers.length
    { numbers := (name, n) :: a.numbers.filter (·.1 != name)
      places := (n, place) :: a.places }

/-- The number of each alias, in order; an alias without an anchor before it is refused. -/
def Anchors.resolve? : Anchors → Nat → List Event → Option (Anchors × List (Nat × Nat))
  | a, _, [] => some (a, [])
  | a, place, e :: es =>
    match e with
    | .alias name =>
      (a.numbers.lookup name).bind fun n =>
        (resolve? a (place + 1) es).map fun (a, found) => (a, (place, n) :: found)
    | .scalar p _ _ => resolve? (a.note p.anchor place) (place + 1) es
    | .sequence p => resolve? (a.note p.anchor place) (place + 1) es
    | .mapping p => resolve? (a.note p.anchor place) (place + 1) es
    | .close => resolve? a (place + 1) es

/-- A document to read values from: its events and the place that each alias leads to. -/
structure Document where
  events : Array Event
  target : Nat → Option Nat

def Document.ofEvents? (es : List Event) : Option Document :=
  (Anchors.resolve? {} 0 es).map fun (a, found) =>
    { events := es.toArray
      target := fun place => (found.lookup place).bind fun n => a.places.lookup n }

/-! Collections -/

/-- A value, the place after it, and how many aliases were followed so far. -/
abbrev Read := Value × Nat × Nat

/-- The items up to the end of a sequence. -/
def items? (d : Document) (read : Nat → Nat → Option Read) :
    Nat → Nat → Nat → Option (List Value × Nat × Nat)
  | 0, _, _ => none
  | fuel + 1, place, jumps =>
    if d.events[place]? = some .close then some ([], place + 1, jumps)
    else do
      let (v, place, jumps) ← read place jumps
      let (vs, place, jumps) ← items? d read fuel place jumps
      return (v :: vs, place, jumps)

/-- The pairs up to the end of a mapping. A key that is there already is refused. -/
def pairs? (d : Document) (read : Nat → Nat → Option Read) :
    Nat → List (Value × Value) → Nat → Nat → Option (List (Value × Value) × Nat × Nat)
  | 0, _, _, _ => none
  | fuel + 1, known, place, jumps =>
    if d.events[place]? = some .close then some (known, place + 1, jumps)
    else do
      let (k, place, jumps) ← read place jumps
      if known.any (fun (k', _) => k'.same k) then none
      let (v, place, jumps) ← read place jumps
      pairs? d read fuel (known ++ [(k, v)]) place jumps

def withTag (tag : Option String) (v : Value) : Value :=
  match localTag? tag with
  | none => v
  | some t => .tagged t v

/-- The node at a place, which is no alias; collections may be nested `depth` deep. `read` is used for
the nodes within. -/
def node? (d : Document) (read : Option (Nat → Nat → Option Read)) (place jumps : Nat) :
    Option Read :=
  match d.events[place]? with
  | some (.scalar p text plain) =>
    let tag := if (localTag? p.tag).isSome then none else p.tag
    (ofScalar? tag text plain).map fun v => (withTag p.tag v, place + 1, jumps)
  | some (.sequence p) =>
    read.bind fun read =>
      (items? d read (d.events.size + 1) (place + 1) jumps).map fun (vs, place, jumps) =>
        (withTag p.tag (.sequence vs), place, jumps)
  | some (.mapping p) =>
    read.bind fun read =>
      (pairs? d read (d.events.size + 1) [] (place + 1) jumps).map fun (vs, place, jumps) =>
        (withTag p.tag (.mapping vs), place, jumps)
  | _ => none

/-- The value at a place, with collections nested at most `depth` deep. Following more than a hundred
aliases for each event is refused. -/
def at? (d : Document) : (depth : Nat) → (place jumps : Nat) → Option Read
  | depth, place, jumps =>
    let read := match depth with
      | 0 => none
      | depth + 1 => some (at? d depth)
    match d.events[place]? with
    | some (.alias _) => do
      let target ← d.target place
      if d.events.size * 100 < jumps + 1 then none
      let (v, _, jumps) ← node? d read target (jumps + 1)
      return (v, place + 1, jumps)
    | _ => node? d read place jumps

/-- The greatest depth to which collections may be nested. -/
def maxDepth : Nat := 128

/-- The value of a document; one without any node is null. -/
def ofEvents? (es : List Event) : Option Value :=
  if es.isEmpty then some .null
  else do
    let d ← Document.ofEvents? es
    let (v, _, _) ← at? d maxDepth 0 0
    return v

/-- Reads the only document of a text. -/
def read? (text : String) : Option Value := do
  let ts ← tokens? text.toList
  let es ← events? ts
  ofEvents? es

end Value

end ServiceAtlas.Yaml
