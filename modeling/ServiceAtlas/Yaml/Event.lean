import ServiceAtlas.Yaml.Token

/-!
The events of a YAML document: its nodes in the order they are written, with their anchors and with
their tags spelled out. A collection is opened by an event and ended by `close`.
-/

namespace ServiceAtlas.Yaml

/-- What may stand in front of a node. -/
structure Properties where
  anchor : Option String := none
  tag : Option String := none
  deriving DecidableEq, Repr

inductive Event where
  | alias (name : String)
  | scalar (properties : Properties) (text : String) (plain : Bool)
  | sequence (properties : Properties)
  | mapping (properties : Properties)
  | close
  deriving DecidableEq, Repr

/-- The prefixes that tag handles stand for. -/
abbrev Handles := List (String × String)

def defaultHandles : Handles := [("!", "!"), ("!!", "tag:yaml.org,2002:")]

/-- Events so far, and the tokens that are left. -/
structure Draft where
  tokens : List Token
  events : Array Event

namespace Draft

def next (d : Draft) : Draft := { d with tokens := d.tokens.drop 1 }

def emit (d : Draft) (e : Event) : Draft := { d with events := d.events.push e }

/-- An empty node is an empty plain scalar. -/
def empty (d : Draft) : Draft := d.emit (.scalar {} "" true)

def at? (d : Draft) (t : Token) : Bool := d.tokens.head? == some t

/-- Whether the next token is one of these. -/
def atAny (d : Draft) (ts : List Token) : Bool := d.tokens.head?.any ts.contains

def anchorOf (d : Draft) : Option String × Draft :=
  match d.tokens with
  | .anchor name :: _ => (some name, d.next)
  | _ => (none, d)

def tagOf (d : Draft) : Option (String × String) × Draft :=
  match d.tokens with
  | .tag handle suffix :: _ => (some (handle, suffix), d.next)
  | _ => (none, d)

private def spelledTag? (handles : Handles) (handle suffix : String) : Option String :=
  if handle.isEmpty then some suffix else (handles.lookup handle).map (· ++ suffix)

/-- Reads an anchor and a tag, in either order. An unknown tag handle is refused. -/
def properties? (handles : Handles) (d : Draft) : Option (Properties × Draft) := do
  let (first, d) := d.anchorOf
  let (tag, d) := d.tagOf
  let (second, d) := if first.isNone && tag.isSome then d.anchorOf else (none, d)
  let tag ← match tag with
    | none => some none
    | some (handle, suffix) => (spelledTag? handles handle suffix).map some
  return (⟨first <|> second, tag⟩, d)

end Draft

open Draft

mutual

/-- A node. `block` allows block collections; `indentless` allows a sequence whose entries stand in the
column of the mapping around it. -/
def node? (handles : Handles) (block indentless : Bool) : Nat → Draft → Option Draft
  | 0, _ => none
  | fuel + 1, d =>
    match d.tokens with
    | .alias name :: _ => some (d.next.emit (.alias name))
    | _ => do
      let (p, d) ← d.properties? handles
      match d.tokens with
      | .blockEntry :: _ =>
        if indentless then indentlessEntries? handles fuel (d.emit (.sequence p))
        else if p = {} then none
        else some (d.emit (.scalar p "" true))
      | .scalar text plain :: _ =>
        let p := if p.tag = some "!" then { p with tag := none } else p
        some (d.next.emit (.scalar p text plain))
      | .openSequence :: _ => flowEntries? handles true fuel (d.next.emit (.sequence p))
      | .openMapping :: _ => flowPairs? handles true fuel (d.next.emit (.mapping p))
      | t :: _ =>
        if block && t = .blockSequence then blockEntries? handles fuel (d.next.emit (.sequence p))
        else if block && t = .blockMapping then blockPairs? handles fuel (d.next.emit (.mapping p))
        else if p = {} then none
        else some (d.emit (.scalar p "" true))
      | [] => if p = {} then none else some (d.emit (.scalar p "" true))

def blockEntries? (handles : Handles) : Nat → Draft → Option Draft
  | 0, _ => none
  | fuel + 1, d =>
    match d.tokens with
    | .blockEntry :: _ =>
      let d := d.next
      if d.atAny [.blockEntry, .blockEnd] then blockEntries? handles fuel d.empty
      else (node? handles true false fuel d).bind (blockEntries? handles fuel)
    | .blockEnd :: _ => some (d.next.emit .close)
    | _ => none

def indentlessEntries? (handles : Handles) : Nat → Draft → Option Draft
  | 0, _ => none
  | fuel + 1, d =>
    match d.tokens with
    | .blockEntry :: _ =>
      let d := d.next
      if d.atAny [.blockEntry, .key, .value, .blockEnd] then indentlessEntries? handles fuel d.empty
      else (node? handles true false fuel d).bind (indentlessEntries? handles fuel)
    | _ => some (d.emit .close)

def blockPairs? (handles : Handles) : Nat → Draft → Option Draft
  | 0, _ => none
  | fuel + 1, d =>
    match d.tokens with
    | .key :: _ =>
      let d := d.next
      if d.atAny [.key, .value, .blockEnd] then blockValue? handles fuel d.empty
      else (node? handles true true fuel d).bind (blockValue? handles fuel)
    | .blockEnd :: _ => some (d.next.emit .close)
    | _ => none

def blockValue? (handles : Handles) : Nat → Draft → Option Draft
  | 0, _ => none
  | fuel + 1, d =>
    match d.tokens with
    | .value :: _ =>
      let d := d.next
      if d.atAny [.key, .value, .blockEnd] then blockPairs? handles fuel d.empty
      else (node? handles true true fuel d).bind (blockPairs? handles fuel)
    | _ => blockPairs? handles fuel d.empty

/-- The entries of a flow sequence; an entry may be a single pair. -/
def flowEntries? (handles : Handles) (first : Bool) : Nat → Draft → Option Draft
  | 0, _ => none
  | fuel + 1, d =>
    if d.at? .closeSequence then some (d.next.emit .close)
    else if !first && !d.at? .flowEntry then none
    else
      let d := if first then d else d.next
      match d.tokens with
      | .key :: _ =>
        (flowPair? handles fuel (d.next.emit (.mapping {}))).bind (flowEntries? handles false fuel)
      | .closeSequence :: _ => some (d.next.emit .close)
      | _ => (node? handles false false fuel d).bind (flowEntries? handles false fuel)

/-- The pair of a flow sequence, after its key sign. An empty key takes the token after it along. -/
def flowPair? (handles : Handles) : Nat → Draft → Option Draft
  | 0, _ => none
  | fuel + 1, d => do
    let d ←
      if d.atAny [.value, .flowEntry, .closeSequence] then some d.next.empty
      else node? handles false false fuel d
    let d ←
      if d.at? .value then
        let d := d.next
        if d.atAny [.flowEntry, .closeSequence] then some d.empty
        else node? handles false false fuel d
      else some d.empty
    return d.emit .close

def flowPairs? (handles : Handles) (first : Bool) : Nat → Draft → Option Draft
  | 0, _ => none
  | fuel + 1, d =>
    if d.at? .closeMapping then some (d.next.emit .close)
    else if !first && !d.at? .flowEntry then none
    else
      let d := if first then d else d.next
      match d.tokens with
      | .key :: _ =>
        let d := d.next
        if d.atAny [.value, .flowEntry, .closeMapping] then flowValue? handles fuel d.empty
        else (node? handles false false fuel d).bind (flowValue? handles fuel)
      | .closeMapping :: _ => some (d.next.emit .close)
      | _ => (node? handles false false fuel d).bind fun d => flowPairs? handles false fuel d.empty

def flowValue? (handles : Handles) : Nat → Draft → Option Draft
  | 0, _ => none
  | fuel + 1, d =>
    if d.at? .value then
      let d := d.next
      if d.atAny [.flowEntry, .closeMapping] then flowPairs? handles false fuel d.empty
      else (node? handles false false fuel d).bind (flowPairs? handles false fuel)
    else flowPairs? handles false fuel d.empty

end

/-- The directives in front of a document: at most one version, which has to be 1.1 or 1.2, and at most
one meaning for each tag handle. -/
def directives? : (versioned : Bool) → Handles → List Token → Option (Handles × List Token)
  | versioned, handles, .version major minor :: ts =>
    if versioned || major ≠ 1 || (minor ≠ 1 && minor ≠ 2) then none
    else directives? true handles ts
  | versioned, handles, .tagDirective handle lead :: ts =>
    if (handles.lookup handle).isSome then none
    else directives? versioned (handles ++ [(handle, lead)]) ts
  | _, handles, ts => some (handles, ts)

/-- What begins or ends a document, so that a document in front of it is empty. -/
private def bounds : Token → Bool
  | .version .. | .tagDirective .. | .documentStart | .documentEnd => true
  | _ => false

/-- The events of the only document of a text; without a document there are none. More than one
document is refused. -/
def events? (ts : List Token) : Option (List Event) := do
  let fuel := 8 * (ts.length + 1)
  let d ←
    match ts with
    | [] => some ⟨[], #[]⟩
    | .version .. :: _ | .tagDirective .. :: _ | .documentStart :: _ => do
      let (handles, ts) ← directives? false [] ts
      match ts with
      | .documentStart :: ts =>
        if ts.head?.all bounds then some (Draft.empty ⟨ts, #[]⟩)
        else node? (handles ++ defaultHandles) true false fuel ⟨ts, #[]⟩
      | _ => none
    | ts => node? defaultHandles true false fuel ⟨ts, #[]⟩
  if (d.tokens.dropWhile (· == .documentEnd)).isEmpty then return d.events.toList else none

end ServiceAtlas.Yaml
