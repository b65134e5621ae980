import ServiceAtlas.Text.Utf8
import ServiceAtlas.Yaml.ScalarText

/-!
The tokens of a YAML text. Indentation becomes opening and closing tokens of blocks. What may turn out
to be a key is remembered with its place, and when its colon follows on the same line the key token is
put in front of it.
-/

namespace ServiceAtlas.Yaml

inductive Token where
  | version (major minor : Nat)
  | tagDirective (handle lead : String)
  | documentStart
  | documentEnd
  | blockSequence
  | blockMapping
  | blockEnd
  | openSequence
  | closeSequence
  | openMapping
  | closeMapping
  | blockEntry
  | flowEntry
  | key
  | value
  | alias (name : String)
  | anchor (name : String)
  | tag (handle suffix : String)
  | scalar (text : String) (plain : Bool)
  deriving DecidableEq, Repr

/-! Directives, anchors and tags -/

/-- A tag handle: an exclamation mark, then perhaps a name and a second mark. -/
def tagHandle? (c : Cursor) : Option (List Char × Cursor) :=
  match c.rest with
  | '!' :: rest =>
    let name := rest.takeWhile isName
    let close := if (rest.drop name.length).head? = some '!' then ['!'] else []
    let handle := '!' :: name ++ close
    some (handle, c.skip handle.length)
  | _ => none

private def isTagChar (wide : Bool) (c : Char) : Bool :=
  isName c || ";/?:@&=+$.!~*'()%".contains c || (wide && (c == ',' || c == '[' || c == ']'))

private def octets? : List Char → Option (List Nat)
  | [] => some []
  | '%' :: a :: b :: rest => do
    return (← Text.numberIn? 16 [a, b]) :: (← octets? rest)
  | '%' :: _ => none
  | c :: rest => (octets? rest).map (c.toString.toUTF8.toList.map (·.toNat) ++ ·)

/-- The text of a tag, with the octets that are written as percent signs and digits put together. -/
def tagText? (cs : List Char) : Option (List Char) :=
  (octets? cs).bind Text.decode?

/-- The rest of a tag; `wide` tags may hold commas and square brackets. -/
def tagRest? (wide : Bool) (c : Cursor) : Option (List Char × Cursor) :=
  let raw := c.rest.takeWhile (isTagChar wide)
  (tagText? raw).map fun text => (text, c.skip raw.length)

/-- A tag, from its exclamation mark on. -/
def tag? (flow : Bool) (c : Cursor) : Option (Token × Cursor) := do
  let (handle, suffix, c) ←
    if c.rest.take 2 = ['!', '<'] then do
      let (text, c) ← tagRest? true (c.skip 2)
      if text.isEmpty || c.head? ≠ some '>' then none
      pure ([], text, c.skip 1)
    else do
      let (handle, c) ← tagHandle? c
      if 1 < handle.length && handle.getLast? = some '!' then
        let (text, c) ← tagRest? false c
        if text.isEmpty then none
        pure (handle, text, c)
      else
        let (text, c) ← tagRest? false c
        let suffix := handle.drop 1 ++ text
        pure (if suffix.isEmpty then ([], ['!'], c) else (['!'], suffix, c))
  if endsWord c.rest || (flow && c.head? = some ',') then
    return (.tag (String.ofList handle) (String.ofList suffix), c)
  else none

/-- The name of an anchor or an alias, after its sign. -/
def anchorName? (c : Cursor) : Option (String × Cursor) :=
  let name := c.rest.takeWhile isName
  let c := c.skip name.length
  if name.isEmpty then none
  else if endsWord c.rest || c.isHead ("?:,]\x7d%@\x60".contains ·) then
    some (String.ofList name, c)
  else none

private def versionNumber? (c : Cursor) : Option (Nat × Cursor) :=
  let digits := c.rest.takeWhile Char.isDigit
  if digits.isEmpty || 9 < digits.length then none
  else some (digits.foldl (fun n d => n * 10 + (d.toNat - 0x30)) 0, c.skip digits.length)

/-- The part of a directive after its percent sign. -/
private def directiveBody? (c : Cursor) : Option (Token × Cursor) := do
  let name := c.rest.takeWhile isName
  let c := c.skip name.length
  if name.isEmpty || !endsWord c.rest then none
  let c := c.skipWhile isBlank
  if name = "YAML".toList then
    let (major, c) ← versionNumber? c
    if c.head? ≠ some '.' then none
    let (minor, c) ← versionNumber? (c.skip 1)
    return (.version major minor, c)
  else if name = "TAG".toList then
    let (handle, c) ← tagHandle? c
    if handle ≠ ['!'] && (handle.length = 1 || handle.getLast? ≠ some '!') then none
    if !c.isHead isBlank then none
    let (lead, c) ← tagRest? true (c.skipWhile isBlank)
    if lead.isEmpty || !endsWord c.rest then none
    return (.tagDirective (String.ofList handle) (String.ofList lead), c)
  else none

/-- A directive, up to the end of its line. -/
def directive? (c : Cursor) : Option (Token × Cursor) := do
  let (token, c) ← directiveBody? (c.skip 1)
  let c := c.skipWhile isBlank
  let c := if c.head? = some '#' then c.skipWhile (!isBreak ·) else c
  if endsLine c.rest then return (token, c.skipBreak) else none

/-! Blocks and keys -/

/-- Where a key may have begun: the place of its token among all, and in the text. A required key has
to be followed by its colon. -/
structure KeyStart where
  required : Bool
  number : Nat
  index : Nat
  line : Nat
  column : Nat

/-- The work in progress. `level` is one more than the column of the innermost block, zero outside any;
`levels` are those of the blocks around it. `outer` holds what may be a key in each flow collection
around, so that there are as many as there are open flow collections. -/
structure Scan where
  cursor : Cursor
  tokens : Array Token
  level : Nat
  levels : List Nat
  keyAllowed : Bool
  here : Option KeyStart
  outer : List (Option KeyStart)

namespace Scan

def flow (s : Scan) : Bool := !s.outer.isEmpty

def push (s : Scan) (t : Token) : Scan := { s with tokens := s.tokens.push t }

def insertAt (tokens : Array Token) (n : Nat) (ts : List Token) : Array Token :=
  (tokens.toList.take n ++ ts ++ tokens.toList.drop n).toArray

/-- A key ends on its line and within 1024 characters. -/
def isStale (c : Cursor) (k : KeyStart) : Bool :=
  k.line < c.line || k.index + 1024 < c.index

def refresh? (c : Cursor) : Option KeyStart → Option (Option KeyStart)
  | none => some none
  | some k => if isStale c k then if k.required then none else some none else some (some k)

/-- Gives up the keys whose colon can no longer follow. -/
def dropStale? (s : Scan) : Option Scan := do
  let outer ← s.outer.mapM (refresh? s.cursor)
  let here ← refresh? s.cursor s.here
  return { s with outer, here }

/-- Gives up the key of the current collection. -/
def dropKey? (s : Scan) : Option Scan :=
  if s.here.any (·.required) then none else some { s with here := none }

/-- Notes that a key may begin here. -/
def noteKey? (s : Scan) : Option Scan :=
  if s.keyAllowed then
    s.dropKey?.map fun s =>
      { s with
        here := some
          { required := !s.flow && s.level = s.cursor.column + 1
            number := s.tokens.size
            index := s.cursor.index
            line := s.cursor.line
            column := s.cursor.column } }
  else some s

/-- Closes the blocks that are indented further than `level`. -/
def closeBlocks (s : Scan) (level : Nat) : Scan :=
  if s.flow then s
  else
    let closed := (s.level :: s.levels).takeWhile (level < ·)
    let left := (s.level :: s.levels).drop closed.length
    { s with
      tokens := s.tokens ++ (closed.map fun _ => Token.blockEnd).toArray
      level := left.headD 0
      levels := left.drop 1 }

/-- Opens a block at a column, unless one is open there; its token stands in front of token `number`. -/
def openBlock (s : Scan) (column number : Nat) (t : Token) : Scan :=
  if !s.flow && s.level < column + 1 then
    { s with
      tokens := insertAt s.tokens number [t]
      level := column + 1
      levels := s.level :: s.levels }
  else s

def advance (s : Scan) (n : Nat) : Scan := { s with cursor := s.cursor.skip n }

def allow (s : Scan) (b : Bool) : Scan := { s with keyAllowed := b }

/-- Passes blanks, comments and line breaks. A new line of a block may begin a key; a tab may not
stand where one could. -/
def gap : Nat → Scan → Scan
  | 0, s => s
  | fuel + 1, s =>
    let c := if s.cursor.index = 0 && s.cursor.head? = some '\uFEFF' then s.cursor.skip 1 else s.cursor
    let c := c.skipWhile fun d => d == ' ' || ((s.flow || !s.keyAllowed) && d == '\t')
    let c := if c.head? = some '#' then c.skipWhile (!isBreak ·) else c
    if c.isHead isBreak then
      gap fuel { s with cursor := c.skipBreak, keyAllowed := s.keyAllowed || !s.flow }
    else { s with cursor := c }

/-! One token -/

def atBlocksEnd? (s : Scan) : Option Scan :=
  (s.closeBlocks 0).dropKey?.map (·.allow false)

private def documentMark? (s : Scan) (t : Token) : Option Scan :=
  (atBlocksEnd? s).map fun s => (s.push t).advance 3

private def openFlow? (s : Scan) (t : Token) : Option Scan :=
  s.noteKey?.map fun s =>
    ({ s with here := none, outer := s.here :: s.outer, keyAllowed := true }.push t).advance 1

private def closeFlow? (s : Scan) (t : Token) : Option Scan :=
  s.dropKey?.map fun s =>
    let s := match s.outer with
      | [] => s
      | k :: outer => { s with here := k, outer }
    ((s.allow false).push t).advance 1

private def flowEntry? (s : Scan) : Option Scan :=
  s.dropKey?.map fun s => ((s.allow true).push .flowEntry).advance 1

/-- An indicator that opens a block where it stands, if a key could stand there. -/
private def blockSign? (s : Scan) (block : Token) : Option Scan :=
  if s.flow then some s
  else if s.keyAllowed then some (s.openBlock s.cursor.column s.tokens.size block)
  else none

private def blockEntry? (s : Scan) : Option Scan := do
  let s ← (← blockSign? s .blockSequence).dropKey?
  return ((s.allow true).push .blockEntry).advance 1

private def keySign? (s : Scan) : Option Scan := do
  let s ← (← blockSign? s .blockMapping).dropKey?
  return ((s.allow !s.flow).push .key).advance 1

def valueSign? (s : Scan) : Option Scan :=
  match s.here with
  | some k =>
    let s := { s with tokens := insertAt s.tokens k.number [.key], here := none, keyAllowed := false }
    some (((s.openBlock k.column k.number .blockMapping).push .value).advance 1)
  | none =>
    (blockSign? s .blockMapping).map fun s => ((s.allow !s.flow).push .value).advance 1

private def scalarToken? (s : Scan) (read : Cursor → Option (Token × Cursor)) : Option Scan := do
  let s ← s.noteKey?
  let (token, cursor) ← read s.cursor
  return { s.push token with cursor, keyAllowed := false }

private def blockScalar? (s : Scan) (literal : Bool) : Option Scan := do
  let s ← s.dropKey?
  let (text, cursor) ← block? literal s.level (s.cursor.skip 1)
  return { s.push (.scalar (String.ofList text) false) with cursor, keyAllowed := true }

private def quotedScalar? (s : Scan) (single : Bool) : Option Scan :=
  scalarToken? s fun c => (quoted? single (c.skip 1)).map fun (text, c) =>
    (.scalar (String.ofList text) false, c)

def plainScalar? (s : Scan) : Option Scan := do
  let s ← s.noteKey?
  let (text, broken, cursor) ← plain? s.flow s.level s.cursor
  return { s.push (.scalar (String.ofList text) true) with cursor, keyAllowed := broken }

/-- The characters that no plain scalar begins with, apart from the exceptions in `token?`. -/
def isSign (c : Char) : Bool := "-?:,[]\x7b\x7d#&*!|>'\"%@\x60".contains c

/-- Reads one token; there has to be a character. -/
def token? (s : Scan) : Option Scan :=
  match s.cursor.rest with
  | [] => none
  | c :: rest =>
    if s.cursor.column = 0 && c = '%' then do
      let s ← atBlocksEnd? s
      let (token, cursor) ← directive? s.cursor
      return { s.push token with cursor }
    else if s.cursor.atDocumentMark then
      documentMark? s (if c = '-' then .documentStart else .documentEnd)
    else if c = '[' then openFlow? s .openSequence
    else if c = '{' then openFlow? s .openMapping
    else if c = ']' then closeFlow? s .closeSequence
    else if c = '}' then closeFlow? s .closeMapping
    else if c = ',' then flowEntry? s
    else if c = '-' && endsWord rest then blockEntry? s
    else if c = '?' && (s.flow || endsWord rest) then keySign? s
    else if c = ':' && (s.flow || endsWord rest) then valueSign? s
    else if c = '*' then
      scalarToken? s fun c => (anchorName? (c.skip 1)).map fun (name, c) => (.alias name, c)
    else if c = '&' then
      scalarToken? s fun c => (anchorName? (c.skip 1)).map fun (name, c) => (.anchor name, c)
    else if c = '!' then scalarToken? s (tag? s.flow)
    else if c = '|' && !s.flow then blockScalar? s true
    else if c = '>' && !s.flow then blockScalar? s false
    else if c = '\'' then quotedScalar? s true
    else if c = '"' then quotedScalar? s false
    else if !(isBlank c || isBreak c || isSign c) || c = '-' || (!s.flow && (c = '?' || c = ':')) then
      plainScalar? s
    else none

/-- Reads tokens to the end of the text. -/
def run? : Nat → Scan → Option Scan
  | 0, _ => none
  | fuel + 1, s => do
    let s := gap (s.cursor.rest.length + 1) s
    let s ← s.dropStale?
    let s := s.closeBlocks (s.cursor.column + 1)
    if s.cursor.rest.isEmpty then atBlocksEnd? s
    else run? fuel (← token? s)

def start (cs : List Char) : Scan :=
  { cursor := ⟨cs, 0, 0, 0⟩
    tokens := #[]
    level := 0
    levels := []
    keyAllowed := true
    here := none
    outer := [] }

end Scan

/-- The tokens of a text; `none` if it is not well formed. A leading byte-order mark is passed over. -/
def tokens? (cs : List Char) : Option (List Token) :=
  let cs := match cs with
    | '\uFEFF' :: rest => rest
    | cs => cs
  if cs.all isAllowed then
    (Scan.run? (cs.length + 1) (Scan.start cs)).map (·.tokens.toList)
  else none

end ServiceAtlas.Yaml
