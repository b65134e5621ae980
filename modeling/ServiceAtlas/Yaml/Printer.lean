import ServiceAtlas.Yaml.ScalarStyle
import ServiceAtlas.Yaml.Value

/-!
Values written as a YAML document in block style: two columns for each level, sequences in the column
of the mapping they belong to, lines never folded.
-/

namespace ServiceAtlas.Yaml

/-- What has been written, in reverse, and the state of the last line: its column, whether its last
character separates, and whether it holds indentation only. -/
structure Page where
  written : List Char := []
  column : Nat := 0
  separated : Bool := true
  indented : Bool := true

namespace Page

def put (p : Page) (c : Char) : Page :=
  { p with written := c :: p.written, column := p.column + 1 }

def puts (p : Page) (cs : List Char) : Page := cs.foldl put p

def newLine (p : Page) (c : Char) : Page := { p with written := c :: p.written, column := 0 }

/-- Goes to a new line unless the current one is still open at that column, and fills it with blanks. -/
def indentTo (p : Page) (indent : Nat) : Page :=
  let p :=
    if !p.indented || indent < p.column || (p.column = indent && !p.separated) then p.newLine '\n'
    else p
  { p.puts (List.replicate (indent - p.column) ' ') with separated := true, indented := true }

/-- Writes a sign; `spaced` asks for a blank before it, and `indents` says that it counts as
indentation. -/
def sign (p : Page) (text : String) (spaced separates indents : Bool) : Page :=
  let p := if spaced && !p.separated then p.put ' ' else p
  { p.puts text.toList with separated := separates, indented := p.indented && indents }

/-- A word that is neither indentation nor a separation. -/
def word (p : Page) (spaced : Bool) (cs : List Char) : Page :=
  let p := if spaced && !p.separated then p.put ' ' else p
  { p.puts cs with separated := false, indented := false }

end Page

/-! Tags -/

private def isTagContent (c : Char) : Bool :=
  isName c || ";/?:@&=+$,.!~*'()[]".contains c

private def hexText (width n : Nat) : List Char :=
  (List.range width).reverse.map fun i => (Nat.digitChar (n / Nat.pow 16 i % 16)).toUpper

private def tagContent (tag : String) : List Char :=
  tag.toList.flatMap fun c =>
    if isTagContent c then [c]
    else c.toString.toUTF8.toList.flatMap fun b => '%' :: hexText 2 b.toNat

/-- A tag of the document's own; the bare mark has to be spelled out. -/
def Page.tag (p : Page) : Option String → Page
  | none => p
  | some "!" => ((p.sign "!<" true false false).word false (tagContent "!")).sign ">" false false false
  | some t => p.word true ('!' :: tagContent t)

/-! Scalars -/

private def escapeText (c : Char) : List Char :=
  let n := c.toNat
  match [(0x00, '0'), (0x07, 'a'), (0x08, 'b'), (0x09, 't'), (0x0A, 'n'), (0x0B, 'v'), (0x0C, 'f'),
      (0x0D, 'r'), (0x1B, 'e'), (0x22, '"'), (0x5C, '\\'), (0x85, 'N'), (0xA0, '_'), (0x2028, 'L'),
      (0x2029, 'P')].lookup n with
  | some letter => ['\\', letter]
  | none =>
    if n ≤ 0xFF then '\\' :: 'x' :: hexText 2 n
    else if n ≤ 0xFFFF then '\\' :: 'u' :: hexText 4 n
    else '\\' :: 'U' :: hexText 8 n

private def isEscaped (c : Char) : Bool := !isPrintable c || isBreak c || c == '"' || c == '\\'

private def doubleText (cs : List Char) : List Char :=
  cs.flatMap fun c => if isEscaped c then escapeText c else [c]

/-- The characters of a single-quoted scalar. After a line break the text goes on indented. -/
private def singleChars (indent : Nat) : (broken : Bool) → List Char → Page → Page
  | broken, [], p => if broken then p.indentTo indent else p
  | broken, c :: cs, p =>
    if isBreak c then
      let p := if !broken && c = '\n' then p.newLine '\n' else p
      singleChars indent true cs { p.newLine c with indented := true }
    else
      let p := if broken && c ≠ ' ' then p.indentTo indent else p
      let p := if c = '\'' then p.put '\'' else p
      let p := p.put c
      singleChars indent (broken && c = ' ') cs (if c = ' ' then p else { p with indented := false })

private def literalChars (indent : Nat) : (broken : Bool) → List Char → Page → Page
  | _, [], p => p
  | broken, c :: cs, p =>
    if isBreak c then literalChars indent true cs { p.newLine c with indented := true }
    else
      let p := if broken then p.indentTo indent else p
      literalChars indent false cs { p.put c with indented := false }

/-- The signs after the bar of a literal scalar: its indentation if it begins with a blank or a break,
and how it ends. -/
private def literalHints (cs : List Char) : String :=
  let lead := if cs.head?.any (fun c => c == ' ' || isBreak c) then "2" else ""
  let ending :=
    match cs.reverse with
    | [] => "-"
    | c :: before =>
      if !isBreak c then "-"
      else if before.isEmpty || before.head?.any isBreak then "+"
      else ""
  lead ++ ending

/-- Writes the text of a scalar. -/
def Page.scalar (p : Page) (indent : Nat) (style : ScalarStyle) (cs : List Char) : Page :=
  match style with
  | .plain => if cs.isEmpty then { p with separated := false, indented := false } else p.word true cs
  | .single =>
    (singleChars indent false cs (p.sign "'" true false false)).sign "'" false false false
  | .double =>
    ((p.sign "\"" true false false).puts (doubleText cs)).sign "\"" false false false
  | .literal =>
    let p := p.sign ("|" ++ literalHints cs) true false false
    literalChars indent true cs { p.newLine '\n' with separated := true, indented := true }

namespace Value

/-- The text of a value that is no collection, and the style it asks for. -/
def scalarText? : Value → Option (String × ScalarStyle)
  | .null => some ("null", .plain)
  | .bool b => some (if b then "true" else "false", .plain)
  | .number n => some (n.text, .plain)
  | .string s =>
    some (s, if s.toList.contains '\n' then .literal else if needsQuotes s then .single else .plain)
  | _ => none

private def tagWidth (tag : Option String) : Nat :=
  match tag with
  | none => 0
  | some t => if t = "!" then 1 else t.utf8ByteSize + 1

/-- Whether a key can stand on the line of its value: a short one without line breaks. -/
def isSimpleKey (tag : Option String) : Value → Bool
  | .tagged t v => isSimpleKey (some t) v
  | .sequence items => items.isEmpty && tagWidth tag ≤ 128
  | .mapping pairs => pairs.isEmpty && tagWidth tag ≤ 128
  | v =>
    match v.scalarText? with
    | none => false
    | some (text, _) => !text.toList.any isBreak && tagWidth tag + text.utf8ByteSize ≤ 128

/-- Where a value stands. -/
structure Site where
  /-- The column of the block around it; none at the top. -/
  indent : Option Nat
  /-- Whether it belongs to a mapping. -/
  inMapping : Bool
  /-- Whether it is a key on the line of its value. -/
  key : Bool
  tag : Option String

private def Site.nested (s : Site) : Nat := (s.indent.map (· + 2)).getD 0

private def Site.scalarIndent (s : Site) : Nat := (s.indent.getD 0) + 2

mutual

def write (s : Site) : Value → Page → Page
  | .tagged t v, p => write { s with tag := some t } v p
  | .sequence items, p =>
    let p := p.tag s.tag
    if items.isEmpty then (p.sign "[" true true false).sign "]" false false false
    else
      let indent := if s.inMapping && !p.indented then s.indent.getD 0 else s.nested
      writeItems indent items p
  | .mapping pairs, p =>
    let p := p.tag s.tag
    if pairs.isEmpty then (p.sign "\x7b" true true false).sign "\x7d" false false false
    else writePairs s.nested pairs p
  | .null, p => writeScalar s .null p
  | .bool b, p => writeScalar s (.bool b) p
  | .number n, p => writeScalar s (.number n) p
  | .string t, p => writeScalar s (.string t) p

def writeScalar (s : Site) (v : Value) (p : Page) : Page :=
  match v.scalarText? with
  | none => p
  | some (text, wanted) =>
    (p.tag s.tag).scalar s.scalarIndent (wanted.allowed s.key text.toList) text.toList

def writeItems (indent : Nat) : List Value → Page → Page
  | [], p => p
  | v :: vs, p =>
    let p := (p.indentTo indent).sign "-" true false true
    writeItems indent vs (write ⟨some indent, false, false, none⟩ v p)

def writePairs (indent : Nat) : List (Value × Value) → Page → Page
  | [], p => p
  | (k, v) :: rest, p =>
    let p := p.indentTo indent
    let p :=
      if isSimpleKey none k then
        (write ⟨some indent, true, true, none⟩ k p).sign ":" false false false
      else
        let p := p.sign "?" true false true
        ((write ⟨some indent, true, false, none⟩ k p).indentTo indent).sign ":" true false true
    writePairs indent rest (write ⟨some indent, true, false, none⟩ v p)

end

/-- Whether the value is a mapping of a single pair, or has a tag. -/
private def isSinglePair : Value → Bool
  | .mapping [_] => true
  | .tagged _ _ => true
  | _ => false

mutual

/-- Whether a value can be written: a mapping of a single pair cannot have such a mapping, or a value
with a tag, as its key. A tag on the outer mapping lifts this. -/
def isWritable (tagged : Bool) : Value → Bool
  | .tagged _ v => isWritable true v
  | .sequence items => itemsWritable items
  | .mapping pairs =>
    !(!tagged && pairs.length == 1 && pairs.any fun (k, _) => isSinglePair k) && pairsWritable pairs
  | _ => true

def itemsWritable : List Value → Bool
  | [] => true
  | v :: vs => isWritable false v && itemsWritable vs

def pairsWritable : List (Value × Value) → Bool
  | [] => true
  | (k, v) :: rest => isWritable false k && isWritable false v && pairsWritable rest

end

/-- The document that holds a value. -/
def render? (v : Value) : Option String :=
  if v.isWritable false then
    let p := write ⟨none, false, false, none⟩ v {}
    some (String.ofList (p.indentTo 0).written.reverse)
  else none

end Value

end ServiceAtlas.Yaml
