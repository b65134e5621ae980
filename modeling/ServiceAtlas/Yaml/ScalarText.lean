import ServiceAtlas.Text.Basic
import ServiceAtlas.Yaml.Cursor

/-!
The texts of scalars: plain, quoted, and block scalars with their folding and chomping. Loops take the
length of what is left as a bound on their rounds.
-/

namespace ServiceAtlas.Yaml

/-- What has been passed between two words of a scalar: blanks on one line, or line breaks. -/
structure Spacing where
  blanks : List Char
  broken : Bool
  first : List Char
  others : List Char

namespace Spacing

def none : Spacing := ⟨[], false, [], []⟩

/-- A single break becomes a blank, further ones stay. -/
def folded (s : Spacing) : List Char :=
  if s.broken then
    if s.first = ['\n'] then if s.others.isEmpty then [' '] else s.others
    else s.first ++ s.others
  else s.blanks

def addBreak (s : Spacing) (text : List Char) : Spacing :=
  if s.broken then { s with others := s.others ++ text }
  else { s with blanks := [], broken := true, first := text }

def addBlank (s : Spacing) (c : Char) : Spacing :=
  if s.broken then s else { s with blanks := s.blanks ++ [c] }

end Spacing

/-! Plain scalars -/

private def isFlowSign (c : Char) : Bool :=
  c == ',' || c == '[' || c == ']' || c == '{' || c == '}'

/-- A word of a plain scalar and what follows it; inside flow collections a colon may not stand right
before one of their signs. -/
def plainWord? (flow : Bool) : List Char → Option (List Char × List Char)
  | [] => some ([], [])
  | c :: cs =>
    if isBlank c || isBreak c then some ([], c :: cs)
    else if c = ':' && flow && cs.head?.any (fun d => isFlowSign d || d == '?') then none
    else if c = ':' && endsWord cs then some ([], c :: cs)
    else if flow && isFlowSign c then some ([], c :: cs)
    else (plainWord? flow cs).map fun (word, rest) => (c :: word, rest)

/-- The blanks and breaks after a word of a plain scalar. A tab may not stand where the scalar has to
be indented. -/
def plainSpacing? (indent : Nat) : Nat → Spacing → Cursor → Option (Spacing × Cursor)
  | 0, s, c => some (s, c)
  | fuel + 1, s, c =>
    match c.head? with
    | none => some (s, c)
    | some d =>
      if isBlank d then
        if s.broken && c.column < indent && d = '\t' then none
        else plainSpacing? indent fuel (s.addBlank d) (c.skip 1)
      else if isBreak d then plainSpacing? indent fuel (s.addBreak c.breakText) c.skipBreak
      else some (s, c)

/-- A plain scalar: its text, whether line breaks follow it, and where it ends. -/
def plainFrom? (flow : Bool) (indent : Nat) :
    Nat → (text : List Char) → Spacing → Cursor → Option (List Char × Bool × Cursor)
  | 0, text, s, c => some (text, s.broken, c)
  | fuel + 1, text, s, c =>
    if c.atDocumentMark || c.head? = some '#' then some (text, s.broken, c)
    else
      match plainWord? flow c.rest with
      | none => none
      | some (word, _) =>
        let s' := if word.isEmpty then s else .none
        let text := if word.isEmpty then text else text ++ s.folded ++ word
        let c := c.skip word.length
        if !c.isHead (fun d => isBlank d || isBreak d) then some (text, s'.broken, c)
        else
          match plainSpacing? indent c.rest.length s' c with
          | none => none
          | some (s', c) =>
            if !flow && c.column < indent then some (text, s'.broken, c)
            else plainFrom? flow indent fuel text s' c

def plain? (flow : Bool) (indent : Nat) (c : Cursor) : Option (List Char × Bool × Cursor) :=
  plainFrom? flow indent (c.rest.length + 1) [] .none c

/-! Quoted scalars -/

/-- The characters that an escape by one letter stands for. -/
def escapes : List (Char × Nat) :=
  [('0', 0x00), ('a', 0x07), ('b', 0x08), ('t', 0x09), ('\t', 0x09), ('n', 0x0A), ('v', 0x0B),
   ('f', 0x0C), ('r', 0x0D), ('e', 0x1B), (' ', 0x20), ('"', 0x22), ('/', 0x2F), ('\\', 0x5C),
   ('N', 0x85), ('_', 0xA0), ('L', 0x2028), ('P', 0x2029)]

/-- The number of hexadecimal digits after the letter of a longer escape. -/
def escapeWidths : List (Char × Nat) := [('x', 2), ('u', 4), ('U', 8)]

/-- An escape after its backslash: the character and how many characters it takes. -/
def escape? : List Char → Option (Char × Nat)
  | [] => none
  | c :: cs =>
    match escapes.lookup c with
    | some n => some (Char.ofNat n, 1)
    | none =>
      match escapeWidths.lookup c with
      | none => none
      | some width => (Text.numberedChar? width cs).map fun d => (d, width + 1)

/-- How a stretch of a quoted scalar ends. -/
inductive StretchEnd where
  | closed
  | spaced
  | joined
  deriving DecidableEq, Repr

/-- The characters of a quoted scalar up to a blank, a break or its end; a backslash before a break
joins the lines. -/
def quotedStretch? (single : Bool) :
    Nat → (text : List Char) → Cursor → Option (StretchEnd × List Char × Cursor)
  | 0, _, _ => none
  | fuel + 1, text, c =>
    match c.rest with
    | [] => none
    | d :: rest =>
      if isBlank d || isBreak d then some (.spaced, text, c)
      else if single && d = '\'' then
        if rest.head? = some '\'' then quotedStretch? single fuel (text ++ ['\'']) (c.skip 2)
        else some (.closed, text, c.skip 1)
      else if !single && d = '"' then some (.closed, text, c.skip 1)
      else if !single && d = '\\' then
        if rest.head?.any isBreak then some (.joined, text, (c.skip 1).skipBreak)
        else
          match escape? rest with
          | none => none
          | some (e, n) => quotedStretch? single fuel (text ++ [e]) (c.skip (n + 1))
      else quotedStretch? single fuel (text ++ [d]) (c.skip 1)

def quotedSpacing : Nat → Spacing → Cursor → Spacing × Cursor
  | 0, s, c => (s, c)
  | fuel + 1, s, c =>
    match c.head? with
    | none => (s, c)
    | some d =>
      if isBlank d then quotedSpacing fuel (s.addBlank d) (c.skip 1)
      else if isBreak d then quotedSpacing fuel (s.addBreak c.breakText) c.skipBreak
      else (s, c)

/-- Line joining leaves breaks without a first one. -/
private def Spacing.joined : Spacing := ⟨[], true, [], []⟩

def quotedFrom? (single : Bool) : Nat → (text : List Char) → Cursor → Option (List Char × Cursor)
  | 0, _, _ => none
  | fuel + 1, text, c =>
    if c.atDocumentMark then none
    else
      match quotedStretch? single (c.rest.length + 1) text c with
      | none => none
      | some (.closed, text, c) => some (text, c)
      | some (how, text, c) =>
        let start := if how = .joined then Spacing.joined else .none
        let (s, c) := quotedSpacing c.rest.length start c
        quotedFrom? single fuel (text ++ s.folded) c

/-- A quoted scalar, after its opening quote. -/
def quoted? (single : Bool) (c : Cursor) : Option (List Char × Cursor) :=
  quotedFrom? single (c.rest.length + 1) [] c

/-! Block scalars -/

inductive Chomping where
  | strip
  | clip
  | keep
  deriving DecidableEq, Repr

/-- The indicators of a block scalar: how it ends and how far it is indented. -/
structure BlockHeader where
  chomping : Chomping
  increment : Option Nat

private def chompingOf? (c : Char) : Option Chomping :=
  if c = '+' then some .keep else if c = '-' then some .strip else none

/-- Reads the indicators, in either order. An indentation of zero is refused. -/
def blockHeader? (c : Cursor) : Option (BlockHeader × Cursor) :=
  match c.rest with
  | d :: rest =>
    match chompingOf? d with
    | some chomping =>
      match rest with
      | e :: _ =>
        if e = '0' then none
        else if e.isDigit then some (⟨chomping, some (e.toNat - 0x30)⟩, c.skip 2)
        else some (⟨chomping, none⟩, c.skip 1)
      | [] => some (⟨chomping, none⟩, c.skip 1)
    | none =>
      if d = '0' then none
      else if d.isDigit then
        match rest.head?.bind chompingOf? with
        | some chomping => some (⟨chomping, some (d.toNat - 0x30)⟩, c.skip 2)
        | none => some (⟨.clip, some (d.toNat - 0x30)⟩, c.skip 1)
      else some (⟨.clip, none⟩, c)
  | [] => some (⟨.clip, none⟩, c)

/-- Passes indentation and empty lines. Gives the breaks, the widest indentation met, and where it
stopped; `indent` is zero while it is not known. A tab may not stand in the indentation. -/
def blockBreaks? (indent : Nat) :
    Nat → (breaks : List Char) → (widest : Nat) → Cursor → Option (List Char × Nat × Cursor)
  | 0, breaks, widest, c => some (breaks, widest, c)
  | fuel + 1, breaks, widest, c =>
    let spaces := (c.rest.takeWhile (· == ' ')).length
    let c := c.skip (if indent = 0 then spaces else min spaces (indent - c.column))
    let widest := max widest c.column
    if (indent = 0 || c.column < indent) && c.head? = some '\t' then none
    else if c.isHead isBreak then
      blockBreaks? indent fuel (breaks ++ c.breakText) widest c.skipBreak
    else some (breaks, widest, c)

/-- The lines of a block scalar. `text` is what is known, `break_` the break after it, `breaks` those
of empty lines, and `blank` whether the last line began with a blank. -/
def blockLines? (literal : Bool) (indent : Nat) :
    Nat → (text break_ breaks : List Char) → (blank : Bool) → Cursor →
    Option (List Char × List Char × List Char × Cursor)
  | 0, text, break_, breaks, _, c => some (text, break_, breaks, c)
  | fuel + 1, text, break_, breaks, blank, c =>
    if c.column ≠ indent || c.rest.isEmpty then some (text, break_, breaks, c)
    else
      let startsBlank := c.isHead isBlank
      let text :=
        if !literal && break_ = ['\n'] && !blank && !startsBlank then
          text ++ (if breaks.isEmpty then [' '] else [])
        else text ++ break_
      let line := c.rest.takeWhile (!isBreak ·)
      let c := c.skip line.length
      let next := if c.rest.isEmpty then [] else c.breakText
      match blockBreaks? indent (c.rest.length + 1) [] 0 c.skipBreak with
      | none => none
      | some (more, _, c) => blockLines? literal indent fuel (text ++ breaks ++ line) next more startsBlank c

/-- A block scalar, after its sign. `level` is the indentation of the block it stands in, plus one. -/
def block? (literal : Bool) (level : Nat) (c : Cursor) : Option (List Char × Cursor) := do
  let (header, c) ← blockHeader? c
  let c := c.skipWhile isBlank
  let c := if c.head? = some '#' then c.skipWhile (!isBreak ·) else c
  if !endsLine c.rest then none
  let c := c.skipBreak
  let known := header.increment.map fun n => level - 1 + n
  let (breaks, widest, c) ← blockBreaks? (known.getD 0) (c.rest.length + 1) [] 0 c
  let indent := known.getD (max widest (max level 1))
  let (text, break_, breaks, c) ←
    blockLines? literal indent (c.rest.length + 1) [] [] breaks false c
  let text := if header.chomping = .strip then text else text ++ break_
  let text := if header.chomping = .keep then text ++ breaks else text
  return (text, c)

end ServiceAtlas.Yaml
