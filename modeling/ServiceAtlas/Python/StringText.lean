import ServiceAtlas.Python.Cursor

/-!
The text of string literals. The content of a literal is read in pieces: plain content up to the next
backslash, brace or quote that matters, escapes, lone backslashes, and doubled braces of a format
string.
-/

namespace ServiceAtlas.Python

/-- How a string literal is delimited and read. -/
structure Delimiter where
  quote : Char
  triple : Bool
  format : Bool
  raw : Bool
  bytes : Bool
  deriving DecidableEq, Repr

structure Flags where
  format : Bool
  raw : Bool
  bytes : Bool

def Flags.add (flags : Flags) (c : Char) : Option Flags :=
  match c with
  | 'f' | 'F' => some { flags with format := true }
  | 'r' | 'R' => some { flags with raw := true }
  | 'b' | 'B' => some { flags with bytes := true }
  | 'u' | 'U' => some flags
  | _ => none

def openQuote? (flags : Flags) (n : Nat) : List Char → Option (Delimiter × Nat)
  | '`' :: _ => some (⟨'`', false, flags.format, flags.raw, flags.bytes⟩, n + 1)
  | c :: cs =>
    if c = '\'' || c = '"' then
      let triple := [c, c].isPrefixOf cs
      some (⟨c, triple, flags.format, flags.raw, flags.bytes⟩, if triple then n + 3 else n + 1)
    else none
  | [] => none

def startFrom? (flags : Flags) (n : Nat) : List Char → Option (Delimiter × Nat)
  | c :: cs =>
    match flags.add c with
    | some flags => startFrom? flags (n + 1) cs
    | none => openQuote? flags n (c :: cs)
  | [] => none

/-- The start of a string literal: any of the letters `f r b u`, then a quote. -/
def stringStart? (cs : List Char) : Option (Delimiter × Nat) :=
  startFrom? ⟨false, false, false⟩ 0 cs

/-- Whether the blanks end at a string literal that may come next. It takes the blanks as its own, line
continuations and all. -/
def leadsToString (e : Expect) (cs : List Char) : Bool :=
  match gap? e.layout false 0 none cs with
  | some gap => e.string && gap.comment.isNone && (stringStart? gap.rest).isSome
  | none => false

/-- Whether a line continuation stands as a token of its own before the next token. -/
def splitsLine (e : Expect) (cs : List Char) : Bool :=
  if leadsToString e cs then false
  else
    let rest := cs.dropWhile isGap
    if continuation rest ≠ 0 then true
    else if comment rest = 0 then false
    else splitsLine e (rest.drop (comment rest))
termination_by cs.length
decreasing_by
  rename_i h
  refine length_drop_dropWhile_lt cs h fun hnil => h ?_
  simp only [rest, hnil]
  rfl

/-- Whether the line is split before the next token. Does not move. -/
def lineSplit (e : Expect) : PythonRule Bool := do
  let c ← Rule.place
  return splitsLine e c.rest

/-! Content -/

def dropProtected (quote : Char) : List Char → List Char
  | c :: rest => if c = quote || c = '\\' then rest else c :: rest
  | [] => []

def dropBreak : List Char → List Char
  | '\r' :: '\n' :: rest => rest
  | '\r' :: rest => rest
  | '\n' :: rest => rest
  | cs => cs

/-- Steps over what a backslash protects in a raw string. -/
def afterRawBackslash (quote : Char) (cs : List Char) : List Char :=
  dropBreak (dropProtected quote cs)

private theorem length_afterRawBackslash (quote : Char) (cs : List Char) :
    (afterRawBackslash quote cs).length ≤ cs.length := by
  have first : (dropProtected quote cs).length ≤ cs.length := by
    unfold dropProtected
    split
    · split <;> simp
    · simp
  have second : ∀ ds : List Char, (dropBreak ds).length ≤ ds.length := by
    intro ds
    unfold dropBreak
    split
    · simp only [List.length_cons]
      omega
    · simp
    · simp
    · simp
  exact Nat.le_trans (second _) first

/-- A piece of content, or the end of the literal. -/
inductive Piece where
  | content
  | stop
  deriving DecidableEq, Repr

/-- Reads plain content; `filled` says whether there is some already. Gives what is left. In a raw
string the characters a backslash protects do not count as content, so that they belong to the end of
the literal if nothing else does. -/
def contentFrom? (d : Delimiter) (filled : Bool) (cs : List Char) : Option (Piece × List Char) :=
  match cs with
  | [] => none
  | c :: rest =>
    if c = '\x00' then none
    else if d.format && (c = '{' || c = '}') then
      if filled then some (.content, c :: rest) else none
    else if c = '\\' then
      if d.raw then
        have : (afterRawBackslash d.quote rest).length ≤ rest.length :=
          length_afterRawBackslash d.quote rest
        contentFrom? d filled (afterRawBackslash d.quote rest)
      else if d.bytes then
        match rest with
        | k :: _ :: more =>
          if k = 'N' || k = 'u' || k = 'U' then contentFrom? d true more
          else if filled then some (.content, c :: rest) else none
        | _ => if filled then some (.content, c :: rest) else none
      else if filled then some (.content, c :: rest) else none
    else if c = d.quote then
      if d.triple then
        match rest with
        | q :: r :: more =>
          if q = c && r = c then
            if filled then some (.content, cs) else some (.stop, more)
          else if q = c then some (.content, r :: more)
          else some (.content, rest)
        | [q] => if q = c then some (.content, []) else some (.content, rest)
        | [] => some (.content, [])
      else if filled then some (.content, c :: rest) else some (.stop, rest)
    else if c = '\n' && filled && !d.triple then none
    else contentFrom? d true rest
termination_by cs.length

/-- The length of an escape, backslash included; a backslash that begins none stands for itself. -/
def escapeLength : List Char → Option Nat
  | '\\' :: c :: cs =>
    if c = 'u' && Text.beginsWithDigits 16 4 cs then some 6
    else if c = 'U' && Text.beginsWithDigits 16 8 cs then some 10
    else if c = 'x' && Text.beginsWithDigits 16 2 cs then some 4
    else if c.isDigit then some (2 + ((cs.take 2).takeWhile Char.isDigit).length)
    else if c = '\n' then some 2
    else if c = '\r' && cs.head? = some '\n' then some 3
    else if "'\"abfrntv\\".toList.contains c then some 2
    else if c = 'N' && cs.head? = some '{' then
      let name := cs.tail.takeWhile (· != '}')
      if !name.isEmpty && (cs.drop (name.length + 1)).head? = some '}' then some (name.length + 4)
      else some 1
    else some 1
  | '\\' :: _ => some 1
  | _ => none

end ServiceAtlas.Python
