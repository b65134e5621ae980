import ServiceAtlas.Text.Basic

/-!
The layout of a Python source. Line ends, indentation and dedentation are tokens without width; which
of them may come next depends on the place in the grammar, and where none may come, line ends are mere
blanks. A dedent is reported even where it is not expected, unless a closing bracket could come.
-/

namespace ServiceAtlas.Python

/-- Which tokens the grammar could take next, as far as layout is concerned. -/
structure Expect where
  newline : Bool := false
  indent : Bool := false
  dedent : Bool := false
  string : Bool := false
  close : Bool := false
  handler : Bool := false
  deriving DecidableEq, Repr

/-- Whether a token of layout could come, or what only follows one. -/
def Expect.layout (e : Expect) : Bool := e.indent || e.dedent || e.newline || e.handler

inductive LayoutToken where
  | newline
  | indent (width : Nat)
  | dedent
  deriving DecidableEq, Repr

/-- The blanks before the next token: whether a line ended in them, how far the token is indented, and
how far the first comment between is. -/
structure Gap where
  ended : Bool
  width : Nat
  comment : Option Nat
  rest : List Char
  deriving DecidableEq, Repr

/-- What follows the end of the line. -/
def nextLine (cs : List Char) : List Char := (cs.dropWhile (· != '\n')).drop 1

private theorem length_nextLine (cs : List Char) : (nextLine cs).length ≤ cs.length :=
  ((List.drop_sublist _ _).trans (List.dropWhile_sublist _)).length_le

/-- Measures the gap. Fails where a comment follows code on its line, and at a backslash that does not
continue a line. -/
def gap? (comments : Bool) (ended : Bool) (width : Nat) (comment : Option Nat) (cs : List Char) :
    Option Gap :=
  match cs with
  | [] => some ⟨true, 0, comment, []⟩
  | c :: rest =>
    if c = '\n' then gap? comments true 0 comment rest
    else if c = ' ' then gap? comments ended (width + 1) comment rest
    else if c = '\r' || c = '\x0c' then gap? comments ended 0 comment rest
    else if c = '\t' then gap? comments ended (width + 8) comment rest
    else if c = '#' && comments then
      if ended then
        have : (nextLine rest).length ≤ rest.length := length_nextLine rest
        gap? comments ended 0 (comment.or (some width)) (nextLine rest)
      else none
    else if c = '\\' then
      match rest with
      | '\r' :: '\n' :: more => gap? comments ended width comment more
      | ['\r'] => gap? comments ended width comment []
      | '\n' :: more => gap? comments ended width comment more
      | [] => gap? comments ended width comment []
      | _ => none
    else some ⟨ended, width, comment, c :: rest⟩
termination_by cs.length

def startsQuoted : List Char → Bool
  | c :: _ => c == '"' || c == '\'' || c == '`'
  | [] => false

/-- The layout token at a place, if there is one. `levels` are the indentations of the open blocks, the
innermost first; no dedent is reported inside a format string. -/
def layoutToken? (e : Expect) (levels : List Nat) (format : Bool) (cs : List Char) :
    Option LayoutToken :=
  match gap? e.layout false 0 none cs with
  | none => none
  | some gap =>
    if !gap.ended then none
    else
      let level := levels.headD 0
      if e.indent && level < gap.width then some (.indent gap.width)
      else if (e.dedent || (!e.newline && !(e.string && startsQuoted gap.rest) && !e.close)) &&
          gap.width < level && !format && gap.comment.all (· < level) then some .dedent
      else if e.newline then some .newline
      else none

/-- How many blocks are remembered as open. -/
def maxBlocks : Nat := 511

/-- Opens a block that is `width` in. Sixteen bits are kept of an indentation. Where no more blocks are
remembered the new one is forgotten, and the dedent that ends it will close the block around it. The
last of the levels is the margin, which is no block. -/
def openBlock (width : Nat) (levels : List Nat) : List Nat :=
  if levels.length ≤ maxBlocks then width % UInt16.size :: levels else levels

/-- Blanks between tokens. -/
def isGap (c : Char) : Bool :=
  Text.isBlank c || c == '\uFEFF' || c == '\u2060' || c == '\u200B'

/-- What stands at a place: a layout token, or another token after some characters of blanks. -/
inductive Ahead where
  | layout (token : LayoutToken)
  | token (skipped : Nat)
  deriving DecidableEq, Repr

/-- The length of a line continuation at the front, zero if there is none. -/
def continuation : List Char → Nat
  | '\\' :: '\n' :: _ => 2
  | '\\' :: '\r' :: '\n' :: _ => 3
  | '\\' :: '\x00' :: _ => 2
  | ['\\'] => 1
  | _ => 0

/-- The length of a comment at the front; a NUL character is never part of it. -/
def comment : List Char → Nat
  | '#' :: cs => (cs.takeWhile fun c => c != '\n' && c != '\x00').length + 1
  | _ => 0

/-- Behind the blanks, what is left gets shorter with every character passed. -/
theorem length_drop_dropWhile_lt (cs : List Char) {n : Nat} (hn : n ≠ 0)
    (hne : cs.dropWhile isGap ≠ []) : ((cs.dropWhile isGap).drop n).length < cs.length := by
  have hle := (List.dropWhile_sublist isGap (l := cs)).length_le
  have hpos := List.length_pos_iff.2 hne
  rw [List.length_drop]
  omega

/-- Passes blanks, comments and line continuations up to the next token, and looks for a layout token
at the start and after each comment or continuation. A line continuation is no mere blank in a list or
behind the sign of a decorator; there `splitsLine` tells whether one was passed. -/
def ahead (e : Expect) (levels : List Nat) (format : Bool) (cs : List Char) : Ahead :=
  match layoutToken? e levels format cs with
  | some token => .layout token
  | none =>
    let blanks := (cs.takeWhile isGap).length
    let rest := cs.dropWhile isGap
    let more := comment rest + continuation rest
    if more = 0 then .token blanks
    else
      match ahead e levels format (rest.drop more) with
      | .layout token => .layout token
      | .token n => .token (blanks + more + n)
termination_by cs.length
decreasing_by
  rename_i h
  refine length_drop_dropWhile_lt cs h fun hnil => h ?_
  simp only [more, rest, hnil]
  rfl

end ServiceAtlas.Python
