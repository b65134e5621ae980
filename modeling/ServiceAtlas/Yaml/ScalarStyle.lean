import ServiceAtlas.Yaml.Cursor

/-!
How a scalar is written: which of the styles can hold its text, and which one is taken.
-/

namespace ServiceAtlas.Yaml

inductive ScalarStyle where
  | plain
  | single
  | double
  | literal
  deriving DecidableEq, Repr

/-- Characters that are written as they are; those beyond the first plane are not. -/
def isPrintable (c : Char) : Bool :=
  let n := c.toNat
  n == 0x0A || (0x20 ≤ n && n ≤ 0x7E) || (0xA0 ≤ n && n ≤ 0xFFFD && n != 0xFEFF)

/-- What a text holds that keeps it from being written in some style. -/
structure Analysis where
  /-- A sign that would be taken for structure. -/
  sign : Bool := false
  break_ : Bool := false
  special : Bool := false
  /-- A blank or a break at the start or at the end. -/
  edge : Bool := false
  endBlank : Bool := false
  breakBlank : Bool := false
  blankBreak : Bool := false

private def isLeadingSign (c : Char) : Bool := "#,[]\x7b\x7d&*!|>'\"%@\x60".contains c

/-- Whether a character acts as a sign; `before` is the character in front of it, and `after` what
follows. -/
def actsAsSign (before : Option Char) (c : Char) (after : List Char) : Bool :=
  match before with
  | none => isLeadingSign c || ((c = '?' || c = ':' || c = '-') && endsWord after)
  | some b => (c = ':' && endsWord after) || (c = '#' && (isBlank b || isBreak b))

/-- Looks at the characters one by one. -/
def analyse (a : Analysis) : (before : Option Char) → List Char → Analysis
  | _, [] => a
  | before, c :: cs =>
    let edge := before.isNone || cs.isEmpty
    analyse
      { sign := a.sign || actsAsSign before c cs
        break_ := a.break_ || isBreak c
        special := a.special || !isPrintable c
        edge := a.edge || (edge && (c == ' ' || isBreak c))
        endBlank := a.endBlank || (c == ' ' && cs.isEmpty)
        breakBlank := a.breakBlank || (c == ' ' && before.any isBreak)
        blankBreak := a.blankBreak || (isBreak c && before == some ' ') }
      (some c) cs

def Analysis.of (cs : List Char) : Analysis :=
  let start := cs.take 3
  analyse { sign := start = ['-', '-', '-'] || start = ['.', '.', '.'] } none cs

namespace Analysis

def allowsPlain (a : Analysis) : Bool :=
  !(a.edge || a.breakBlank || a.blankBreak || a.special || a.break_ || a.sign)

def allowsSingle (a : Analysis) : Bool := !(a.breakBlank || a.blankBreak || a.special)

def allowsBlock (a : Analysis) : Bool := !(a.endBlank || a.blankBreak || a.special)

end Analysis

/-- The style taken for a text when another one was asked for. `key` says that the scalar stands as a
key on the line of its value. -/
def ScalarStyle.allowed (wanted : ScalarStyle) (key : Bool) (cs : List Char) : ScalarStyle :=
  let a := Analysis.of cs
  let style := if key && a.break_ then .double else wanted
  match style with
  | .plain =>
    if cs.isEmpty then if key then .single else .plain
    else if a.allowsPlain then .plain
    else if a.allowsSingle then .single
    else .double
  | .single => if cs.isEmpty || a.allowsSingle then .single else .double
  | .literal => if !cs.isEmpty && a.allowsBlock && !key then .literal else .double
  | .double => .double

end ServiceAtlas.Yaml
