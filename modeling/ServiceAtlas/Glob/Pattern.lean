/-!
Glob patterns. A pattern is read into tokens; a star next to a star stands for whole directories where
separators or the ends of the pattern enclose the two.
-/

namespace ServiceAtlas.Glob

inductive Token where
  | literal (c : Char)
  | any
  | zeroOrMore
  /-- Any directories in front, or none. -/
  | leadingDirectories
  /-- Everything below a directory. -/
  | trailingAll
  /-- A separator, with any directories after it. -/
  | innerDirectories
  | oneOf (negated : Bool) (ranges : List (Char × Char))
  | alternates (branches : List (List Token))

inductive Error where
  | unclosedClass
  | invalidRange (first last : Char)
  | unopenedAlternates
  | unclosedAlternates
  | danglingEscape
  deriving DecidableEq, Repr

/-- The error that reading `pattern` met. -/
def Error.message (pattern : String) (e : Error) : String :=
  "error parsing glob '" ++ pattern ++ "': " ++
    match e with
    | .unclosedClass => "unclosed character class; missing ']'"
    | .invalidRange first last =>
      "invalid range; '" ++ String.singleton first ++ "' > '" ++ String.singleton last ++ "'"
    | .unopenedAlternates =>
      "unopened alternate group; missing '\x7b' (maybe escape '\x7d' with '[\x7d]'?)"
    | .unclosedAlternates =>
      "unclosed alternate group; missing '\x7d' (maybe escape '\x7b' with '[\x7b]'?)"
    | .danglingEscape => "dangling '\\'"

/-! Character classes -/

/-- The ranges read so far, the last one first, and whether a hyphen waits for its right end. -/
structure ClassState where
  ranges : List (Char × Char)
  waiting : Bool

def ClassState.close (s : ClassState) : List (Char × Char) :=
  (if s.waiting then ('-', '-') :: s.ranges else s.ranges).reverse

/-- Puts the right end on the last range. -/
private def closeRange (c : Char) : List (Char × Char) → Except Error (List (Char × Char))
  | (first, _) :: ranges =>
    if c < first then .error (.invalidRange first c) else .ok ((first, c) :: ranges)
  | [] => .ok [(c, c)]

/-- Takes one character of a class other than the closing bracket. -/
def ClassState.add (s : ClassState) (c : Char) : Except Error ClassState :=
  if s.waiting then
    match closeRange c s.ranges with
    | .ok ranges => .ok ⟨ranges, false⟩
    | .error e => .error e
  else if c = '-' && !s.ranges.isEmpty then .ok { s with waiting := true }
  else .ok ⟨(c, c) :: s.ranges, false⟩

/-- Reads a class up to its closing bracket, which is an ordinary character in first place. -/
def classBody (first : Bool) (s : ClassState) :
    List Char → Except Error (List (Char × Char) × List Char)
  | [] => .error .unclosedClass
  | c :: rest =>
    if c = ']' && !first then .ok (s.close, rest)
    else
      match s.add c with
      | .ok s => classBody false s rest
      | .error e => .error e

/-- Reads a class after its opening bracket. -/
def readClass (cs : List Char) : Except Error (Token × List Char) :=
  match cs with
  | [] => .error .unclosedClass
  | c :: rest =>
    let negated := c = '!' || c = '^'
    match classBody true ⟨[], false⟩ (if negated then rest else cs) with
    | .ok (ranges, rest) => .ok (.oneOf negated ranges, rest)
    | .error e => .error e

theorem length_classBody {first : Bool} {s : ClassState} {cs : List Char}
    {r : List (Char × Char)} {rest : List Char} (h : classBody first s cs = .ok (r, rest)) :
    rest.length < cs.length := by
  induction cs generalizing first s with
  | nil => cases h
  | cons c cs ih =>
    simp only [classBody] at h
    split at h
    · cases h; simp
    · split at h
      · have := ih h; simp; omega
      · cases h

theorem length_readClass {cs : List Char} {t : Token} {rest : List Char}
    (h : readClass cs = .ok (t, rest)) : rest.length < cs.length := by
  cases cs with
  | nil => cases h
  | cons c cs =>
    simp only [readClass] at h
    split at h
    · rename_i r rest' hbody
      cases h
      have := length_classBody hbody
      split at this <;> simp_all
      omega
    · cases h

/-! Patterns -/

/-- The groups that are open, innermost first: of each, its finished branches and the tokens of the
branch being read, all in reverse. The last group is the pattern itself. -/
structure Open where
  branches : List (List Token)
  tokens : List Token

/-- The state of reading: the open groups around the present one, and the present one. -/
structure State where
  outer : List Open
  here : Open

namespace State

def push (s : State) (t : Token) : State :=
  { s with here := { s.here with tokens := t :: s.here.tokens } }

/-- Two stars after some token, between separators: what they stand for takes the place of the
separator before them. -/
def pushDirectories (s : State) (t : Token) : State :=
  match s.here.tokens with
  | .leadingDirectories :: _ => s
  | .trailingAll :: _ => s
  | _ :: tokens => { s with here := { s.here with tokens := t :: tokens } }
  | [] => s.push t

end State

def isSeparator (c : Char) : Bool := c == '/'

/-- What two stars stand for, given what is before them, and what is left after them. -/
def readStars (s : State) (before : Option Char) (cs : List Char) : State × List Char :=
  let plain := ((s.push .zeroOrMore).push .zeroOrMore, cs)
  if s.here.tokens.isEmpty then
    match cs with
    | [] => (s.push .leadingDirectories, [])
    | c :: rest => if isSeparator c then (s.push .leadingDirectories, rest) else plain
  else if !before.any isSeparator then plain
  else
    match cs with
    | [] => (s.pushDirectories .trailingAll, [])
    | c :: rest =>
      if (c = ',' || c = '}') && !s.outer.isEmpty then (s.pushDirectories .trailingAll, cs)
      else if isSeparator c then (s.pushDirectories .innerDirectories, rest)
      else plain

theorem length_readStars (s : State) (before : Option Char) (cs : List Char) :
    (readStars s before cs).2.length ≤ cs.length := by
  unfold readStars
  cases cs with
  | nil => simp only; split <;> (try split) <;> simp
  | cons c rest =>
    simp only
    split
    · split <;> simp
    · split
      · simp
      · split
        · simp
        · split <;> simp

/-- What an opening square bracket means: a class that has to be closed, a class if it is closed, or
nothing but itself. -/
inductive Bracket where
  | class_
  | classIfClosed
  | literal
  deriving DecidableEq, Repr

/-- Reads a pattern from `cs` on; `before` is the character in front. A bracket that is never closed
shows that no later one is either. -/
def readFrom (b : Bracket) (s : State) (before : Option Char) (cs : List Char) : Except Error State :=
  match cs with
  | [] => .ok s
  | c :: rest =>
    if c = '?' then readFrom b (s.push .any) (some c) rest
    else if c = '*' then
      match rest with
      | '*' :: more =>
        let r := readStars s before more
        have : (readStars s before more).2.length ≤ more.length := length_readStars s before more
        readFrom b r.1 (if r.2.length < more.length then some '/' else some '*') r.2
      | rest => readFrom b (s.push .zeroOrMore) (some c) rest
    else if c = '[' && b ≠ .literal then
      match _h : readClass rest with
      | .ok (t, more) =>
        have : more.length < rest.length := length_readClass _h
        readFrom b (s.push t) (some ']') more
      | .error e =>
        if e = .unclosedClass && b = .classIfClosed then
          readFrom .literal (s.push (.literal c)) (some c) rest
        else .error e
    else if c = '{' then readFrom b ⟨s.here :: s.outer, ⟨[], []⟩⟩ (some c) rest
    else if c = '}' then
      match s.outer with
      | [] => .error .unopenedAlternates
      | around :: outer =>
        let branches := (s.here.tokens.reverse :: s.here.branches).reverse
        readFrom b (State.push ⟨outer, around⟩ (.alternates branches)) (some c) rest
    else if c = ',' && !s.outer.isEmpty then
      readFrom b { s with here := ⟨s.here.tokens.reverse :: s.here.branches, []⟩ } (some c) rest
    else if c = '\\' then
      match rest with
      | [] => .error .danglingEscape
      | d :: more => readFrom b (s.push (.literal d)) (some d) more
    else readFrom b (s.push (.literal c)) (some c) rest
termination_by cs.length

/-- The tokens of a pattern. -/
def read (b : Bracket) (pattern : String) : Except Error (List Token) :=
  match readFrom b ⟨[], ⟨[], []⟩⟩ none pattern.toList with
  | .error e => .error e
  | .ok s => if s.outer.isEmpty then .ok s.here.tokens.reverse else .error .unclosedAlternates

end ServiceAtlas.Glob
