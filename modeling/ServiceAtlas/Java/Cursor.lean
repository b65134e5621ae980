import ServiceAtlas.Java.Token
import ServiceAtlas.Outline.Rule
import ServiceAtlas.Text.Basic

/-!
Reading a Java source by tokens: the place in the token list, what a source declares, and the rules
for single tokens.
-/

namespace ServiceAtlas.Java

/-- The tokens that are left, and the line on which the text before them ended. -/
structure Cursor where
  line : Nat
  tokens : List Token

namespace Cursor

/-- The line on which the next token begins. -/
def nextLine (c : Cursor) : Nat :=
  match c.tokens with
  | [] => c.line
  | t :: _ => c.line + Text.newlines t.lead

/-- The line on which the last token ends. -/
def lastLine (c : Cursor) : Nat := c.line + Text.newlines (c.tokens.flatMap Token.chars)

private theorem lastLine_cons (line : Nat) (t : Token) (rest : List Token) :
    lastLine ⟨line, t :: rest⟩ =
      lastLine ⟨line + Text.newlines t.lead + Text.newlines t.text.toList, rest⟩ := by
  simp [lastLine, Text.newlines, Token.chars, Nat.add_assoc]

private theorem nextLine_le_lastLine (c : Cursor) : c.nextLine ≤ c.lastLine := by
  obtain ⟨line, tokens⟩ := c
  cases tokens with
  | nil => exact Nat.le_refl _
  | cons t rest =>
    rw [lastLine_cons]
    simp only [nextLine, lastLine]
    omega

instance : Place Cursor where
  line := nextLine
  size c := c.tokens.length
  lastLine := lastLine
  line_le_lastLine := nextLine_le_lastLine

end Cursor

/-- A literal as it is written. -/
inductive Literal where
  | string (text : String)
  | character (text : String)
  | bare (text : String)
  deriving DecidableEq, Repr

/-- What an annotation is given. Named values are of no interest. -/
inductive Arguments where
  | none
  | literal (value : Literal)
  | array (values : List Literal)
  | other
  deriving DecidableEq, Repr

/-- An annotation: its whole text, its name and its arguments. -/
structure Annotation where
  text : String
  name : String
  arguments : Arguments
  deriving DecidableEq, Repr

/-- A method or a class. Types are given without type arguments and dimensions. -/
inductive Declaration where
  | method (annotations : List Annotation) (returnType : String) (parameterTypes : List String)
  | type (annotations : List Annotation) (name : String)
  deriving DecidableEq, Repr

abbrev JavaRule := Rule Cursor Declaration

/-- The text of tokens, without what stands before the first of them. -/
def textOf : List Token → String
  | [] => ""
  | t :: ts => t.text ++ String.ofList (ts.flatMap Token.chars)

namespace Cursor

/-- The text of the tokens between two places. -/
def textUpTo (start stop : Cursor) : String :=
  textOf (start.tokens.take (start.tokens.length - stop.tokens.length))

theorem textUpTo_eq {start stop : Cursor} {ts : List Token}
    (h : start.tokens = ts ++ stop.tokens) : start.textUpTo stop = textOf ts := by
  rw [textUpTo, h, List.length_append, Nat.add_sub_cancel, List.take_left]

end Cursor

private theorem nextLine_le (line : Nat) (t : Token) (rest : List Token) :
    Cursor.nextLine ⟨line, t :: rest⟩ ≤
      Cursor.nextLine ⟨line + Text.newlines t.lead + Text.newlines t.text.toList, rest⟩ := by
  cases rest <;> simp only [Cursor.nextLine] <;> omega

/-- Takes the next token if it passes the test. -/
def tokenIf (test : Token → Bool) : JavaRule Token where
  read c :=
    match c.tokens with
    | [] => none
    | t :: rest =>
      if test t then
        some ⟨t, [], ⟨c.line + Text.newlines t.lead + Text.newlines t.text.toList, rest⟩⟩
      else none
  ordered {s r} h := by
    obtain ⟨line, tokens⟩ := s
    cases tokens with
    | nil => cases h
    | cons t rest =>
      simp only at h
      split at h
      · cases h
        exact ⟨Nat.le_succ _, nextLine_le line t rest, (Cursor.lastLine_cons line t rest).symm, .nil,
          by simp⟩
      · cases h

/-- The end of the source. -/
def atEnd : JavaRule Unit where
  read c := if c.tokens.isEmpty then some ⟨(), [], c⟩ else none
  ordered {s r} h := by
    split at h
    · cases h; exact .stay _
    · cases h

def sign (s : String) : JavaRule Unit :=
  (tokenIf fun t => t.kind == .sign && t.text == s).skip

def signIn (ss : List String) : JavaRule String := do
  let t ← tokenIf fun t => t.kind == .sign && ss.contains t.text
  return t.text

/-- A sign with nothing between it and the token before it. -/
def tightSign (s : String) : JavaRule Unit :=
  (tokenIf fun t => t.kind == .sign && t.text == s && t.lead.isEmpty).skip

def keyword (s : String) : JavaRule Unit :=
  (tokenIf fun t => t.kind == .word && t.text == s).skip

def keywordIn (ss : List String) : JavaRule String := do
  let t ← tokenIf fun t => t.kind == .word && ss.contains t.text
  return t.text

/-- A word. Which words are keywords depends on the place, so every rule names those it refuses. -/
def wordExcept (refused : List String) : JavaRule String := do
  let t ← tokenIf fun t => t.kind == .word && !refused.contains t.text
  return t.text

def word : JavaRule String := wordExcept []

def ofKind (kind : TokenKind) : JavaRule String := do
  let t ← tokenIf fun t => t.kind == kind
  return t.text

/-- The rule, with the text that it was read from. -/
def withText {α : Type} (p : JavaRule α) : JavaRule (α × String) := do
  let start ← Rule.place
  let a ← p
  let stop ← Rule.place
  return (a, start.textUpTo stop)

def commaList1 {α : Type} (p : JavaRule α) : JavaRule (List α) := Rule.sepBy1 p (sign ",")

def commaList {α : Type} (p : JavaRule α) : JavaRule (List α) := Rule.sepBy p (sign ",")

def parenthesized {α : Type} (p : JavaRule α) : JavaRule α := Rule.between (sign "(") (sign ")") p

end ServiceAtlas.Java
