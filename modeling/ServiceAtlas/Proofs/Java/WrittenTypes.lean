import ServiceAtlas.Java.Cursor

/-!
Types as they are written in front of the name of a method or a parameter, token by token. What a
declaration keeps of a type is the text of its names (`TypeName.text`).
-/

namespace ServiceAtlas.Java

def Token.IsSign (t : Token) (s : String) : Prop := t.kind = .sign ∧ t.text = s

/-- Pieces of one kind, one after the other. -/
def Series (P : List Token → Prop) (ts : List Token) : Prop :=
  ∃ pieces : List (List Token), ts = pieces.flatten ∧ ∀ piece ∈ pieces, P piece

def IsAnnotation (ts : List Token) : Prop := ∃ t ∈ ts.head?, t.IsSign "@"

/-- Nothing, or all from an opening angle bracket to a closing one. -/
def IsTypeArguments (ts : List Token) : Prop :=
  ts = [] ∨ ∃ left inner right, ts = left :: inner ++ [right] ∧ left.IsSign "<" ∧ right.IsSign ">"

/-- A pair of square brackets, with annotations in front. -/
def IsDimension (ts : List Token) : Prop :=
  ∃ annotations left right, ts = annotations ++ [left, right] ∧ Series IsAnnotation annotations ∧
    left.IsSign "[" ∧ right.IsSign "]"

/-- A name behind a dot, with the arguments of the name before the dot. -/
structure InnerName where
  arguments : List Token
  dot : Token
  annotations : List Token
  name : Token
  isTypeArguments : IsTypeArguments arguments
  isDot : dot.IsSign "."
  isAnnotations : Series IsAnnotation annotations
  isWord : name.kind = .word

def InnerName.tokens (n : InnerName) : List Token :=
  n.arguments ++ n.dot :: n.annotations ++ [n.name]

/-- Names with dots between them, and the arguments of the last. -/
structure TypeName where
  first : Token
  inner : List InnerName
  arguments : List Token
  isWord : first.kind = .word
  isTypeArguments : IsTypeArguments arguments

namespace TypeName

variable (n : TypeName)

def tokens : List Token := n.first :: n.inner.flatMap InnerName.tokens ++ n.arguments

/-- The text from the first name to the last, with all that stands between them. -/
def text : String :=
  n.first.text ++ String.ofList ((n.inner.flatMap InnerName.tokens).flatMap Token.chars)

end TypeName

/-- A type is a name with dimensions behind it. -/
structure WrittenType where
  name : TypeName
  dimensions : List Token
  isDimensions : Series IsDimension dimensions

namespace WrittenType

variable (ty : WrittenType)

def tokens : List Token := ty.name.tokens ++ ty.dimensions

/-- Among the tokens the type stands in front of a name, or of the dots that ask for any number. -/
def StandsIn (ts : List Token) : Prop :=
  ∃ before next after, ts = before ++ ty.tokens ++ next :: after ∧
    (next.kind = .word ∨ next.IsSign "...")

variable {ty} {ts us : List Token}

theorem StandsIn.append_left (us : List Token) (h : ty.StandsIn ts) : ty.StandsIn (us ++ ts) := by
  obtain ⟨before, next, after, rfl, hnext⟩ := h
  exact ⟨us ++ before, next, after, by simp, hnext⟩

theorem StandsIn.append_right (us : List Token) (h : ty.StandsIn ts) : ty.StandsIn (ts ++ us) := by
  obtain ⟨before, next, after, rfl, hnext⟩ := h
  exact ⟨before, next, after ++ us, by simp, hnext⟩

end WrittenType

/-- Among the tokens there is a type with the given text of its names. -/
def NamesType (ts : List Token) (text : String) : Prop :=
  ∃ ty : WrittenType, ty.StandsIn ts ∧ ty.name.text = text

theorem NamesType.append_left {ts : List Token} {text : String} (us : List Token)
    (h : NamesType ts text) : NamesType (us ++ ts) text := by
  obtain ⟨ty, hty, htext⟩ := h
  exact ⟨ty, hty.append_left us, htext⟩

theorem NamesType.append_right {ts : List Token} {text : String} (us : List Token)
    (h : NamesType ts text) : NamesType (ts ++ us) text := by
  obtain ⟨ty, hty, htext⟩ := h
  exact ⟨ty, hty.append_right us, htext⟩

/-- The types of a method stand among the tokens. -/
def Declaration.StandsIn (ts : List Token) : Declaration → Prop
  | .method _ returnType types => ∀ text ∈ returnType :: types, NamesType ts text
  | .type _ _ => True

theorem Declaration.StandsIn.append_left {ts : List Token} {d : Declaration} (us : List Token)
    (h : d.StandsIn ts) : d.StandsIn (us ++ ts) := by
  cases d with
  | method annotations returnType types => exact fun text htext => (h text htext).append_left us
  | type annotations name => trivial

theorem Declaration.StandsIn.append_right {ts : List Token} {d : Declaration} (us : List Token)
    (h : d.StandsIn ts) : d.StandsIn (ts ++ us) := by
  cases d with
  | method annotations returnType types => exact fun text htext => (h text htext).append_right us
  | type annotations name => trivial

end ServiceAtlas.Java
