import ServiceAtlas.Java.Cursor

/-!
The nonterminals of the Java grammar that refer to each other, types, and annotations. Every rule of
the grammar takes the nonterminals as an argument; `Java.grammar` ties the knot.
-/

namespace ServiceAtlas.Java

/-- What an expression is, as far as it matters to the place it stands in. -/
inductive Shape where
  | literal (value : Literal)
  | assignable
  | other
  deriving DecidableEq, Repr

/-- Which members a body may have. -/
inductive BodyKind where
  | classBody
  | interfaceBody
  | annotationBody
  deriving DecidableEq, Repr

structure Grammar where
  /-- An expression; in the label of a case an arrow does not belong to it. -/
  expression : (label : Bool) → JavaRule Shape
  /-- An operand with the signs in front of it. -/
  operand : (label : Bool) → JavaRule Shape
  /-- A type with patterns for its components. -/
  recordPattern : JavaRule Unit
  annotationNode : JavaRule Annotation
  /-- A value given to an annotation. -/
  elementValue : JavaRule Shape
  /-- An array in braces. -/
  arrayInitializer : JavaRule Unit
  /-- A type without annotations in front, by its bare name. -/
  bareType : JavaRule String
  block : JavaRule Unit
  statement : JavaRule Unit
  member : BodyKind → JavaRule Unit
  switchBlock : JavaRule Unit

namespace Grammar

/-- The grammar that accepts nothing. -/
def nothing : Grammar where
  expression _ := Rule.fail
  operand _ := Rule.fail
  recordPattern := Rule.fail
  annotationNode := Rule.fail
  elementValue := Rule.fail
  arrayInitializer := Rule.fail
  bareType := Rule.fail
  block := Rule.fail
  statement := Rule.fail
  member _ := Rule.fail
  switchBlock := Rule.fail

variable (g : Grammar)

def braces (p : JavaRule Unit) : JavaRule Unit := Rule.between (sign "\x7b") (sign "\x7d") p

/-- The body of a type. -/
def body (kind : BodyKind) : JavaRule Unit := braces (Rule.many (g.member kind)).skip

def value : JavaRule Unit := (g.expression false).skip

def parenthesizedValue : JavaRule Unit := parenthesized g.value

/-! Types -/

def primitives : List String :=
  ["byte", "short", "int", "long", "char", "float", "double", "boolean", "void"]

/-- Words that are no part of a type after a dot. -/
def notInType : List String := ["class", "this", "new", "super"]

def annotations : JavaRule (List Annotation) := Rule.many g.annotationNode

def type : JavaRule String := do
  let _ ← g.annotations
  g.bareType

def typeArgument : JavaRule Unit := do
  let _ ← g.annotations
  Rule.orElse g.bareType.skip fun _ => do
    sign "?"
    Rule.skip (Rule.optional do
      let _ ← keywordIn ["extends", "super"]
      g.type)

def typeArguments : JavaRule Unit :=
  Rule.skip (Rule.between (sign "<") (sign ">") (commaList g.typeArgument))

def dimensions : JavaRule Bool := do
  let dims ← Rule.many do
    let _ ← g.annotations
    sign "["
    sign "]"
  return !dims.isEmpty

def typeSegment : JavaRule Unit := do
  let _ ← wordExcept (notInType ++ primitives)
  return ()

/-- A class type without dimensions: its bare text, and whether it has type arguments. The bare text
goes up to the last name, so arguments of outer classes stay in it. -/
def classType : JavaRule (String × Bool) := do
  let start ← Rule.place
  typeSegment
  let stop ← Rule.place
  let generic ← Rule.accepts g.typeArguments
  Rule.extend
    (fun seen => do
      sign "."
      let _ ← g.annotations
      typeSegment
      let stop ← Rule.place
      let generic ← Rule.accepts g.typeArguments
      return (start.textUpTo stop, seen.2 || generic))
    (start.textUpTo stop, generic)

/-- A type without dimensions. -/
def simpleType : JavaRule String :=
  Rule.orElse (keywordIn primitives) fun _ => do
    let t ← g.classType
    return t.1

def bareTypeRule : JavaRule String := do
  let t ← g.simpleType
  let _ ← g.dimensions
  return t

def typeParameters : JavaRule Unit :=
  Rule.skip (Rule.between (sign "<") (sign ">") (commaList1 do
    let _ ← g.annotations
    let _ ← word
    Rule.skip (Rule.optional do
      keyword "extends"
      Rule.sepBy1 g.type (sign "&"))))

/-! Annotations -/

def dottedName : JavaRule Unit := Rule.skip (Rule.sepBy1 word (sign "."))

/-- Values in braces; a comma may follow the last of them. -/
def braced {α : Type} (p : JavaRule α) : JavaRule (List α) :=
  Rule.between (sign "\x7b") (do let _ ← Rule.optional (sign ","); sign "\x7d") (commaList p)

def elementValueRule : JavaRule Shape :=
  Rule.firstOf [
    g.annotationNode.skip >>= fun _ => pure .other,
    (braced g.elementValue).skip >>= fun _ => pure .other,
    g.expression false]

def literals (shapes : List Shape) : List Literal :=
  shapes.filterMap fun
    | .literal l => some l
    | _ => none

def namedValue : JavaRule Unit := do
  let _ ← word
  sign "="
  g.elementValue.skip

/-- Either named values or a single value. -/
def argumentsInside : JavaRule Arguments :=
  Rule.firstOf [
    do
      let _ ← commaList g.namedValue
      Rule.ahead (sign ")")
      return .other,
    do
      let shapes ← braced g.elementValue
      return .array (literals shapes),
    do
      let _ ← g.annotationNode
      return .other,
    do
      match ← g.expression false with
      | .literal l => return .literal l
      | _ => return .other]

def annotationRule : JavaRule Annotation := do
  let ((name, args), text) ← withText do
    sign "@"
    let (_, name) ← withText dottedName
    let args ← Rule.optional (parenthesized g.argumentsInside)
    return (name, args)
  return ⟨text, name, args.getD .none⟩

end Grammar

end ServiceAtlas.Java
