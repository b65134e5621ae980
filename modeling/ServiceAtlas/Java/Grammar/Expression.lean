import ServiceAtlas.Java.Grammar.Basic

/-!
Java expressions. Precedence does not matter to what is accepted: an expression is a chain of operands
and operators. An assignment may follow any operand that is a name, a field or an array element.
-/

namespace ServiceAtlas.Java.Grammar

variable (g : Grammar)

/-- An operand that can be followed by further access. -/
inductive Primary where
  | literal (value : Literal)
  /-- Names with dots between them, which may also be a type. -/
  | names
  /-- A field or an array element. -/
  | element
  | value
  /-- The word `super`, which stands for nothing by itself. -/
  | base
  deriving DecidableEq, Repr

def Primary.shape : Primary → Shape
  | .literal l => .literal l
  | .names => .assignable
  | .element => .assignable
  | .value => .other
  | .base => .other

/-- Words that begin an operand and therefore name nothing at that place. -/
def operandWords : List String :=
  ["new", "this", "super", "switch", "true", "false", "null", "instanceof"] ++ primitives

def arguments : JavaRule Unit := Rule.skip (parenthesized (commaList g.value))

/-! Literals -/

def template : JavaRule Unit := do
  let _ ← ofKind .stringOpen
  g.value
  let _ ← Rule.many (do let _ ← ofKind .stringMiddle; g.value)
  let _ ← ofKind .stringClose
  return ()

def stringLiteral : JavaRule String := do
  let (_, text) ← withText (Rule.orElse (ofKind .string).skip fun _ => g.template)
  return text

def literal : JavaRule Literal :=
  Rule.firstOf [
    do return .string (← g.stringLiteral),
    do return .character (← ofKind .character),
    do return .bare (← ofKind .number),
    do return .bare (← keywordIn ["true", "false", "null"])]

/-! Creation -/

def creationType : JavaRule String := do
  let _ ← g.annotations
  let _ ← Rule.optional (do g.typeArguments; g.annotations)
  g.simpleType

def creationArguments : JavaRule Unit := do
  g.arguments
  let _ ← Rule.optional (g.body .classBody)
  return ()

def dimensionSize : JavaRule Unit := do
  let _ ← g.annotations
  sign "["
  g.value
  sign "]"

/-- What follows `new`. -/
def creation : JavaRule Unit := do
  let _ ← g.creationType
  Rule.firstOf [
    g.creationArguments,
    do
      let _ ← Rule.many1 g.dimensionSize
      let _ ← g.dimensions
      return (),
    do
      Rule.require (← g.dimensions)
      g.arrayInitializer]

def objectCreation : JavaRule Unit := do
  let _ ← g.creationType
  g.creationArguments

/-! Parameters -/

def modifierWords : List String :=
  ["public", "protected", "private", "abstract", "static", "final", "strictfp", "default",
   "synchronized", "native", "transient", "volatile", "sealed"]

/-- A modifier word, unless what follows shows that it is something else. -/
def modifierWord : JavaRule Unit := do
  let w ← keywordIn modifierWords
  match w with
  | "default" => Rule.absent (signIn [":", "->"])
  | "synchronized" => Rule.absent (sign "(")
  | "static" => Rule.absent (sign "\x7b")
  | "sealed" => Rule.ahead (Rule.orElse word.skip fun _ => (signIn ["@", "@interface"]).skip)
  | _ => return ()

def nonSealed : JavaRule Unit := do
  keyword "non"
  tightSign "-"
  Rule.skip (tokenIf fun t => t.kind == .word && t.text == "sealed" && t.lead.isEmpty)

/-- Modifiers, at least one; gives the annotations among them. -/
def modifiers : JavaRule (List Annotation) := do
  let items ← Rule.many1 (Rule.firstOf [
    do return some (← g.annotationNode),
    do modifierWord; return none,
    do nonSealed; return none])
  return items.filterMap id

def modifiersIfAny : JavaRule (List Annotation) := do
  return (← Rule.optional g.modifiers).getD []

def declaratorName : JavaRule Unit := do
  let _ ← word
  let _ ← g.dimensions
  return ()

def initializer : JavaRule Unit := Rule.orElse g.arrayInitializer fun _ => g.value

def declarator : JavaRule Unit := do
  g.declaratorName
  let _ ← Rule.optional (do sign "="; g.initializer)
  return ()

/-- A parameter, by its bare type. -/
def parameter : JavaRule String := do
  let _ ← g.modifiersIfAny
  let t ← g.bareType
  Rule.orElse (do sign "..."; g.declarator) fun _ => g.declaratorName
  return t

def receiver : JavaRule Unit := do
  let _ ← g.annotations
  let _ ← g.bareType
  let _ ← Rule.many (do let _ ← word; sign ".")
  keyword "this"
  Rule.ahead (signIn [",", ")"]).skip

/-- The parameters of a method by their types; a receiver does not count. -/
def parameters : JavaRule (List String) := parenthesized do
  let own ← Rule.accepts g.receiver
  if own then
    let more ← Rule.accepts (sign ",")
    if more then commaList g.parameter else return []
  else commaList g.parameter

/-! Primary expressions -/

def lambdaBody (label : Bool) : JavaRule Unit := do
  sign "->"
  Rule.orElse g.block fun _ => (g.expression label).skip

def lambda : JavaRule Unit := do
  Rule.firstOf [
    (wordExcept operandWords).skip,
    Rule.skip (parenthesized (commaList (wordExcept operandWords))),
    g.parameters.skip]
  g.lambdaBody false

/-- What a method reference ends with. -/
def reference : JavaRule Unit := do
  sign "::"
  let _ ← Rule.optional g.typeArguments
  word.skip

def classLiteral : JavaRule Unit := do
  sign "."
  keyword "class"

/-- A type that can be told from a name by its arguments or dimensions, used as a value. -/
def typeReference : JavaRule Unit := do
  let (_, generic) ← g.classType
  let dims ← g.dimensions
  Rule.require (generic || dims)
  Rule.orElse g.reference fun _ => classLiteral

def primitiveReference : JavaRule Unit := do
  let _ ← keywordIn primitives
  let _ ← g.dimensions
  Rule.orElse g.reference fun _ => classLiteral

def base : JavaRule Primary :=
  Rule.firstOf [
    do return .literal (← g.literal),
    do keyword "this"; return .value,
    do keyword "super"; return .base,
    do g.primitiveReference; return .value,
    do keyword "new"; g.creation; return .value,
    do g.parenthesizedValue; return .value,
    do g.typeReference; return .value,
    do
      let _ ← wordExcept operandWords
      let called ← Rule.accepts g.arguments
      return if called then .value else .names]

def afterDot (p : Primary) : JavaRule Primary :=
  Rule.firstOf [
    do
      keyword "class"
      Rule.require (p = .names)
      return .value,
    do
      keyword "this"
      return .element,
    do
      keyword "new"
      Rule.require (p ≠ .base)
      g.objectCreation
      return .value,
    do
      keyword "super"
      sign "."
      let _ ← Rule.optional g.typeArguments
      let _ ← word
      let called ← Rule.accepts g.arguments
      return if called then .value else .element,
    do
      g.typeArguments
      let _ ← word
      g.arguments
      return .value,
    do
      Rule.require (p ≠ .base)
      let _ ← g.stringLiteral
      return .value,
    do
      let _ ← wordExcept ["class", "this", "new", "super"]
      let called ← Rule.accepts g.arguments
      return if called then .value else if p = .names then .names else .element]

def access (p : Primary) : JavaRule Primary :=
  Rule.firstOf [
    do
      sign "."
      g.afterDot p,
    do
      Rule.require (p ≠ .base)
      sign "["
      g.value
      sign "]"
      return .element,
    do
      g.reference
      return .value]

def primary : JavaRule Primary := do
  let p ← Rule.extend g.access (← g.base)
  Rule.require (p ≠ .base)
  return p

/-! Operands and operators -/

def plain : Shape → Shape
  | .literal _ => .other
  | s => s

/-- What is cast: any operand to a single type, a primary expression or a lambda to several. -/
def castOperand (label : Bool) (types : Nat) : JavaRule Shape :=
  if types = 1 then do
    return plain (← g.operand label)
  else do
    Rule.orElse (do Rule.require (!label); g.lambda) fun _ => g.primary.skip
    return .other

def switchExpression : JavaRule Unit := do
  keyword "switch"
  g.parenthesizedValue
  g.switchBlock

def operandRule (label : Bool) : JavaRule Shape :=
  Rule.firstOf [
    do
      let _ ← signIn ["+", "-", "!", "~", "++", "--"]
      return plain (← g.operand label),
    do
      Rule.require (!label)
      g.lambda
      return .other,
    do
      let types ← parenthesized (Rule.sepBy1 g.type (sign "&"))
      g.castOperand label types.length,
    do
      g.switchExpression
      return .other,
    do
      return (← g.primary).shape]

/-- A shift or a comparison that begins with a closing angle bracket. -/
def closingOperator : JavaRule Unit := do
  sign ">"
  let _ ← Rule.optional (do
    tightSign ">"
    Rule.skip (Rule.optional (tightSign ">")))
  return ()

def binaryOperator : JavaRule Unit :=
  Rule.orElse closingOperator fun _ =>
    (signIn ["<", ">=", "<=", "==", "!=", "&&", "||", "+", "-", "*", "/", "&", "|", "^", "%", "<<"]).skip

def assignOperator : JavaRule Unit :=
  (signIn ["=", "+=", "-=", "*=", "/=", "&=", "|=", "^=", "%=", "<<=", ">>=", ">>>="]).skip

/-- The type of a record pattern: a simple name, or any type with arguments. -/
def recordType : JavaRule Unit :=
  Rule.orElse (do let _ ← word; Rule.ahead (sign "(")) fun _ => do
    let (_, generic) ← g.classType
    Rule.require generic

def recordPatternRule : JavaRule Unit := do
  g.recordType
  Rule.skip (parenthesized (commaList (Rule.firstOf [
    g.recordPattern,
    do
      let _ ← g.bareType
      word.skip,
    keyword "_"])))

def instanceTest : JavaRule Unit := do
  keyword "instanceof"
  let _ ← Rule.optional (keyword "final")
  Rule.orElse g.recordPattern fun _ => do
    let _ ← g.type
    Rule.skip (Rule.optional (wordExcept ["instanceof"]))

def continuation (label : Bool) (s : Shape) : JavaRule Shape :=
  Rule.firstOf [
    do
      let _ ← signIn ["++", "--"]
      return .other,
    do
      g.instanceTest
      return .other,
    do
      binaryOperator
      return plain (← g.operand label),
    do
      sign "?"
      g.value
      sign ":"
      let _ ← g.expression label
      return .other,
    do
      Rule.require (s = .assignable)
      assignOperator
      let _ ← g.expression label
      return .other]

def expressionRule (label : Bool) : JavaRule Shape := do
  Rule.extend (g.continuation label) (← g.operand label)

def arrayInitializerRule : JavaRule Unit := (braced g.initializer).skip

end ServiceAtlas.Java.Grammar
