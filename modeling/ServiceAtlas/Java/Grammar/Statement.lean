import ServiceAtlas.Java.Grammar.Expression

/-!
Java statements and declarations. A type may be declared wherever a statement may stand; methods stand
in the bodies of types and at the top of a source.
-/

namespace ServiceAtlas.Java.Grammar

variable (g : Grammar)

def blockRule : JavaRule Unit := braces (Rule.many g.statement).skip

/-! Methods and variables -/

/-- The names of a variable declaration, after its type. -/
def declarators : JavaRule Unit := do
  let _ ← commaList1 g.declarator
  sign ";"

def throwsClause : JavaRule Unit := Rule.skip (Rule.optional do
  keyword "throws"
  commaList1 g.type)

/-- A method after its modifiers: its return type and the types of its parameters. -/
def method : JavaRule (String × List String) := do
  let _ ← Rule.optional (do g.typeParameters; g.annotations)
  let returnType ← g.bareType
  let _ ← word
  let types ← g.parameters
  let _ ← g.dimensions
  g.throwsClause
  Rule.orElse (sign ";") fun _ => g.block
  return (returnType, types)

def variableDeclaration : JavaRule Unit := do
  let _ ← g.bareType
  g.declarators

/-! Types -/

def typeList (w : String) : JavaRule Unit := Rule.skip (Rule.optional do
  keyword w
  commaList1 g.type)

def classDeclaration : JavaRule String := do
  keyword "class"
  let name ← word
  let _ ← Rule.optional g.typeParameters
  let _ ← Rule.optional (do keyword "extends"; g.type)
  g.typeList "implements"
  g.typeList "permits"
  g.body .classBody
  return name

def recordDeclaration : JavaRule Unit := do
  keyword "record"
  let _ ← word
  let _ ← Rule.optional g.typeParameters
  let _ ← g.parameters
  g.typeList "implements"
  g.body .classBody

def enumConstant : JavaRule Unit := do
  let _ ← g.modifiersIfAny
  let _ ← word
  let _ ← Rule.optional g.arguments
  let _ ← Rule.optional (g.body .classBody)
  return ()

/-- An element of an annotation type. -/
def annotationElement : JavaRule Unit := do
  let _ ← g.bareType
  let _ ← word
  sign "("
  sign ")"
  let _ ← g.dimensions
  let _ ← Rule.optional (do keyword "default"; g.elementValue)
  sign ";"

def constructorCall : JavaRule Unit := do
  Rule.orElse
    (do
      let _ ← Rule.optional g.typeArguments
      let _ ← keywordIn ["this", "super"]
      return ())
    fun _ => do
      let _ ← g.primary
      sign "."
      let _ ← Rule.optional g.typeArguments
      keyword "super"
  g.arguments
  sign ";"

/-- Words that declare a type of their kind wherever a declaration may stand. -/
def typeWords : List String := ["class", "interface", "enum"]

/-- Words that begin a member of their own kind and therefore do not name a constructor. -/
def memberWords : List String := "record" :: typeWords ++ primitives

def constructor : JavaRule Unit := do
  let _ ← Rule.optional g.typeParameters
  let _ ← wordExcept memberWords
  let _ ← g.parameters
  g.throwsClause
  braces do
    let _ ← Rule.optional g.constructorCall
    (Rule.many g.statement).skip

def compactConstructor : JavaRule Unit := do
  let _ ← wordExcept memberWords
  g.block

/-- A member of a type other than a nested type, after its modifiers. -/
def plainMember (kind : BodyKind) (annotations : List Annotation) :
    JavaRule (Option Declaration) :=
  match kind with
  | .annotationBody => do
    Rule.orElse g.annotationElement fun _ => g.variableDeclaration
    return none
  | .interfaceBody =>
    Rule.orElse
      (do
        let (returnType, types) ← g.method
        return some (.method annotations returnType types))
      fun _ => do
        g.variableDeclaration
        return none
  | .classBody =>
    Rule.firstOf [
      do
        g.compactConstructor
        return none,
      do
        g.constructor
        return none,
      do
        let (returnType, types) ← g.method
        return some (.method annotations returnType types),
      do
        g.variableDeclaration
        return none]

/-- The words that, followed by a word, can only declare a type of their kind. -/
def declares (w : String) : JavaRule Unit := Rule.ahead do
  keyword w
  word

/-- A type declaration after its modifiers; only classes are noted. A record cannot stand in an
annotation type. -/
def typeDeclaration (records : Bool) (annotations : List Annotation) :
    JavaRule (Option Declaration) :=
  Rule.firstOf [
    do
      let name ← g.classDeclaration
      return some (.type annotations name),
    do
      Rule.require records
      g.recordDeclaration
      return none,
    do
      keyword "interface"
      let _ ← word
      let _ ← Rule.optional g.typeParameters
      g.typeList "extends"
      g.typeList "permits"
      g.body .interfaceBody
      return none,
    do
      sign "@interface"
      let _ ← word
      g.body .annotationBody
      return none,
    do
      keyword "enum"
      let _ ← word
      g.typeList "implements"
      braces do
        let _ ← commaList g.enumConstant
        let _ ← Rule.optional (sign ",")
        Rule.skip (Rule.optional do
          sign ";"
          Rule.many (g.member .classBody))
      return none]

def memberRule (kind : BodyKind) : JavaRule Unit :=
  Rule.firstOf [
    sign ";",
    do
      Rule.require (kind = .classBody)
      let _ ← Rule.optional (keyword "static")
      g.block,
    Rule.declare do
      let annotations ← g.modifiersIfAny
      Rule.orElse (g.typeDeclaration (kind ≠ .annotationBody) annotations) fun _ => do
        if kind ≠ .annotationBody then Rule.absent (declares "record")
        Rule.absent (keywordIn typeWords)
        g.plainMember kind annotations]

/-! Statements -/

/-- Words that begin a statement of their own kind and therefore name nothing there. -/
def statementWords : List String :=
  ["if", "while", "for", "do", "try", "return", "break", "continue", "throw", "assert", "class",
   "interface", "enum", "import", "package", "public", "protected", "private", "abstract", "static",
   "final", "strictfp", "native", "transient", "volatile"]

def jump : JavaRule Unit := do
  let _ ← keywordIn ["break", "continue"]
  let _ ← Rule.optional word
  sign ";"

def conditional : JavaRule Unit := do
  keyword "if"
  g.parenthesizedValue
  g.statement
  let _ ← Rule.optional (do keyword "else"; g.statement)
  return ()

def whileLoop : JavaRule Unit := do
  keyword "while"
  g.parenthesizedValue
  g.statement

def doLoop : JavaRule Unit := do
  keyword "do"
  g.statement
  keyword "while"
  g.parenthesizedValue
  sign ";"

def forEachHeader : JavaRule Unit := do
  let _ ← g.modifiersIfAny
  let _ ← g.bareType
  g.declaratorName
  sign ":"
  g.value

def forHeader : JavaRule Unit := do
  Rule.orElse
    (do
      let _ ← g.modifiersIfAny
      g.variableDeclaration)
    fun _ => do
      let _ ← commaList g.value
      sign ";"
  let _ ← Rule.optional g.value
  sign ";"
  let _ ← commaList g.value
  return ()

def forLoop : JavaRule Unit := do
  keyword "for"
  parenthesized (Rule.orElse g.forEachHeader fun _ => g.forHeader)
  g.statement

def catchClause : JavaRule Unit := do
  keyword "catch"
  parenthesized do
    let _ ← g.modifiersIfAny
    let _ ← Rule.sepBy1 g.bareType (sign "|")
    g.declaratorName
  g.block

def finallyClause : JavaRule Unit := do
  keyword "finally"
  g.block

def resource : JavaRule Unit :=
  Rule.orElse
    (do
      let _ ← g.modifiersIfAny
      let _ ← g.bareType
      g.declaratorName
      sign "="
      g.value)
    fun _ => do
      let p ← g.primary
      Rule.require (p = .names || p = .element)

def tryStatement : JavaRule Unit := do
  keyword "try"
  let resources ← Rule.accepts (parenthesized do
    let _ ← Rule.sepBy1 g.resource (sign ";")
    Rule.optional (sign ";"))
  g.block
  let caught ← Rule.many g.catchClause
  let cleaned ← Rule.accepts g.finallyClause
  Rule.require (resources || cleaned || !caught.isEmpty)

def throwStatement : JavaRule Unit := do
  keyword "throw"
  g.value
  sign ";"

def assertion : JavaRule Unit := do
  keyword "assert"
  g.value
  let _ ← Rule.optional (do sign ":"; g.value)
  sign ";"

def returnStatement : JavaRule Unit := do
  keyword "return"
  let _ ← Rule.optional g.value
  sign ";"

def yieldStatement : JavaRule Unit := do
  keyword "yield"
  g.value
  sign ";"

def synchronizedStatement : JavaRule Unit := do
  keyword "synchronized"
  g.parenthesizedValue
  g.block

def labelled : JavaRule Unit := do
  let _ ← wordExcept
    (statementWords ++ modifierWords ++ operandWords ++ ["open", "module", "record", "with", "yield"])
  sign ":"
  g.statement

def expressionStatement : JavaRule Unit := do
  g.value
  sign ";"

/-! Packages, imports and modules -/

def packageDeclaration : JavaRule Unit := do
  keyword "package"
  dottedName
  sign ";"

def importDeclaration : JavaRule Unit := do
  keyword "import"
  let _ ← Rule.optional (do keyword "static"; Rule.ahead word)
  let _ ← word
  let _ ← Rule.many (do sign "."; word)
  let _ ← Rule.optional (do sign "."; sign "*")
  sign ";"

def toModules : JavaRule Unit := Rule.skip (Rule.optional do
  keyword "to"
  commaList1 dottedName)

def directive : JavaRule Unit := do
  let w ← keywordIn ["requires", "exports", "opens", "uses", "provides"]
  match w with
  | "requires" =>
    let _ ← Rule.many (do let _ ← keywordIn ["transitive", "static"]; Rule.ahead word)
    dottedName
  | "uses" => dottedName
  | "provides" =>
    dottedName
    keyword "with"
    (commaList1 dottedName).skip
  | _ =>
    dottedName
    toModules
  sign ";"

def moduleDeclaration : JavaRule Unit := do
  let _ ← Rule.optional (do keyword "open"; Rule.ahead (keyword "module"))
  keyword "module"
  dottedName
  braces (Rule.many directive).skip

/-! The statement rule -/

/-- A module or a package; of the modifiers only annotations go before it. -/
def unitDeclaration : JavaRule Unit := do
  let _ ← g.annotations
  Rule.orElse moduleDeclaration fun _ => packageDeclaration

def declarationStatement (top : Bool) : JavaRule Unit := Rule.declare do
  let start ← Rule.place
  let annotations ← g.modifiersIfAny
  let stop ← Rule.place
  let marked := stop.tokens.length < start.tokens.length
  Rule.firstOf [
    g.typeDeclaration true annotations,
    do
      Rule.absent (declares "record")
      Rule.absent (declares "module")
      Rule.absent (keywordIn typeWords)
      Rule.require top
      let (returnType, types) ← g.method
      return some (.method annotations returnType types),
    do
      Rule.absent (declares "record")
      Rule.absent (declares "module")
      Rule.absent (keywordIn (if marked then typeWords else statementWords))
      g.variableDeclaration
      return none]

def keywordStatement : JavaRule Unit :=
  Rule.firstOf [
    sign ";", g.block, g.conditional, g.whileLoop, g.doLoop, g.forLoop, g.tryStatement, jump,
    g.throwStatement, g.assertion, g.returnStatement, g.yieldStatement, g.synchronizedStatement,
    g.switchExpression, importDeclaration]

/-- A statement; at the top of a source it may be a method. -/
def statementAt (top : Bool) : JavaRule Unit :=
  Rule.firstOf [
    g.keywordStatement,
    g.labelled,
    g.unitDeclaration,
    g.declarationStatement top,
    do
      Rule.absent (keywordIn statementWords)
      g.expressionStatement]

/-! Switches -/

def typePattern : JavaRule Unit :=
  Rule.orElse g.recordPattern fun _ => do
    let _ ← g.bareType
    (wordExcept ["when", "instanceof"]).skip

def labelEnd : JavaRule Unit := Rule.orElse (signIn [":", "->"]).skip fun _ => keyword "when"

def guard : JavaRule Unit := Rule.skip (Rule.optional do
  keyword "when"
  g.expression true)

def caseLabel : JavaRule Unit := do
  keyword "case"
  Rule.orElse (do g.typePattern; Rule.ahead labelEnd) fun _ =>
    Rule.skip (commaList1 (Rule.orElse (do let s ← g.expression true; return s) fun _ => g.expression false))
  g.guard

def switchLabel : JavaRule Unit := Rule.orElse g.caseLabel fun _ => keyword "default"

def atLabel : JavaRule Unit :=
  Rule.orElse (keyword "case") fun _ => do
    keyword "default"
    Rule.skip (signIn [":", "->"])

def switchGroup : JavaRule Unit := do
  let _ ← Rule.many1 (do g.switchLabel; sign ":")
  let _ ← Rule.many (do Rule.absent atLabel; g.statement)
  return ()

def switchRule : JavaRule Unit := do
  g.switchLabel
  sign "->"
  Rule.firstOf [g.throwStatement, g.block, g.expressionStatement]

def switchBlockRule : JavaRule Unit :=
  Rule.orElse (braces (Rule.many g.switchRule).skip) fun _ => braces (Rule.many g.switchGroup).skip

/-! The knot -/

/-- The grammar with every nonterminal written out once over `g`. -/
def unfold (g : Unit → Grammar) : Grammar where
  expression label := Rule.delay fun _ => (g ()).expressionRule label
  operand label := Rule.delay fun _ => (g ()).operandRule label
  recordPattern := Rule.delay fun _ => (g ()).recordPatternRule
  annotationNode := Rule.delay fun _ => (g ()).annotationRule
  elementValue := Rule.delay fun _ => (g ()).elementValueRule
  arrayInitializer := Rule.delay fun _ => (g ()).arrayInitializerRule
  bareType := Rule.delay fun _ => (g ()).bareTypeRule
  block := Rule.delay fun _ => (g ()).blockRule
  statement := Rule.delay fun _ => (g ()).statementAt false
  member kind := Rule.delay fun _ => (g ()).memberRule kind
  switchBlock := Rule.delay fun _ => (g ()).switchBlockRule

/-- The grammar with nonterminals nested at most `depth` deep. -/
def nested : Nat → Grammar
  | 0 => nothing
  | depth + 1 => unfold fun _ => nested depth

/-- A whole source. -/
def source (g : Grammar) : JavaRule Unit := do
  let _ ← Rule.many (g.statementAt true)
  atEnd

end ServiceAtlas.Java.Grammar

namespace ServiceAtlas.Java

/-- Nonterminals that take no token follow each other only a few times, so this depth is never
reached. -/
def depthFor (tokens : List Token) : Nat := 8 * (tokens.length + 1)

/-- The declarations of a source in document order, or nothing if it is not well formed. -/
def outline? (cs : List Char) : Option (List (Located Declaration)) := do
  let tokens ← tokens? cs
  let reading ← (Grammar.nested (depthFor tokens)).source.read ⟨1, tokens⟩
  return reading.found

end ServiceAtlas.Java
