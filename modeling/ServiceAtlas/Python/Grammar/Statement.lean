import ServiceAtlas.Python.Grammar.Expression

/-!
Python statements. A suite is a list of simple statements on one line, an indented block, or nothing
at all; functions and classes are noted where they are defined.
-/

namespace ServiceAtlas.Python.Grammar

variable (g : Grammar)

/-- What is expected where a statement may begin. -/
def statementNext : Expect := { string := true, dedent := true }

def lineEnd : Expect := Follow.line.after

/-! Assignments -/

def augmentedSigns : List String :=
  ["+=", "-=", "*=", "/=", "@=", "//=", "%=", "**=", ">>=", "<<=", "&=", "^=", "|="]

/-- Expressions, perhaps assigned to, or a yield. -/
def assignmentRule : PythonRule Unit := do
  fetch operandNext
  Rule.orElse (g.yield_ .line) fun _ => do
    let left ← g.expressions .line
    Rule.skip (Rule.optional do
      fetch lineEnd
      Rule.require left.isTarget
      Rule.orElse
        (do
          let _ ← signIn ("=" :: augmentedSigns)
          g.assignment)
        fun _ => do
          sign ":"
          g.type .line
          Rule.skip (Rule.optional (do mark lineEnd "="; g.assignment)))

/-! Simple statements -/

/-- Words that begin a statement of their own kind and therefore name nothing there. -/
def statementWords : List String :=
  ["if", "for", "while", "try", "with", "def", "class", "import", "from", "assert", "return", "del",
   "raise", "pass", "break", "continue", "global", "nonlocal"]

def dottedName (e : Expect) : PythonRule Unit := do
  let _ ← word
  let _ ← Rule.many (do mark e "."; fetch {}; word)
  return ()

def imported (e : Expect) : PythonRule Unit := do
  dottedName e
  let _ ← Rule.optional (do key e "as"; fetch {}; word)
  return ()

def importedNames (f : Follow) : PythonRule Unit := do
  fetch {}
  imported f.after
  let _ ← Rule.many (do mark f.after ","; fetch f.after; imported f.after)
  let _ ← Rule.optional (mark f.after ",")
  return ()

def importStatement : PythonRule Unit := do
  keyword "import"
  importedNames .line

def relativeName : PythonRule Unit := do
  let _ ← Rule.many1 (do fetch {}; dot)
  let _ ← Rule.optional (do fetch {}; Rule.absent (keyword "import"); dottedName {})
  return ()

/-- Names from a module; those of `__future__` are never all taken. -/
def fromStatement : PythonRule Unit := do
  keyword "from"
  fetch {}
  let future ← Rule.firstOf [
    do relativeName; return false,
    do keyword "__future__"; return true,
    do dottedName {}; return false]
  key {} "import"
  fetch {}
  Rule.firstOf [
    do
      Rule.require (!future)
      sign "*",
    do
      sign "("
      importedNames .bracket
      mark Follow.bracket.after ")",
    importedNames .line]

def printStatement : PythonRule Unit := do
  keyword "print"
  let f := Follow.line
  Rule.orElse
    (do
      mark operandNext ">>"
      let _ ← g.value f
      let _ ← moreItems f (g.value f)
      return ())
    fun _ => do
      let _ ← commaItems f (g.value f)
      return ()

def execStatement : PythonRule Unit := do
  keyword "exec"
  fetch operandNext
  Rule.orElse g.stringLiteral.skip fun _ => word.skip
  let _ ← Rule.optional do
    key lineEnd "in"
    Rule.sepBy1 (g.value .line) (mark lineEnd ",")
  return ()

def aliasStatement : PythonRule Unit := do
  keyword "type"
  fetch Follow.line.more
  g.type .nothing
  mark {} "="
  g.type .line

def names : PythonRule Unit := do
  fetch {}
  let _ ← word
  let _ ← Rule.many (do mark lineEnd ","; fetch {}; word)
  return ()

def raiseStatement : PythonRule Unit := do
  keyword "raise"
  let _ ← Rule.optional do
    fetch Follow.line.more
    Rule.absent (keyword "from")
    g.expressions .line
  let _ ← Rule.optional (do key lineEnd "from"; g.value .line)
  return ()

def keywordStatement : PythonRule Unit :=
  Rule.firstOf [
    importStatement,
    fromStatement,
    do
      keyword "assert"
      let _ ← Rule.sepBy1 (g.value .line) (mark lineEnd ",")
      return (),
    do
      keyword "return"
      let _ ← Rule.optional (g.expressions .line)
      return (),
    do
      keyword "del"
      let _ ← g.expressions .line
      return (),
    g.raiseStatement,
    (wordIn ["pass", "break", "continue"]).skip,
    do
      let _ ← wordIn ["global", "nonlocal"]
      names]

/-- What ends a simple statement. -/
def statementEnd : PythonRule Unit :=
  Rule.orElse (Rule.ahead (mark lineEnd ";")) fun _ => Rule.ahead (newline lineEnd)

def ended (p : PythonRule Unit) : PythonRule Unit := do
  p
  statementEnd

def simpleStatement : PythonRule Unit :=
  Rule.firstOf [
    g.keywordStatement,
    do
      Rule.absent (wordIn statementWords)
      Rule.firstOf [
        ended g.aliasStatement,
        ended g.assignment,
        ended g.printStatement,
        ended g.execStatement]]

/-- Simple statements up to the end of the line. -/
def simpleStatements : PythonRule Unit := do
  g.simpleStatement
  let _ ← Rule.many do
    mark lineEnd ";"
    fetch Follow.line.more
    g.simpleStatement
  let semicolon ← Rule.accepts (mark lineEnd ";")
  newline (if semicolon then Follow.line.more else lineEnd)

/-! Suites -/

/-- What is further in: items up to the dedent. -/
def block (opening closing : Expect) (item : PythonRule Unit) : PythonRule Unit := do
  indent opening
  let _ ← Rule.many item
  dedent closing

def suiteNext : Expect := { newline := true, indent := true, string := true }

/-- What follows the colon of a compound statement. -/
def suite : PythonRule Unit := do
  mark {} ":"
  Rule.firstOf [
    block suiteNext statementNext g.statement,
    newline suiteNext,
    do
      fetch suiteNext
      g.simpleStatements]

def elseClause : PythonRule Unit := Rule.skip (Rule.optional do
  key statementNext "else"
  g.suite)

def ifStatement : PythonRule Unit := do
  keyword "if"
  let _ ← g.value .nothing
  g.suite
  let _ ← Rule.many do
    key statementNext "elif"
    let _ ← g.value .nothing
    g.suite
  g.elseClause

def forStatement : PythonRule Unit := do
  keyword "for"
  g.targets
  key {} "in"
  let _ ← g.expressions .nothing
  g.suite
  g.elseClause

def whileStatement : PythonRule Unit := do
  keyword "while"
  let _ ← g.value .nothing
  g.suite
  g.elseClause

def handlerNext : Expect := { handler := true }

def moreHandlers : Expect := { statementNext with handler := true }

def exceptClause (e : Expect) : PythonRule Unit := do
  key e "except"
  let _ ← Rule.optional do
    let _ ← g.value .nothing
    Rule.optional (do mark {} ","; g.value .nothing)
  g.suite

def exceptGroup (e : Expect) : PythonRule Unit := do
  key e "except"
  sign "*"
  let _ ← g.value .nothing
  g.suite

def finallyClause (e : Expect) : PythonRule Unit := do
  key e "finally"
  g.suite

def tryStatement : PythonRule Unit := do
  keyword "try"
  g.suite
  Rule.firstOf [
    g.finallyClause handlerNext,
    do
      Rule.orElse
        (do
          g.exceptGroup handlerNext
          (Rule.many (g.exceptGroup moreHandlers)).skip)
        fun _ => do
          g.exceptClause handlerNext
          (Rule.many (g.exceptClause moreHandlers)).skip
      g.elseClause
      Rule.skip (Rule.optional (g.finallyClause statementNext))]

def withStatement : PythonRule Unit := do
  keyword "with"
  let _ ← commaItems .nothing (g.value .nothing)
  g.suite

/-! Definitions -/

def returnType : PythonRule Unit := do
  mark {} "->"
  g.plainType .nothing

/-- A function, from its first word on. -/
def function (decorators : List Decorator) : PythonRule Unit := Rule.declare do
  let _ ← Rule.optional (do keyword "async"; fetch {})
  keyword "def"
  fetch {}
  let _ ← word
  let _ ← Rule.optional (do fetch {}; g.typeParameters)
  fetch {}
  let parameters ← g.parameters
  let _ ← Rule.optional g.returnType
  g.suite
  return some (.function decorators parameters)

def plainNames (items : List (Option Expr)) : List String :=
  items.filterMap fun
    | some (.name text) => some text
    | _ => none

/-- A class, from its first word on. -/
def classDefinition : PythonRule Unit := Rule.declare do
  keyword "class"
  fetch {}
  let name ← word
  let _ ← Rule.optional (do fetch {}; g.typeParameters)
  let bases ← Rule.optional do
    mark {} "("
    g.arguments
  g.suite
  return some (.type name (plainNames (bases.getD [])))

def decorator : PythonRule Decorator := do
  sign "@"
  let split ← lineSplit operandNext
  let e ← g.value .line
  newline lineEnd
  match split, e with
  | false, .call (some verb) first => return .call verb first
  | _, _ => return .other

def decorated : PythonRule Unit := do
  let first ← g.decorator
  let others ← Rule.many (do fetch {}; g.decorator)
  fetch {}
  Rule.orElse (g.function (first :: others)) fun _ => g.classDefinition

/-! Matching -/

def patternItems (closing : String) : PythonRule Unit := do
  let f := Follow.bracket
  fetch f.more
  let _ ← Rule.optional (commaItems f g.pattern)
  mark f.after closing

def signedNumber : PythonRule Unit := do
  let _ ← Rule.optional (do sign "-"; fetch {})
  let _ ← number
  let _ ← Rule.optional do
    fetch Follow.bracket.after
    let _ ← signIn ["+", "-"]
    fetch {}
    number
  return ()

def keyPattern : PythonRule Unit := do
  g.pattern
  mark {} ":"
  fetch operandNext
  g.pattern

def simplePattern : PythonRule Unit :=
  Rule.firstOf [
    starredName,
    do
      sign "["
      g.patternItems "]",
    do
      sign "("
      g.patternItems ")",
    do
      sign "\x7b"
      let f := Follow.bracket
      fetch f.more
      let _ ← Rule.optional (commaItems f (Rule.orElse starredName fun _ => g.keyPattern))
      mark f.after "\x7d",
    (Rule.many1 (do fetch { Follow.bracket.after with string := true }; g.stringLiteral)).skip,
    signedNumber,
    do
      dottedName Follow.bracket.after
      Rule.skip (Rule.optional (do
        mark Follow.bracket.after "("
        g.patternItems ")"))]

/-- A pattern of a case. -/
def patternRule : PythonRule Unit := do
  let _ ← Rule.optional (do
    let _ ← word
    mark Follow.bracket.after "="
    fetch operandNext)
  g.simplePattern
  let _ ← Rule.many (do
    mark Follow.bracket.after "|"
    fetch operandNext
    g.simplePattern)
  let _ ← Rule.many (do key Follow.bracket.after "as"; fetch {}; word)
  return ()

def caseClause : PythonRule Unit := do
  key { dedent := true } "case"
  let _ ← commaItems .nothing g.pattern
  let _ ← Rule.optional (do key {} "if"; g.value .nothing)
  g.suite

def matchStatement : PythonRule Unit := do
  keyword "match"
  fetch Follow.line.more
  let _ ← commaItems .nothing (g.value .nothing)
  mark {} ":"
  let e : Expect := { newline := true, indent := true }
  Rule.orElse (block e { dedent := true } g.caseClause) fun _ => newline e

/-! The statement rule -/

def asyncStatement : PythonRule Unit := do
  keyword "async"
  fetch {}
  Rule.orElse g.forStatement fun _ => g.withStatement

def statementRule : PythonRule Unit := do
  fetch statementNext
  Rule.firstOf [
    g.decorated, g.function [], g.classDefinition, g.ifStatement, g.forStatement, g.whileStatement,
    g.tryStatement, g.withStatement, g.asyncStatement, g.matchStatement, g.simpleStatements]

/-! The knot -/

/-- The grammar with every nonterminal written out once over `g`. -/
def unfold (g : Unit → Grammar) : Grammar where
  expression plain f := Rule.delay fun _ => (g ()).expressionRule plain f
  primary f := Rule.delay fun _ => (g ()).primaryRule f
  unary f := Rule.delay fun _ => (g ()).unaryRule f
  unit plain f := Rule.delay fun _ => (g ()).unitRule plain f
  interpolation := Rule.delay fun _ => (g ()).interpolationRule
  type f := Rule.delay fun _ => (g ()).typeRule f
  pattern := Rule.delay fun _ => (g ()).patternRule
  assignment := Rule.delay fun _ => (g ()).assignmentRule
  statement := Rule.delay fun _ => (g ()).statementRule

/-- The grammar with nonterminals nested at most `depth` deep. -/
def nested : Nat → Grammar
  | 0 => nothing
  | depth + 1 => unfold fun _ => nested depth

/-- A whole source. -/
def source (g : Grammar) : PythonRule Unit := do
  let _ ← Rule.many g.statement
  fetch statementNext
  atEnd

end ServiceAtlas.Python.Grammar

namespace ServiceAtlas.Python

/-- Nonterminals that take no character follow each other only a few times, so this depth is never
reached. -/
def depthFor (cs : List Char) : Nat := 8 * (cs.length + 1)

/-- The declarations of a source in document order, or nothing if it is not well formed. A byte-order
mark at the front is passed over. -/
def outline? (cs : List Char) : Option (List (Located Declaration)) :=
  let cs := Text.skipMark cs
  match (Grammar.nested (depthFor cs)).source.read ⟨1, cs, [0], false⟩ with
  | some reading => some reading.found
  | none => none

end ServiceAtlas.Python
