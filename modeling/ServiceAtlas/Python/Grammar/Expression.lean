import ServiceAtlas.Python.StringText

/-!
Python expressions. Operands of arithmetic and comparison are primary expressions; `not`, `and`, `or`,
lambdas and conditionals stand above them. What may follow an expression decides what a line end
inside it means, so every rule is told.
-/

namespace ServiceAtlas.Python

/-- What may come after an expression: the end of the line, or a closing bracket. -/
structure Follow where
  newline : Bool
  close : Bool
  deriving DecidableEq, Repr

namespace Follow

def nothing : Follow := ⟨false, false⟩

def line : Follow := ⟨true, false⟩

def bracket : Follow := ⟨false, true⟩

/-- What is expected after a complete expression. -/
def after (f : Follow) : Expect := { newline := f.newline, close := f.close }

/-- What is expected where another expression may come, or the end. -/
def more (f : Follow) : Expect := { f.after with string := true }

end Follow

/-- Where an operand must come. -/
def operandNext : Expect := { string := true }

/-- What an expression is, as far as it matters to the place it stands in. -/
inductive Expr where
  | name (text : String)
  /-- An attribute of something, by its name. -/
  | member (name : String)
  | subscript
  /-- A call, by the name of the attribute that is called. -/
  | call (verb : Option String) (first : Argument)
  | strings (contents : List StringContent)
  | constant (text : String)
  /-- Something in brackets, which may be assigned to if all its parts may. -/
  | group (target : Bool)
  | splat (target : Bool)
  | other
  deriving DecidableEq, Repr

namespace Expr

/-- Whether a star may stand before it on the left of an assignment. -/
def isPlainTarget : Expr → Bool
  | .name _ | .member _ | .subscript => true
  | _ => false

/-- Whether it may be assigned to. -/
def isTarget : Expr → Bool
  | .group target | .splat target => target
  | e => e.isPlainTarget

def argument : Expr → Argument
  | .strings contents => .strings contents
  | .constant text => .constant text
  | _ => .other

end Expr

/-- The nonterminals that refer to each other. -/
structure Grammar where
  /-- An expression; `plain` ones are no conditionals. -/
  expression : (plain : Bool) → Follow → PythonRule Expr
  primary : Follow → PythonRule Expr
  unary : Follow → PythonRule Expr
  unit : (plain : Bool) → Follow → PythonRule Expr
  interpolation : PythonRule Unit
  type : Follow → PythonRule Unit
  pattern : PythonRule Unit
  assignment : PythonRule Unit
  statement : PythonRule Unit

namespace Grammar

/-- The grammar that accepts nothing. -/
def nothing : Grammar where
  expression _ _ := Rule.fail
  primary _ := Rule.fail
  unary _ := Rule.fail
  unit _ _ := Rule.fail
  interpolation := Rule.fail
  type _ := Rule.fail
  pattern := Rule.fail
  assignment := Rule.fail
  statement := Rule.fail

variable (g : Grammar)

def value (f : Follow) : PythonRule Expr := g.expression false f

/-- A sign, where `e` is expected. -/
def mark (e : Expect) (s : String) : PythonRule Unit := do
  fetch e
  sign s

/-- A keyword, where `e` is expected. -/
def key (e : Expect) (w : String) : PythonRule Unit := do
  fetch e
  keyword w

/-- More items after a first one, each after a comma, and perhaps a last comma; gives the items and
the number of commas. -/
def moreItems {α : Type} (f : Follow) (item : PythonRule α) : PythonRule (List α × Nat) := do
  let others ← Rule.many do
    mark f.after ","
    fetch f.more
    item
  let trailing ← Rule.accepts (mark f.after ",")
  return (others, others.length + if trailing then 1 else 0)

/-- Items with commas between them and perhaps after the last one. -/
def commaItems {α : Type} (f : Follow) (item : PythonRule α) : PythonRule (List α × Nat) := do
  fetch f.more
  let first ← item
  let (others, commas) ← moreItems f item
  return (first :: others, commas)

/-- More items in brackets after a first one, each after a comma and with whether the line is split
before it, and perhaps a last comma. Behind a comma `e` is expected. -/
def splitItems {α : Type} (e : Expect) (item : PythonRule α) : PythonRule (List (Bool × α)) := do
  let others ← Rule.many do
    let before ← lineSplit Follow.bracket.after
    mark Follow.bracket.after ","
    let behind ← lineSplit e
    fetch e
    return (before || behind, ← item)
  let _ ← Rule.optional (mark Follow.bracket.after ",")
  return others

/-- The items, with `sep` in front of those that the line is split before. -/
def withSplits {α : Type} (sep : α) (items : List (Bool × α)) : List α :=
  items.flatMap fun (split, a) => if split then [sep, a] else [a]

/-- One or more expressions with commas between them; a single one without a comma is itself. -/
def expressions (f : Follow) : PythonRule Expr := do
  let (items, commas) ← commaItems f (g.value f)
  match items, commas with
  | [e], 0 => return e
  | es, _ => return .group (es.all Expr.isTarget)

def yield_ (f : Follow) : PythonRule Unit := do
  keyword "yield"
  Rule.orElse
    (do
      key f.more "from"
      let _ ← g.value f
      return ())
    fun _ => do
      let _ ← Rule.optional (g.expressions f)
      return ()

/-! Strings -/

structure StringState where
  content : List Char
  computed : Bool
  done : Bool

def StringState.add (s : StringState) (text : String) : StringState :=
  { s with content := s.content ++ text.toList }

def doubledBrace : PythonRule Unit := take fun
  | '{' :: '{' :: _ => some ((), 2)
  | '}' :: '}' :: _ => some ((), 2)
  | _ => none

def stringPiece (d : Delimiter) (s : StringState) : PythonRule StringState := do
  Rule.require (!s.done)
  Rule.firstOf [
    do
      Rule.require d.format
      let (_, text) ← withText doubledBrace
      return s.add text,
    do
      let (piece, text) ← withText (take fun cs =>
        (contentFrom? d false cs).map fun (piece, rest) => (piece, cs.length - rest.length))
      match piece with
      | .content => return s.add text
      | .stop => return { s with done := true },
    do
      Rule.require d.format
      g.interpolation
      return { s with computed := true },
    do
      let (_, text) ← withText (take fun cs => (escapeLength cs).map ((), ·))
      return s.add text]

/-- A single string literal. -/
def stringLiteral : PythonRule StringContent := do
  let d ← take stringStart?
  setFormat d.format
  let s ← Rule.extend (g.stringPiece d) ⟨[], false, false⟩
  Rule.require s.done
  setFormat false
  return if s.computed then none else some (String.ofList s.content)

def colon : PythonRule Unit := take fun cs => if cs.head? = some ':' then some ((), 1) else none

def conversion : PythonRule Unit := take fun
  | '!' :: c :: _ => if 'a' ≤ c && c ≤ 'z' then some ((), 2) else none
  | _ => none

def formatText : PythonRule Unit := take fun cs =>
  let text := cs.takeWhile fun c => c != '{' && c != '}' && c != '\n' && c != '\x00'
  if text.isEmpty then none else some ((), text.length)

def equalsSign : PythonRule Unit := take fun cs => if cs.head? = some '=' then some ((), 1) else none

/-- A computed part of a format string. -/
def interpolationRule : PythonRule Unit := do
  sign "\x7b"
  fetch operandNext
  Rule.orElse (g.yield_ .bracket) fun _ => (g.expressions .bracket).skip
  let here := Follow.bracket.after
  let _ ← Rule.optional (do fetch here; equalsSign)
  let _ ← Rule.optional (do fetch here; conversion)
  let _ ← Rule.optional do
    fetch here
    colon
    Rule.many (Rule.orElse formatText fun _ => do fetch here; g.interpolation)
  mark here "\x7d"

/-! Comprehensions -/

/-- The targets of a loop, after which comes `in`. -/
def targets : PythonRule Unit := do
  let (items, _) ← commaItems .nothing do
    Rule.absent (keyword "in")
    g.primary .nothing
  Rule.require (items.all Expr.isTarget)

def forClause (f : Follow) : PythonRule Unit := do
  let _ ← Rule.optional (key f.after "async")
  key f.after "for"
  g.targets
  key {} "in"
  let _ ← commaItems f (g.expression true f)
  return ()

def ifClause (f : Follow) : PythonRule Unit := do
  key f.after "if"
  let _ ← g.expression true f
  return ()

def clauses (f : Follow) : PythonRule Unit := do
  g.forClause f
  let _ ← Rule.many (Rule.orElse (g.forClause f) fun _ => g.ifClause f)
  return ()

/-! Brackets -/

/-- An element of a list, a set or a tuple, and whether it may be repeated by a comprehension. -/
def element : PythonRule (Expr × Bool) :=
  Rule.firstOf [
    do
      sign "*"
      let e ← g.value .bracket
      return (.splat e.isPlainTarget, e.isPlainTarget),
    do
      g.yield_ .bracket
      return (.other, false),
    do
      return (← g.value .bracket, true)]

/-- What is between round or square brackets: nothing, elements, or a comprehension. -/
def elements (closing : String) : PythonRule Expr := do
  fetch Follow.bracket.more
  Rule.firstOf [
    do
      sign closing
      return .group true,
    do
      let (first, repeatable) ← g.element
      Rule.orElse
        (do
          Rule.require repeatable
          g.clauses .bracket
          mark Follow.bracket.after closing
          return .other)
        fun _ => do
          let (others, _) ← moreItems .bracket g.element
          mark Follow.bracket.after closing
          return .group (first.isTarget && others.all (·.1.isTarget))]

def pairValue (f : Follow) : PythonRule Unit := do
  mark f.after ":"
  let _ ← g.value .bracket
  return ()

def doubleSplat : PythonRule Unit := do
  sign "**"
  let _ ← g.value .bracket
  return ()

def dictionaryItem : PythonRule Unit :=
  Rule.orElse g.doubleSplat fun _ => do
    let _ ← g.value .nothing
    g.pairValue .nothing

/-- What is between braces: a dictionary, a set, or a comprehension of either. -/
def braced : PythonRule Unit := do
  fetch Follow.bracket.more
  let closing := mark Follow.bracket.after "\x7d"
  Rule.firstOf [
    do
      let _ ← Rule.optional (sign ",")
      closing,
    do
      g.doubleSplat
      let _ ← moreItems .bracket g.dictionaryItem
      closing,
    do
      let (_, repeatable) ← g.element
      let paired ← Rule.accepts (g.pairValue .bracket)
      Rule.orElse (do Rule.require repeatable; g.clauses .bracket; closing) fun _ => do
        let _ ← moreItems .bracket (if paired then g.dictionaryItem else g.element.skip)
        closing]

/-! Calls and subscripts -/

/-- Words that begin an operand of another kind. -/
def operandWords : List String := ["not", "lambda", "True", "False", "None"]

/-- An argument of a call; one given by name is nothing. -/
def argument : PythonRule (Option Expr) :=
  Rule.firstOf [
    do
      sign "**"
      let _ ← g.value .bracket
      return none,
    do
      sign "*"
      let _ ← g.value .bracket
      return some .other,
    do
      let _ ← wordExcept operandWords
      mark Follow.bracket.after "="
      let _ ← g.value .bracket
      return none,
    do
      return some (← g.value .bracket)]

/-- The arguments of a call after the opening bracket, in order. -/
def arguments : PythonRule (List (Option Expr)) := do
  fetch Follow.bracket.more
  let items ← Rule.optional (commaItems .bracket g.argument)
  if items.isNone then Rule.skip (Rule.optional (sign ","))
  mark Follow.bracket.after ")"
  return (items.map Prod.fst).getD []

/-- The first item that has no name. The line being split is one too, and not a literal. -/
def firstArgument (items : List (Bool × Option Expr)) : Argument :=
  match (withSplits (some .other) items).filterMap id with
  | [] => .none
  | e :: _ => e.argument

/-- The arguments of a call, or a generator as the only one; gives the first that has no name. -/
def callArguments : PythonRule Argument := do
  let split ← lineSplit Follow.bracket.more
  fetch Follow.bracket.more
  Rule.orElse
    (do
      let first ← g.argument
      Rule.orElse
        (do
          Rule.require first.isSome
          g.clauses .bracket
          mark Follow.bracket.after ")"
          return firstArgument [(split, first)])
        fun _ => do
          let others ← splitItems Follow.bracket.more g.argument
          mark Follow.bracket.after ")"
          return firstArgument ((split, first) :: others))
    fun _ => do
      let _ ← Rule.optional (sign ",")
      mark Follow.bracket.after ")"
      return .none

def slice : PythonRule Unit := do
  let f := Follow.bracket
  let _ ← Rule.optional (g.value f)
  let _ ← Rule.optional do
    mark f.after ":"
    fetch f.more
    let _ ← Rule.optional (g.value f)
    Rule.skip (Rule.optional do
      mark f.after ":"
      fetch f.more
      Rule.optional (g.value f))
  return ()

/-- An index or a slice, not empty. -/
def index : PythonRule Unit := do
  let start ← Rule.place
  g.slice
  let stop ← Rule.place
  Rule.require (stop.rest.length < start.rest.length)

/-! Operands -/

def atom (f : Follow) : PythonRule Expr :=
  Rule.firstOf [
    do
      let first ← g.stringLiteral
      let others ← Rule.many do
        fetch { f.after with string := true }
        g.stringLiteral
      return .strings (first :: others),
    do
      return .constant (← number),
    do
      sign "..."
      return .other,
    do
      return .constant (← wordIn ["True", "False", "None"]),
    do
      return .name (← wordExcept operandWords),
    do
      sign "("
      g.elements ")",
    do
      sign "["
      g.elements "]",
    do
      sign "\x7b"
      g.braced
      return .other]

/-- An operand with its trailers so far, and whether a star may stand before it. -/
structure Operand where
  expr : Expr
  starred : Bool

def trailer (f : Follow) (o : Operand) : PythonRule Operand := do
  fetch f.after
  Rule.firstOf [
    do
      sign "."
      fetch {}
      return ⟨.member (← word), true⟩,
    do
      sign "["
      let _ ← commaItems .bracket g.index
      mark Follow.bracket.after "]"
      return ⟨.subscript, true⟩,
    do
      sign "("
      let first ← g.callArguments
      let verb := match o.expr with
        | .member name => some name
        | _ => none
      return ⟨.call verb first, o.starred⟩]

def operand (f : Follow) : PythonRule Operand := do
  let e ← g.atom f
  let named := match e with
    | .name _ => true
    | _ => false
  Rule.extend (g.trailer f) ⟨e, named⟩

/-- An operand with its signs in front. -/
def unaryRule (f : Follow) : PythonRule Expr := do
  fetch operandNext
  Rule.firstOf [
    do
      let _ ← signIn ["+", "-", "~"]
      let _ ← g.unary f
      return .other,
    do
      keyword "await"
      fetch f.more
      let _ ← g.unary f
      return .other,
    do
      sign "*"
      fetch {}
      let o ← g.operand f
      Rule.require o.starred
      return .splat o.expr.isPlainTarget,
    do
      return (← g.operand f).expr]

def primaryRule (f : Follow) : PythonRule Expr := do
  let e ← g.unary f
  Rule.extend
    (fun _ => do
      fetch f.after
      let _ ← signIn ["+", "-", "*", "@", "/", "%", "//", "**", "|", "&", "^", "<<", ">>"]
      let _ ← g.unary f
      return .other)
    e

def comparator : PythonRule Unit :=
  Rule.firstOf [
    (signIn ["<", "<=", "==", "!=", ">=", ">", "<>"]).skip,
    keyword "in",
    do
      keyword "not"
      key {} "in",
    do
      keyword "is"
      Rule.skip (Rule.optional (key operandNext "not"))]

def comparison (f : Follow) : PythonRule Expr := do
  let e ← g.primary f
  Rule.extend
    (fun _ => do
      fetch f.after
      comparator
      let _ ← g.primary f
      return .other)
    e

/-! Parameters -/

def starredParameter (typed : Bool) (f : Follow) : PythonRule Parameter := do
  let _ ← signIn ["*", "**"]
  fetch f.after
  let o ← g.operand f
  Rule.require o.expr.isPlainTarget
  let _ ← Rule.optional do
    Rule.require typed
    mark f.after ":"
    g.type f
  return .other

def defaultValue (f : Follow) : PythonRule Unit := do
  mark f.after "="
  let _ ← g.value f
  return ()

/-- A tuple in place of a parameter. -/
def tupleParameter (f : Follow) : PythonRule Parameter := do
  let (e, text) ← withText do
    sign "("
    g.elements ")"
  Rule.require e.isTarget
  let given ← Rule.accepts (g.defaultValue f)
  return if given then .named text else .other

def parameter (typed : Bool) (f : Follow) : PythonRule Parameter :=
  Rule.firstOf [
    g.starredParameter typed f,
    do
      sign "*"
      return .other,
    do
      sign "/"
      return .slash,
    g.tupleParameter f,
    do
      let name ← word
      let _ ← Rule.optional do
        Rule.require typed
        mark f.after ":"
        g.type f
      let _ ← Rule.optional (g.defaultValue f)
      return .named name]

/-- The parameters of a function, in brackets. -/
def parameters : PythonRule (List Parameter) := do
  let f := Follow.bracket
  sign "("
  let split ← lineSplit f.after
  fetch f.after
  let items ← Rule.optional do
    let first ← g.parameter true f
    let others ← splitItems f.after (g.parameter true f)
    return (split, first) :: others
  mark f.after ")"
  return withSplits .other (items.getD [])

def lambda (plain : Bool) (f : Follow) : PythonRule Unit := do
  keyword "lambda"
  let _ ← Rule.optional do
    fetch {}
    let _ ← g.parameter false .nothing
    let _ ← Rule.many do
      mark {} ","
      fetch {}
      g.parameter false .nothing
    Rule.optional (mark {} ",")
  mark {} ":"
  let _ ← g.expression plain f
  return ()

/-! Expressions -/

def unitRule (plain : Bool) (f : Follow) : PythonRule Expr := do
  fetch operandNext
  Rule.firstOf [
    do
      keyword "not"
      let _ ← g.unit plain f
      return .other,
    do
      g.lambda plain f
      return .other,
    do
      let _ ← wordExcept operandWords
      mark f.after ":="
      let _ ← g.expression plain f
      return .other,
    g.comparison f]

def continuation (plain : Bool) (f : Follow) : PythonRule Expr := do
  fetch f.after
  Rule.firstOf [
    do
      let _ ← wordIn ["and", "or"]
      let _ ← g.unit plain f
      return .other,
    do
      Rule.require (!plain)
      keyword "if"
      let _ ← g.value .nothing
      key {} "else"
      let _ ← g.value f
      return .other,
    do
      keyword "as"
      let _ ← g.expression plain f
      return .other]

def expressionRule (plain : Bool) (f : Follow) : PythonRule Expr := do
  let e ← g.unit plain f
  Rule.extend (fun _ => g.continuation plain f) e

/-! Types -/

/-- Types in square brackets. -/
def typeParameters : PythonRule Unit := do
  sign "["
  let _ ← commaItems .bracket (g.type .bracket)
  mark Follow.bracket.after "]"

/-- A name with a star in front. -/
def starredName : PythonRule Unit := do
  let _ ← signIn ["*", "**"]
  fetch {}
  word.skip

/-- A type without a bound: an expression, a starred name, or a name with types that are no
expressions. -/
def plainType (f : Follow) : PythonRule Unit := do
  fetch operandNext
  Rule.firstOf [
    do
      let _ ← g.value f
      Rule.absent (mark f.after "["),
    starredName,
    do
      let _ ← wordExcept operandWords
      fetch f.after
      g.typeParameters]

def typeRule (f : Follow) : PythonRule Unit := do
  g.plainType f
  Rule.skip (Rule.optional (do mark f.after ":"; g.type f))

end Grammar

end ServiceAtlas.Python
