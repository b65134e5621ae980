import ServiceAtlas.Java.Grammar.Statement
import ServiceAtlas.Path
import ServiceAtlas.Python.Grammar.Statement
import ServiceAtlas.Service.Facts
import ServiceAtlas.Settings.Basic
import ServiceAtlas.Text.Unquote
import ServiceAtlas.Text.Upper
import ServiceAtlas.Text.Utf8

/-!
Facts of a source in either language. A Java method is an endpoint once for each of its annotations that
the rules name; a class is an entity if the text of one of its annotations has a marker in it. A Python
function is an endpoint once for each of its decorators that calls an attribute which the rules name;
a class is an entity if one of its bases is the model base.
-/

namespace ServiceAtlas.Java

variable (source : SourceText)

/-- The value of a literal: its text without quotes, escapes left as they are. -/
def Literal.value : Literal → String
  | .string text => Text.unquote ["\"\"\"", "\""] (source.piece text)
  | .character text => Text.unquote ["'"] (source.piece text)
  | .bare text => source.piece text

/-- The path that an annotation gives: a literal, or several of them joined. -/
def Arguments.path : Arguments → String
  | .literal l => l.value source
  | .array ls => ", ".intercalate (ls.map (Literal.value source))
  | .none => ""
  | .other => ""

def endpointsOf (names : List String) : Located Declaration → List Endpoint
  | ⟨line, .method annotations returnType types⟩ =>
    annotations.filterMap fun a =>
      let name := source.piece a.name
      if name ∈ names then
        some ⟨name, a.arguments.path source, source.piece returnType, types.map source.piece, line⟩
      else none
  | _ => []

def isMarked (markers : List String) (a : Annotation) : Bool :=
  markers.any fun m => Text.contains (source.piece a.text) m

def entitiesOf (markers : List String) : Located Declaration → List Entity
  | ⟨line, .type annotations name⟩ =>
    if annotations.any (isMarked source markers) then [⟨source.piece name, line⟩] else []
  | _ => []

def factsOf (rules : JavaRules) (found : List (Located Declaration)) : Facts where
  endpoints := found.flatMap (endpointsOf source rules.endpointAnnotations)
  entities := found.flatMap (entitiesOf source rules.entityMarkers)

/-- The facts of a source, or nothing if it is not well formed. -/
def facts? (rules : JavaRules) : Option Facts :=
  (outline? source.chars).map (factsOf source rules)

end ServiceAtlas.Java

namespace ServiceAtlas.Python

variable (source : SourceText)

/-- The value of an argument: what a literal is written as, and nothing for anything computed. -/
def Argument.value : Argument → String
  | .strings contents =>
    if contents.all Option.isSome then
      String.join (contents.map fun c => source.piece (c.getD ""))
    else ""
  | .constant text => source.piece text
  | .none => ""
  | .other => ""

/-- The names of the positional parameters: those before the first that is no plain parameter, less
the ones before a slash. -/
def parameterNames (names : List String) : List Parameter → List String
  | [] => names
  | .named name :: rest => parameterNames (names ++ [name]) rest
  | .slash :: rest => parameterNames [] rest
  | .other :: _ => names

/-- No type is known of what a function gives back. -/
def unknownType : String := "unknown"

def endpointsOf (verbs : List String) : Located Declaration → List Endpoint
  | ⟨line, .function decorators parameters⟩ =>
    decorators.filterMap fun
      | .call verb first =>
        let verb := source.piece verb
        if verb ∈ verbs then
          some ⟨Text.upper verb, first.value source, unknownType,
            (parameterNames [] parameters).map source.piece, line⟩
        else none
      | .other => none
  | _ => []

def entitiesOf (base : String) : Located Declaration → List Entity
  | ⟨line, .type name bases⟩ =>
    if bases.any fun b => source.piece b = base then [⟨source.piece name, line⟩] else []
  | _ => []

def factsOf (rules : PythonRules) (found : List (Located Declaration)) : Facts where
  endpoints := found.flatMap (endpointsOf source rules.routeDecorators)
  entities := found.flatMap (entitiesOf source rules.modelBase)

/-- The facts of a source, or nothing if it is not well formed. -/
def facts? (rules : PythonRules) : Option Facts :=
  (outline? source.chars).map (factsOf source rules)

end ServiceAtlas.Python

namespace ServiceAtlas

/-- The source languages whose declarations are read, told apart by file extension. -/
inductive Language where
  | java
  | python
  deriving DecidableEq, Repr

namespace Language

def name : Language → String
  | .java => "java"
  | .python => "python"

def ofPath? (p : Path) : Option Language :=
  match p.extension? with
  | some "java" => some .java
  | some "py" => some .python
  | _ => none

/-- Outbound calls are looked for in Java texts only. -/
def hasCallSites : Language → Bool
  | .java => true
  | .python => false

end Language

/-- Which declarations count, in each language. -/
structure Rules where
  java : JavaRules
  python : PythonRules
  deriving DecidableEq, Repr

def Settings.rules (s : Settings) : Rules := ⟨s.java, s.python⟩

/-- The facts of a source, or nothing if it is not well formed. -/
def extract? (rules : Rules) (language : Language) (source : SourceText) : Option Facts :=
  match language with
  | .java => Java.facts? source rules.java
  | .python => Python.facts? source rules.python

end ServiceAtlas
