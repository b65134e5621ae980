import ServiceAtlas.Service.Name
import ServiceAtlas.Text.Basic
import ServiceAtlas.Text.Fold
import ServiceAtlas.Url.Table

/-!
Outbound calls in a source text, found without parsing it: a dot, a verb in any case, blanks, and
round brackets that close on the line on which they open. Calls do not overlap and are found from left
to right; each reaches to the last closing bracket of its line.
-/

namespace ServiceAtlas

/-- A call: how many characters stand before it, its line, the verb as written and its whole text. -/
structure CallSite where
  start : Nat
  line : Nat
  verb : String
  matched : String
  deriving DecidableEq, Repr

namespace CallSite

/-- What follows the verb in the text, if the text begins with it up to case. -/
def afterVerb? : (verb text : List Char) → Option (List Char)
  | [], text => some text
  | _ :: _, [] => none
  | v :: verb, c :: text => if Text.fold v = Text.fold c then afterVerb? verb text else none

/-- The longest front of a line that ends in a closing bracket. -/
def upToLastBracket (line : List Char) : List Char :=
  (line.reverse.dropWhile (· != ')')).reverse

/-- The length of blanks, an opening bracket and arguments up to the last closing bracket of the
line. -/
def argumentsLength? (text : List Char) : Option Nat :=
  match text.dropWhile Text.isBlank with
  | '(' :: rest =>
    let inside := upToLastBracket (rest.takeWhile (· != '\n'))
    if inside.isEmpty then none
    else some ((text.takeWhile Text.isBlank).length + 1 + inside.length)
  | _ => none

/-- The lengths of the verb and of all that follows the dot, for the first verb that makes a call. -/
def lengths? (text : List Char) : List (List Char) → Option (Nat × Nat)
  | [] => none
  | verb :: verbs =>
    match (afterVerb? verb text).bind argumentsLength? with
    | some n => some (verb.length, verb.length + n)
    | none => lengths? text verbs

/-- The calls in `text`, of which `start` characters and `line` lines precede. -/
def findFrom (verbs : List (List Char)) (start line : Nat) (text : List Char) : List CallSite :=
  match text with
  | [] => []
  | c :: rest =>
    match if c = '.' then lengths? rest verbs else none with
    | some (v, n) =>
      ⟨start, line, String.ofList (rest.take v), String.ofList (c :: rest.take n)⟩ ::
        findFrom verbs (start + 1 + n) (line + Text.newlines (rest.take n)) (rest.drop n)
    | none => findFrom verbs (start + 1) (if c = '\n' then line + 1 else line) rest
termination_by text.length

def find (verbs : List String) (text : List Char) : List CallSite :=
  findFrom (verbs.map String.toList) 0 1 text

end CallSite

/-- The service that a text calls: the first known URL in it tells. -/
def calleeOf (urls : UrlTable) (text : List Char) : String :=
  (urls.resolve? text).getD Service.unknownName

end ServiceAtlas
