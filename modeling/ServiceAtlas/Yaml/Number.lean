import ServiceAtlas.Decimal.Double
import ServiceAtlas.Decimal.Shortest
import ServiceAtlas.Text.Basic

/-!
Numbers as YAML scalars: whole numbers in four bases, and fractions with the shortest text that reads
back.
-/

namespace ServiceAtlas.Yaml

inductive Number where
  | whole (n : Int)
  | fraction (x : Double)
  deriving DecidableEq, Repr

namespace Number

/-- Equality as keys of a mapping: a whole number never equals a fraction. -/
def same : Number → Number → Bool
  | .whole m, .whole n => m == n
  | .fraction x, .fraction y => x.same y
  | _, _ => false

/-- Digits in a base, at least one. -/
def digits? (base : Nat) (cs : List Char) : Option Nat :=
  if cs.isEmpty then none else Text.numberIn? base cs

/-- The bases that are told by the two characters in front of the digits. -/
def bases : List (List Char × Nat) := [(['0', 'x'], 16), (['0', 'o'], 8), (['0', 'b'], 2)]

/-- Zeros in front make a text of digits no number. -/
def isPadded (cs : List Char) : Bool :=
  let ds := if cs.head? = some '-' || cs.head? = some '+' then cs.drop 1 else cs
  1 < ds.length && ds.head? = some '0' && ds.all Char.isDigit

/-- A whole number below a limit, without regard to its sign. -/
def magnitude? (limit : Nat) (cs : List Char) : Option Nat :=
  let other := (bases.lookup (cs.take 2)).bind fun base => digits? base (cs.drop 2)
  let found := other <|> (if isPadded cs then none else digits? 10 cs)
  found.bind fun n => if n < limit then some n else none

/-- Reads a whole number: below `top` without or with a plus sign, down to minus `bottom`. -/
def whole? (top bottom : Nat) (cs : List Char) : Option Int :=
  match cs with
  | '-' :: ds => (magnitude? (bottom + 1) ds).map fun n => -(n : Int)
  | '+' :: ds => (magnitude? top ds).map fun n => (n : Int)
  | ds => (magnitude? top ds).map fun n => (n : Int)

/-- What a plain text says as a whole number. Numbers of up to 128 bits are recognised, but only those
of 64 bits can be held. -/
inductive Reading where
  | number (n : Int)
  | tooLarge
  | noNumber
  deriving DecidableEq, Repr

def reading (cs : List Char) : Reading :=
  match whole? (Nat.pow 2 64) (Nat.pow 2 63) cs with
  | some n => .number n
  | none => if (whole? (Nat.pow 2 128) (Nat.pow 2 127) cs).isSome then .tooLarge else .noNumber

/-- Reads a fraction; one too large to be held is none. -/
def fraction? (cs : List Char) : Option Double :=
  let signless := if cs.head? = some '+' then cs.drop 1 else cs
  if cs.head? = some '+' && (signless.head? = some '+' || signless.head? = some '-') then none
  else if [".inf", ".Inf", ".INF"].contains (String.ofList signless) then some (.infinite false)
  else if ["-.inf", "-.Inf", "-.INF"].contains (String.ofList cs) then some (.infinite true)
  else if [".nan", ".NaN", ".NAN"].contains (String.ofList cs) then some .nan
  else
    match (Decimal.read? signless).map Double.ofDecimal with
    | some (.finite s m e) => some (.finite s m e)
    | _ => none

private def zeros (n : Nat) : List Char := List.replicate n '0'

/-- Positional notation below 10^16 and from 10^-5, else an exponent; a whole value keeps `.0`. -/
def positional (digits : List Char) (exponent : Int) : List Char :=
  let point : Int := digits.length + exponent
  if 0 ≤ exponent && point ≤ 16 then digits ++ zeros exponent.toNat ++ ['.', '0']
  else if 0 < point && point ≤ 16 then
    digits.take point.toNat ++ '.' :: digits.drop point.toNat
  else if -5 < point && point ≤ 0 then ['0', '.'] ++ zeros (-point).toNat ++ digits
  else
    let mark := 'e' :: (toString (point - 1)).toList
    match digits with
    | d :: e :: ds => d :: '.' :: e :: ds ++ mark
    | ds => ds ++ mark

def text : Number → String
  | .whole n => toString n
  | .fraction .nan => ".nan"
  | .fraction (.infinite negative) => if negative then "-.inf" else ".inf"
  | .fraction (.finite negative m e) =>
    let body :=
      if m = 0 then "0.0".toList
      else let (n, k) := Shortest.digits m e; positional (Nat.toDigits 10 n) k
    String.ofList (if negative then '-' :: body else body)

end Number

end ServiceAtlas.Yaml
