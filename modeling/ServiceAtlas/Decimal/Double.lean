/-!
Binary fractions of 53 digits, and the one that is nearest to a decimal. All arithmetic is exact.
-/

namespace ServiceAtlas

/-- A decimal fraction: digits times a power of ten, with a sign of its own so that there are two
zeros. -/
structure Decimal where
  negative : Bool
  digits : Nat
  exponent : Int
  deriving DecidableEq, Repr

namespace Decimal

private def number (ds : List Char) : Nat := ds.foldl (fun n d => n * 10 + (d.toNat - 0x30)) 0

def sign : List Char → Bool × List Char
  | '-' :: cs => (true, cs)
  | '+' :: cs => (false, cs)
  | cs => (false, cs)

/-- What follows the digits: nothing, or `e` and a whole number. -/
private def exponent? : List Char → Option Int
  | [] => some 0
  | c :: cs =>
    if c = 'e' || c = 'E' then
      let (negative, ds) := sign cs
      if ds.isEmpty || !ds.all Char.isDigit then none
      else some (if negative then -(number ds : Int) else number ds)
    else none

/-- Reads a decimal: a sign, digits with at most one point among or around them, and an exponent. -/
def read? (cs : List Char) : Option Decimal :=
  let (negative, cs) := sign cs
  let whole := cs.takeWhile Char.isDigit
  let rest := cs.drop whole.length
  let (part, rest) :=
    match rest with
    | '.' :: rest => (rest.takeWhile Char.isDigit, rest.dropWhile Char.isDigit)
    | rest => ([], rest)
  if whole.isEmpty && part.isEmpty then none
  else (exponent? rest).map fun e => ⟨negative, number (whole ++ part), e - part.length⟩

end Decimal

/-- A number of double precision: `mantissa` times two to the power `exponent`, where the mantissa is
below 2^53, and at least 2^52 unless the exponent is the least one, -1074. -/
inductive Double where
  | finite (negative : Bool) (mantissa : Nat) (exponent : Int)
  | infinite (negative : Bool)
  | nan
  deriving DecidableEq, Repr

namespace Double

/-- A quotient rounded to the nearest whole number, a half to the even one. -/
def roundDiv (n d : Nat) : Nat :=
  let quotient := n / d
  let twice := 2 * (n % d)
  if twice < d || (twice = d && quotient % 2 = 0) then quotient else quotient + 1

/-- The quotient `n / d` times two to the power `-k`, as a fraction. -/
private def shifted (n d : Nat) (k : Int) : Nat × Nat :=
  if 0 ≤ k then (n, d * Nat.pow 2 k.toNat) else (n * Nat.pow 2 (-k).toNat, d)

/-- The greatest power of two that is at most `n / d`. -/
def binaryOrder (n d : Nat) : Int :=
  let k : Int := (n.log2 : Int) - d.log2
  let (a, b) := shifted n d k
  if b ≤ a then k else k - 1

/-- The double nearest to a positive fraction, of two equally near the even one. -/
def ofFraction (negative : Bool) (n d : Nat) : Double :=
  let exponent := max (binaryOrder n d - 52) (-1074)
  let (a, b) := shifted n d exponent
  let mantissa := roundDiv a b
  let (mantissa, exponent) :=
    if mantissa = Nat.pow 2 53 then (Nat.pow 2 52, exponent + 1) else (mantissa, exponent)
  if 971 < exponent then .infinite negative else .finite negative mantissa exponent

/-- The double nearest to a decimal. Where the powers of ten alone decide, they are not computed. -/
def ofDecimal (x : Decimal) : Double :=
  let size : Int := (Nat.toDigits 10 x.digits).length + x.exponent
  if x.digits = 0 || size < -400 then .finite x.negative 0 (-1074)
  else if 400 < size then .infinite x.negative
  else if 0 ≤ x.exponent then ofFraction x.negative (x.digits * Nat.pow 10 x.exponent.toNat) 1
  else ofFraction x.negative x.digits (Nat.pow 10 (-x.exponent).toNat)

/-- Equality as numbers: both zeros are equal, and so is not-a-number to itself. -/
def same : Double → Double → Bool
  | .finite s m e, .finite s' m' e' => m == m' && e == e' && (s == s' || m == 0)
  | x, y => x == y

end Double

end ServiceAtlas
