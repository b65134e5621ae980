/-!
The shortest decimal that reads back as a given binary fraction. A decimal reads back if it lies
between the midpoints to the two neighbours; a midpoint itself does if the mantissa is even. For one
digit, then two, and so on, the two decimals around the value are tried.
-/

namespace ServiceAtlas.Shortest

/-- The value and the two midpoints around it, all over one denominator. -/
structure Interval where
  low : Nat
  value : Nat
  high : Nat
  denominator : Nat
  closed : Bool

/-- Below a power of two the neighbour is half as far. -/
def interval (mantissa : Nat) (exponent : Int) : Interval :=
  let near := mantissa = Nat.pow 2 52 && -1074 < exponent
  let up := Nat.pow 2 exponent.toNat
  { low := (4 * mantissa - if near then 1 else 2) * up
    value := 4 * mantissa * up
    high := (4 * mantissa + 2) * up
    denominator := 4 * Nat.pow 2 (-exponent).toNat
    closed := mantissa % 2 = 0 }

def Interval.contains (i : Interval) (n d : Nat) : Bool :=
  let (low, x, high) := (i.low * d, n * i.denominator, i.high * d)
  if i.closed then low ≤ x && x ≤ high else low < x && x < high

/-- Ten to a whole power, as a fraction. -/
def tenTo (k : Int) : Nat × Nat := (Nat.pow 10 k.toNat, Nat.pow 10 (-k).toNat)

/-- The power of ten of the leading digit of `n / d`. -/
def decimalOrder (n d : Nat) : Int :=
  let k : Int := (Nat.toDigits 10 n).length - (Nat.toDigits 10 d).length
  let (a, b) := tenTo k
  if d * a ≤ n * b then k else k - 1

/-- Of the two multiples of ten to the power `k` around the value, the one that reads back; of both,
the nearer, and of two equally near, the even one. -/
def candidate? (i : Interval) (k : Int) : Option Nat :=
  let (a, b) := tenTo k
  let below := i.value * b / (i.denominator * a)
  let above := below + 1
  let left := i.value * b - below * i.denominator * a
  let right := above * i.denominator * a - i.value * b
  match i.contains (below * a) b, i.contains (above * a) b with
  | true, true =>
    some (if left < right || (left = right && below % 2 = 0) then below else above)
  | true, false => some below
  | false, true => some above
  | false, false => none

/-- Drops the zeros at the end of a number of at most `fuel` digits, and counts them. -/
def dropZeros : Nat → Nat → Nat × Nat
  | 0, n => (n, 0)
  | fuel + 1, n =>
    if n % 10 = 0 && n ≠ 0 then let (m, k) := dropZeros fuel (n / 10); (m, k + 1) else (n, 0)

def search (i : Interval) (order : Int) : (tried left : Nat) → Nat × Int
  | _, 0 => (0, 0)
  | tried, left + 1 =>
    let k := order - tried
    match candidate? i k with
    | some n => let (m, zeros) := dropZeros 18 n; (m, k + zeros)
    | none => search i order (tried + 1) left

/-- Digits and exponent of the shortest decimal, without zeros at the end. Seventeen digits always
suffice. -/
def digits (mantissa : Nat) (exponent : Int) : Nat × Int :=
  if mantissa = 0 then (0, 0)
  else
    let i := interval mantissa exponent
    search i (decimalOrder i.value i.denominator) 0 18

end ServiceAtlas.Shortest
