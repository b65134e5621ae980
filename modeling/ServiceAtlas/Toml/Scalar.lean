import ServiceAtlas.Decimal.Double
import ServiceAtlas.Text.Basic
import ServiceAtlas.Toml.Value

/-!
Numbers, dates and times of TOML. Each reader gives what it found and what is left of the text.
-/

namespace ServiceAtlas.Toml

/-- A text is read from its front. -/
abbrev Reader (α : Type) := List Char → Option (α × List Char)

/-- Exactly `n` digits, as a number. -/
def digits? (n : Nat) : Reader Nat := fun cs =>
  if (cs.take n).length < n then none
  else (Text.numberIn? 10 (cs.take n)).map fun m => (m, cs.drop n)

/-- A number of exactly two digits from a range. -/
def twoDigits? (low high : Nat) : Reader Nat := fun cs => do
  let (n, cs) ← digits? 2 cs
  if low ≤ n && n ≤ high then some (n, cs) else none

def char? (c : Char) : Reader Unit
  | d :: cs => if d = c then some ((), cs) else none
  | [] => none

/-! Dates and times -/

def daysIn (year month : Nat) : Nat :=
  if month = 2 then
    if year % 4 = 0 && (year % 100 ≠ 0 || year % 400 = 0) then 29 else 28
  else if [4, 6, 9, 11].contains month then 30
  else 31

def date? : Reader Unit := fun cs => do
  let (year, cs) ← digits? 4 cs
  let (_, cs) ← char? '-' cs
  let (month, cs) ← twoDigits? 1 12 cs
  let (_, cs) ← char? '-' cs
  let (_, cs) ← twoDigits? 1 (daysIn year month) cs
  return ((), cs)

/-- The part of a second, if there is one. -/
private def secondPart : List Char → List Char
  | '.' :: d :: cs => if d.isDigit then cs.dropWhile Char.isDigit else '.' :: d :: cs
  | cs => cs

def time? : Reader Unit := fun cs => do
  let (_, cs) ← twoDigits? 0 23 cs
  let (_, cs) ← char? ':' cs
  let (_, cs) ← twoDigits? 0 59 cs
  let (_, cs) ← char? ':' cs
  let (_, cs) ← twoDigits? 0 60 cs
  return ((), secondPart cs)

/-- The distance from world time, if there is one. -/
def offset (cs : List Char) : List Char :=
  match cs with
  | 'Z' :: rest => rest
  | 'z' :: rest => rest
  | c :: rest =>
    if c = '+' || c = '-' then
      match (do
        let (_, rest) ← twoDigits? 0 23 rest
        let (_, rest) ← char? ':' rest
        twoDigits? 0 59 rest : Option (Nat × List Char)) with
      | some (_, rest) => rest
      | none => cs
    else cs
  | [] => []

private def dayTime? : Reader Unit
  | c :: cs => if c = 'T' || c = 't' || c = ' ' then time? cs else none
  | [] => none

/-- A date with or without a time, or a time. -/
def dateTime? : Reader Value := fun cs =>
  match date? cs with
  | some (_, rest) =>
    match dayTime? rest with
    | some (_, rest) => some (.dateTime, offset rest)
    | none => some (.dateTime, rest)
  | none => (time? cs).map fun (_, rest) => (.dateTime, rest)

/-! Numbers -/

/-- Digits with single underscores between them; gives the digits alone. -/
def spacedDigits (base : Nat) : List Char → List Char × List Char
  | '_' :: d :: cs =>
    if Text.isDigitIn base d then let (ds, rest) := spacedDigits base cs; (d :: ds, rest)
    else ([], '_' :: d :: cs)
  | d :: cs =>
    if Text.isDigitIn base d then let (ds, rest) := spacedDigits base cs; (d :: ds, rest)
    else ([], d :: cs)
  | [] => ([], [])

/-- At least one digit, the first one not after an underscore. -/
def someDigits? (base : Nat) : Reader (List Char)
  | [] => none
  | d :: cs =>
    if Text.isDigitIn base d then let (ds, rest) := spacedDigits base cs; some (d :: ds, rest) else none

private def sign : List Char → List Char × List Char
  | '+' :: cs => (['+'], cs)
  | '-' :: cs => (['-'], cs)
  | cs => ([], cs)

/-- A decimal whole number without zeros in front: its sign and digits. -/
def decimal? : Reader (List Char × List Char) := fun cs =>
  let (s, cs) := sign cs
  match cs with
  | '0' :: rest => some ((s, ['0']), rest)
  | _ => (someDigits? 10 cs).map fun (ds, rest) => ((s, ds), rest)

private def fractionPart? : Reader (List Char)
  | '.' :: cs => (someDigits? 10 cs).map fun (ds, rest) => ('.' :: ds, rest)
  | _ => none

private def exponentPart? : Reader (List Char)
  | c :: cs =>
    if c = 'e' || c = 'E' then
      let (s, cs) := sign cs
      (someDigits? 10 cs).map fun (ds, rest) => ('e' :: s ++ ds, rest)
    else none
  | [] => none

/-- A number with a fraction, an exponent or both. One too large above zero is refused. -/
def plainFloat? : Reader Value := fun cs => do
  let ((s, whole), cs) ← decimal? cs
  let (part, cs) := (fractionPart? cs).getD ([], cs)
  let (power, cs) := (exponentPart? cs).getD ([], cs)
  if part.isEmpty && power.isEmpty then none
  let x ← Decimal.read? (s ++ whole ++ part ++ power)
  if Double.ofDecimal x = .infinite false then none else some (.float, cs)

def specialFloat? : Reader Value := fun cs =>
  let (_, cs) := sign cs
  if cs.take 3 = ['i', 'n', 'f'] || cs.take 3 = ['n', 'a', 'n'] then some (.float, cs.drop 3) else none

private def held? (n : Int) : Option Value :=
  if -0x8000000000000000 ≤ n && n < 0x8000000000000000 then some (.integer n) else none

private def basedInteger? (base : Nat) : Reader Value := fun cs => do
  let (ds, cs) ← someDigits? base cs
  let n ← Text.numberIn? base ds
  return (← held? n, cs)

/-- A whole number of 64 bits, in one of four bases. -/
def integer? : Reader Value
  | '0' :: 'x' :: cs => basedInteger? 16 cs
  | '0' :: 'o' :: cs => basedInteger? 8 cs
  | '0' :: 'b' :: cs => basedInteger? 2 cs
  | cs => do
    let ((s, ds), cs) ← decimal? cs
    let n ← Text.numberIn? 10 ds
    return (← held? (if s = ['-'] then -n else n), cs)

def number? : Reader Value := fun cs =>
  dateTime? cs <|> plainFloat? cs <|> specialFloat? cs <|> integer? cs

/-- The words for truth and falsehood. -/
def bool? : Reader Value := fun cs =>
  if cs.take 4 = "true".toList then some (.bool true, cs.drop 4)
  else if cs.take 5 = "false".toList then some (.bool false, cs.drop 5)
  else none

end ServiceAtlas.Toml
