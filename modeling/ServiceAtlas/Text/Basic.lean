/-!
Texts as lists of characters: blanks, what stands at the front, lines, pieces between separators, and
digits.
-/

namespace ServiceAtlas.Text

/-! ### Blanks -/

/-- Whether the character has the Unicode property White_Space. -/
def isBlank (c : Char) : Bool :=
  let n := c.toNat
  (0x09 ≤ n && n ≤ 0x0D) || n == 0x20 || n == 0x85 || n == 0xA0 || n == 0x1680 ||
    (0x2000 ≤ n && n ≤ 0x200A) || n == 0x2028 || n == 0x2029 || n == 0x202F || n == 0x205F ||
    n == 0x3000

def trimStart (cs : List Char) : List Char := cs.dropWhile isBlank

def trimEnd (cs : List Char) : List Char := (cs.reverse.dropWhile isBlank).reverse

def trim (cs : List Char) : List Char := trimEnd (trimStart cs)

/-! ### The front of a text

Each function gives what is left of the text. -/

/-- Steps over a character that passes the test. -/
def afterOne? (p : Char → Bool) : List Char → Option (List Char)
  | c :: cs => if p c then some cs else none
  | [] => none

/-- Steps over a character that passes the test, if there is one. -/
def skipOne (p : Char → Bool) (cs : List Char) : List Char := (afterOne? p cs).getD cs

/-- Of what several matches leave, what the longest leaves. -/
def longestMatch (rests : List (Option (List Char))) : Option (List Char) :=
  rests.foldl (fun best rest =>
    match best, rest with
    | none, rest => rest
    | best, none => best
    | some a, some b => if b.length < a.length then some b else some a) none

/-- Steps over a byte-order mark. -/
def skipMark (cs : List Char) : List Char := skipOne (· == '\uFEFF') cs

/-! ### Lines

A line ends at a newline, and a carriage return right before that newline belongs to the ending; the
text after the last newline is a line only if it is not empty. -/

def dropReturn (line : List Char) : List Char :=
  if line.getLast? = some '\r' then line.dropLast else line

def lines (cs : List Char) : List (List Char) :=
  if cs.isEmpty then []
  else
    match _h : cs.dropWhile (· != '\n') with
    | [] => [cs]
    | _ :: rest => dropReturn (cs.takeWhile (· != '\n')) :: lines rest
termination_by cs.length
decreasing_by
  have hle : (cs.dropWhile (· != '\n')).length ≤ cs.length := (List.dropWhile_sublist _).length_le
  rw [_h, List.length_cons] at hle
  omega

/-- The line of a place is one more than the number of newlines before it. -/
def newlines (cs : List Char) : Nat := cs.count '\n'

/-! ### Pieces and letters -/

/-- Whether `needle` stands somewhere in the text as one piece. -/
def occursIn (needle : List Char) : List Char → Bool
  | [] => needle.isEmpty
  | c :: cs => needle.isPrefixOf (c :: cs) || occursIn needle cs

/-- Whether the first text has the second in it. -/
def contains (hay needle : String) : Bool := occursIn needle.toList hay.toList

/-- The pieces between the separators: always one more piece than there are separators. -/
def splitAtEach {α : Type} [DecidableEq α] (sep : α) : List α → List (List α)
  | [] => [[]]
  | c :: cs =>
    if c = sep then [] :: splitAtEach sep cs
    else
      match splitAtEach sep cs with
      | [] => [[c]]
      | piece :: pieces => (c :: piece) :: pieces

/-- Lowers the letters `A` to `Z`. Of the other letters none has a lower-case form spelt with the
letters `d e g j l n o p r s t u x` alone, so this decides whether a text is one of the words of
verbs, formats and key names in any case. -/
def lower (s : String) : String := String.ofList (s.toList.map Char.toLower)

/-! ### Digits in the bases up to sixteen -/

/-- What a digit counts for; letters of either case go on after nine. -/
def digitValue? (c : Char) : Option Nat :=
  if '0' ≤ c && c ≤ '9' then some (c.toNat - 0x30)
  else if 'a' ≤ c && c ≤ 'f' then some (c.toNat - 0x57)
  else if 'A' ≤ c && c ≤ 'F' then some (c.toNat - 0x37)
  else none

def isDigitIn (base : Nat) (c : Char) : Bool := (digitValue? c).any (· < base)

/-- Whether a text begins with `n` digits. -/
def beginsWithDigits (base n : Nat) (cs : List Char) : Bool :=
  (cs.take n).length == n && (cs.take n).all (isDigitIn base)

/-- The number that digits spell; nothing if one of the characters is no digit. -/
def numberIn? (base : Nat) (cs : List Char) : Option Nat :=
  cs.foldl (fun acc c => do
    let n ← acc
    let d ← digitValue? c
    if d < base then some (n * base + d) else none) (some 0)

/-- The character that `width` hexadecimal digits at the front stand for. Surrogates stand for none. -/
def numberedChar? (width : Nat) (cs : List Char) : Option Char :=
  if (cs.take width).length < width then none
  else do
    let n ← numberIn? 16 (cs.take width)
    if n < 0xD800 || (0xE000 ≤ n && n ≤ 0x10FFFF) then some (Char.ofNat n) else none

end ServiceAtlas.Text
