import ServiceAtlas.Command.Run
import ServiceAtlas.Proofs.Scanner

/-!
JSON texts read. The reader (`Json.read?`) knows the whole grammar of texts, lists and objects, with
blanks anywhere and all escapes, and keeps the members of objects in order; of numbers it knows those
without sign, fraction and exponent, and it refuses the words for truth values and for nothing, which
no `Json` stands for. What is printed reads back as what it was (`Json.read?_document`).
-/

namespace ServiceAtlas

/-- Things that are read back one by one are read back together. -/
theorem mapM_map_eq_some {α β γ : Type} (write : α → β) (read : β → Option γ) (value : α → γ)
    (h : ∀ a, read (write a) = some (value a)) (as : List α) :
    (as.map write).mapM read = some (as.map value) := by
  induction as with
  | nil => rfl
  | cons a as ih => simp [h a, ih]

namespace Json

/-! ### Tokens -/

inductive Token where
  | text (s : String)
  | count (n : Nat)
  | sign (c : Char)
  deriving DecidableEq, Repr

/-- Where a scanner of JSON stands: between tokens, in a number, or in a text of which it has the
front. In a text it may be right behind a backslash, in the digits of a UTF-16 unit, or between the
two units of a character, the second of which is still to be announced. -/
inductive Mode where
  | between
  | number (digits : List Char)
  | text (front : List Char)
  | escape (front : List Char)
  | unit (front : List Char) (high : Option Nat) (digits : List Char)
  | announce (front : List Char) (high : Nat) (expected : List Char)
  deriving DecidableEq, Repr

def isSpace (c : Char) : Bool := c == ' ' || c == '\n' || c == '\r' || c == '\t'

def isSign (c : Char) : Bool := ['[', ']', '{', '}', ':', ','].contains c

/-- What a character does that stands in no token yet. -/
def opened (c : Char) : Option (List Token × Mode) :=
  if c.isDigit then some ([], .number [c])
  else if c = '"' then some ([], .text [])
  else if isSpace c then some ([], .between)
  else if isSign c then some ([.sign c], .between)
  else none

/-- Numbers do not begin with a zero, zero itself apart. -/
def number? (digits : List Char) : Option Token :=
  if digits.length = 1 ∨ digits.head? ≠ some '0' then some (.count (Nat.ofDigitChars 10 digits 0))
  else none

/-- What a letter behind a backslash stands for. -/
def unescape? : Char → Option Char
  | '"' => some '"'
  | '\\' => some '\\'
  | '/' => some '/'
  | 'b' => some '\x08'
  | 'f' => some '\x0c'
  | 'n' => some '\n'
  | 'r' => some '\r'
  | 't' => some '\t'
  | _ => none

/-- Adds a UTF-16 unit to a text. The first half of a character has to be followed by the second. -/
def joinUnit (front : List Char) (high : Option Nat) (u : Nat) : Option Mode :=
  let isHigh := 0xD800 ≤ u && u ≤ 0xDBFF
  let isLow := 0xDC00 ≤ u && u ≤ 0xDFFF
  match high with
  | none =>
    if isHigh then some (.announce front u ['\\', 'u'])
    else if isLow then none
    else some (.text (front ++ [Char.ofNat u]))
  | some h =>
    if isLow then some (.text (front ++ [Char.ofNat (0x10000 + (h - 0xD800) * 0x400 + (u - 0xDC00))]))
    else none

def Mode.next : Mode → Char → Option (List Token × Mode)
  | .between, c => opened c
  | .number digits, c =>
    if c.isDigit then some ([], .number (digits ++ [c]))
    else (number? digits).bind fun t => (opened c).map fun r => (t :: r.1, r.2)
  | .text front, c =>
    if c = '"' then some ([.text (String.ofList front)], .between)
    else if c = '\\' then some ([], .escape front)
    else if c.toNat < 0x20 then none
    else some ([], .text (front ++ [c]))
  | .escape front, c =>
    if c = 'u' then some ([], .unit front none [])
    else (unescape? c).map fun d => ([], .text (front ++ [d]))
  | .unit front high digits, c =>
    if digits.length < 3 then some ([], .unit front high (digits ++ [c]))
    else (Text.numberIn? 16 (digits ++ [c])).bind fun u => (joinUnit front high u).map ([], ·)
  | .announce front high expected, c =>
    match expected with
    | [d] => if c = d then some ([], .unit front (some high) []) else none
    | d :: expected => if c = d then some ([], .announce front high expected) else none
    | [] => none

def Mode.finish : Mode → Option (List Token)
  | .between => some []
  | .number digits => (number? digits).map ([·])
  | _ => none

def scanner : Scanner Mode Token := ⟨.between, Mode.next, Mode.finish⟩

/-! ### Values -/

mutual

/-- A value at the front of the tokens, and the tokens behind it. No value needs more steps than there
are tokens. -/
def value? : Nat → List Token → Option (Json × List Token)
  | _, .text s :: rest => some (.text s, rest)
  | _, .count n :: rest => some (.count n, rest)
  | _, .sign '[' :: .sign ']' :: rest => some (.list [], rest)
  | steps + 1, .sign '[' :: rest =>
    (value? steps rest).bind fun (x, rest) =>
      (moreItems? steps rest).map fun (xs, rest) => (.list (x :: xs), rest)
  | _, .sign '{' :: .sign '}' :: rest => some (.object [], rest)
  | steps + 1, .sign '{' :: .text k :: .sign ':' :: rest =>
    (value? steps rest).bind fun (v, rest) =>
      (moreMembers? steps rest).map fun (ms, rest) => (.object ((k, v) :: ms), rest)
  | _, _ => none

/-- The items of a list behind its first one, and the end of the list. -/
def moreItems? : Nat → List Token → Option (List Json × List Token)
  | _, .sign ']' :: rest => some ([], rest)
  | steps + 1, .sign ',' :: rest =>
    (value? steps rest).bind fun (x, rest) =>
      (moreItems? steps rest).map fun (xs, rest) => (x :: xs, rest)
  | _, _ => none

/-- The members of an object behind its first one, and the end of the object. -/
def moreMembers? : Nat → List Token → Option (List (String × Json) × List Token)
  | _, .sign '}' :: rest => some ([], rest)
  | steps + 1, .sign ',' :: .text k :: .sign ':' :: rest =>
    (value? steps rest).bind fun (v, rest) =>
      (moreMembers? steps rest).map fun (ms, rest) => ((k, v) :: ms, rest)
  | _, _ => none

end

/-- The value that a JSON text stands for. -/
def read? (text : String) : Option Json :=
  (scanner.tokens? text).bind fun ts =>
    match value? ts.length ts with
    | some (v, []) => some v
    | _ => none

/-! ### Printed tokens -/

theorem head?_toDigits_ne_zero {n : Nat} (h : 0 < n) : (Nat.toDigits 10 n).head? ≠ some '0' := by
  induction n using Nat.strongRecOn with
  | ind n ih =>
    by_cases hn : n < 10
    · rw [Nat.toDigits_of_lt_base hn, List.head?_cons, Ne, Option.some.injEq, Nat.digitChar_eq_zero]
      exact Nat.pos_iff_ne_zero.1 h
    · have hdiv : 0 < n / 10 := by omega
      have hfirst : (Nat.toDigits 10 (n / 10)).head?.isSome := List.isSome_head?.2 Nat.toDigits_ne_nil
      obtain ⟨c, hc⟩ := Option.isSome_iff_exists.1 hfirst
      have hne := ih (n / 10) (by omega) hdiv
      rw [Nat.toDigits_of_base_le (by decide) (Nat.not_lt.1 hn), List.head?_append, hc]
      rwa [hc] at hne

theorem number?_toDigits (n : Nat) : number? (Nat.toDigits 10 n) = some (.count n) := by
  have hshape : (Nat.toDigits 10 n).length = 1 ∨ (Nat.toDigits 10 n).head? ≠ some '0' := by
    rcases Nat.eq_zero_or_pos n with rfl | hn
    · exact .inl rfl
    · exact .inr (head?_toDigits_ne_zero hn)
  rw [number?, if_pos hshape, Nat.ofDigitChars_ten_toDigits]

theorem run_toDigits (n : Nat) :
    scanner.run .between (Nat.toDigits 10 n) = some ([], .number (Nat.toDigits 10 n)) :=
  Scanner.run_chars Mode.number (fun _ hc => if_pos hc) (fun _ _ hc => if_pos hc)
    Nat.toDigits_ne_nil fun _ hc => Nat.isDigit_of_mem_toDigits (by decide) (by decide) hc

theorem numberIn?_control {n : Nat} (h : n < 0x20) :
    Text.numberIn? 16 ['0', '0', Nat.digitChar (n / 16), Nat.digitChar (n % 16)] = some n := by
  revert n
  decide

theorem joinUnit_control {c : Char} (h : c.toNat < 0x20) (front : List Char) :
    joinUnit front none c.toNat = some (.text (front ++ [c])) := by
  have hhigh : (decide (0xD800 ≤ c.toNat) && decide (c.toNat ≤ 0xDBFF)) = false := by
    rw [decide_eq_false (by omega), Bool.false_and]
  have hlow : (decide (0xDC00 ≤ c.toNat) && decide (c.toNat ≤ 0xDFFF)) = false := by
    rw [decide_eq_false (by omega), Bool.false_and]
  rw [joinUnit, hhigh, hlow, Char.ofNat_toNat]
  rfl

/-- A character is read back from the way in which it is written. -/
theorem run_escape (front : List Char) (c : Char) :
    scanner.run (.text front) (escape c) = some ([], .text (front ++ [c])) := by
  unfold escape
  split
  case h_8 hquote hbackslash _ _ _ _ _ =>
    split
    case isTrue hcontrol =>
      have hlast : scanner.next (.unit front none ['0', '0', Nat.digitChar (c.toNat / 16)])
          (Nat.digitChar (c.toNat % 16)) = some ([], .text (front ++ [c])) := by
        change (Text.numberIn? 16 _).bind _ = _
        rw [List.cons_append, List.cons_append, List.cons_append, List.nil_append,
          numberIn?_control hcontrol, Option.bind_some, joinUnit_control hcontrol]
        rfl
      have hdigits : scanner.run (.text front)
          ['\\', 'u', '0', '0', Nat.digitChar (c.toNat / 16)] =
            some ([], .unit front none ['0', '0', Nat.digitChar (c.toNat / 16)]) := rfl
      exact Scanner.run_append hdigits (Scanner.run_cons hlast rfl)
    case isFalse hplain =>
      have hnext : scanner.next (.text front) c = some ([], .text (front ++ [c])) := by
        change ite _ _ _ = _
        rw [if_neg hquote, if_neg hbackslash, if_neg hplain]
      exact Scanner.run_cons hnext rfl
  all_goals rfl

theorem run_quote (s : String) : scanner.run .between (quote s) = some ([.text s], .between) := by
  have hopen : scanner.next .between '"' = some ([], .text []) := rfl
  have hinside : scanner.run (.text []) (s.toList.flatMap escape) = some ([], .text s.toList) :=
    Scanner.run_flatMap escape Mode.text (fun front c _ => run_escape front c) []
  have hclose : scanner.run (.text s.toList) ['"'] =
      some ([.text (String.ofList s.toList)], .between) := rfl
  rw [String.ofList_toList] at hclose
  exact Scanner.run_cons hopen (Scanner.run_append hinside hclose)

theorem run_indent (depth : Nat) : scanner.run .between (indent depth) = some ([], .between) := by
  have hblank : scanner.next .between ' ' = some ([], .between) := rfl
  have hnewline : scanner.next .between '\n' = some ([], .between) := rfl
  have hblanks (n : Nat) : scanner.run .between (List.replicate n ' ') = some ([], .between) := by
    induction n with
    | zero => rfl
    | succ n ih => exact Scanner.run_cons hblank ih
  exact Scanner.run_cons hnewline (hblanks (2 * depth))

mutual

/-- The tokens of a value. -/
def tokens : Json → List Token
  | .text s => [.text s]
  | .count n => [.count n]
  | .list [] => [.sign '[', .sign ']']
  | .list (x :: xs) => .sign '[' :: (tokens x ++ (itemTokens xs ++ [.sign ']']))
  | .object [] => [.sign '{', .sign '}']
  | .object ((k, v) :: ms) =>
    .sign '{' :: .text k :: .sign ':' :: (tokens v ++ (memberTokens ms ++ [.sign '}']))

def itemTokens : List Json → List Token
  | [] => []
  | x :: xs => .sign ',' :: (tokens x ++ itemTokens xs)

def memberTokens : List (String × Json) → List Token
  | [] => []
  | (k, v) :: ms => .sign ',' :: .text k :: .sign ':' :: (tokens v ++ memberTokens ms)

end

/-- Whether a number ends where a text begins. -/
def endsNumber (cs : List Char) : Bool := cs.head?.any fun c => !c.isDigit

theorem endsNumber_prettyItems (depth : Nat) (xs : List Json) (cs : List Char) :
    endsNumber (prettyItems depth xs ++ (indent depth ++ cs)) = true := by
  cases xs with
  | nil => rfl
  | cons x xs => rfl

theorem endsNumber_prettyMembers (depth : Nat) (ms : List (String × Json)) (cs : List Char) :
    endsNumber (prettyMembers depth ms ++ (indent depth ++ cs)) = true := by
  cases ms with
  | nil => rfl
  | cons m ms => rfl

section

variable {rest : List Char} {us : List Token} {m : Mode}

theorem run_sign {c : Char} (hc : scanner.next .between c = some ([.sign c], .between))
    (h : scanner.run .between rest = some (us, m)) :
    scanner.run .between (c :: rest) = some (.sign c :: us, m) := Scanner.run_cons hc h

theorem run_number (n : Nat) (hrest : endsNumber rest = true)
    (h : scanner.run .between rest = some (us, m)) :
    scanner.run .between (Nat.toDigits 10 n ++ rest) = some (.count n :: us, m) := by
  refine Scanner.run_completed (run_toDigits n) (fun c r hc hopened => ?_) hrest h
  change ite _ _ _ = _
  rw [if_neg (Bool.eq_false_iff.1 hc), number?_toDigits, Option.bind_some,
    show opened c = some r from hopened]
  rfl

theorem run_key (depth : Nat) (k : String) (h : scanner.run .between rest = some (us, m)) :
    scanner.run .between (indent depth ++ (quote k ++ ':' :: ' ' :: rest)) =
      some (.text k :: .sign ':' :: us, m) := by
  have hblank : scanner.next .between ' ' = some ([], .between) := rfl
  exact Scanner.run_append (run_indent depth) (Scanner.run_append (run_quote k)
    (run_sign rfl (Scanner.run_cons hblank h)))

end

mutual

/-- A printed value is scanned as its tokens. What stands behind it matters to numbers, which have no
end of their own. -/
theorem run_pretty (depth : Nat) (v : Json) {rest : List Char} {us : List Token} {m : Mode}
    (hrest : endsNumber rest = true) (h : scanner.run .between rest = some (us, m)) :
    scanner.run .between (prettyChars depth v ++ rest) = some (tokens v ++ us, m) := by
  match v with
  | .text s => exact Scanner.run_append (run_quote s) h
  | .count n => exact run_number n hrest h
  | .list [] => exact run_sign rfl (run_sign rfl h)
  | .list (x :: xs) =>
    have hitems := run_prettyItems depth xs (run_sign (c := ']') rfl h)
    have hfirst := run_pretty (depth + 1) x (endsNumber_prettyItems depth xs _) hitems
    have hall := run_sign (c := '[') rfl (Scanner.run_append (run_indent (depth + 1)) hfirst)
    simpa [prettyChars, tokens] using hall
  | .object [] => exact run_sign rfl (run_sign rfl h)
  | .object ((k, x) :: ms) =>
    have hmembers := run_prettyMembers depth ms (run_sign (c := '}') rfl h)
    have hfirst := run_pretty (depth + 1) x (endsNumber_prettyMembers depth ms _) hmembers
    have hall := run_sign (c := '{') rfl (run_key (depth + 1) k hfirst)
    simpa [prettyChars, tokens] using hall

theorem run_prettyItems (depth : Nat) (xs : List Json) {rest : List Char} {us : List Token}
    {m : Mode} (h : scanner.run .between rest = some (us, m)) :
    scanner.run .between (prettyItems depth xs ++ (indent depth ++ rest)) =
      some (itemTokens xs ++ us, m) := by
  match xs with
  | [] => simpa [prettyItems, itemTokens] using Scanner.run_append (run_indent depth) h
  | x :: xs =>
    have hfirst := run_pretty (depth + 1) x (endsNumber_prettyItems depth xs rest)
      (run_prettyItems depth xs h)
    have hall := run_sign (c := ',') rfl (Scanner.run_append (run_indent (depth + 1)) hfirst)
    simpa [prettyItems, itemTokens] using hall

theorem run_prettyMembers (depth : Nat) (ms : List (String × Json)) {rest : List Char}
    {us : List Token} {m : Mode} (h : scanner.run .between rest = some (us, m)) :
    scanner.run .between (prettyMembers depth ms ++ (indent depth ++ rest)) =
      some (memberTokens ms ++ us, m) := by
  match ms with
  | [] => simpa [prettyMembers, memberTokens] using Scanner.run_append (run_indent depth) h
  | (k, x) :: ms =>
    have hfirst := run_pretty (depth + 1) x (endsNumber_prettyMembers depth ms rest)
      (run_prettyMembers depth ms h)
    have hall := run_sign (c := ',') rfl (run_key (depth + 1) k hfirst)
    simpa [prettyMembers, memberTokens] using hall

end

/-! ### Printed values -/

theorem tokens_ne_close (v : Json) (rest us : List Token) : tokens v ++ rest ≠ .sign ']' :: us := by
  match v with
  | .text s => simp [tokens]
  | .count n => simp [tokens]
  | .list [] => simp [tokens]
  | .list (x :: xs) => simp [tokens]
  | .object [] => simp [tokens]
  | .object ((k, x) :: ms) => simp [tokens]

mutual

/-- A value is read back from its tokens, whatever stands behind them. -/
theorem value?_tokens (v : Json) (rest : List Token) (steps : Nat) (h : (tokens v).length ≤ steps) :
    value? steps (tokens v ++ rest) = some (v, rest) := by
  match v, steps with
  | .text s, _ => simp only [tokens, List.cons_append, List.nil_append, value?]
  | .count n, _ => simp only [tokens, List.cons_append, List.nil_append, value?]
  | .list [], _ => simp only [tokens, List.cons_append, List.nil_append, value?]
  | .list (x :: xs), 0 => simp [tokens] at h
  | .list (x :: xs), steps + 1 =>
    simp only [tokens, List.length_cons, List.length_append] at h
    have hfirst := value?_tokens x (itemTokens xs ++ .sign ']' :: rest) steps (by omega)
    have hmore := moreItems?_tokens xs rest steps (by omega)
    have hopen := tokens_ne_close x (itemTokens xs ++ .sign ']' :: rest)
    simp only [tokens, List.cons_append, List.append_assoc, List.nil_append]
    rw [value?.eq_4 _ _ hopen, hfirst]
    simp only [Option.bind_some, hmore, Option.map_some]
  | .object [], _ => simp only [tokens, List.cons_append, List.nil_append, value?]
  | .object ((k, x) :: ms), 0 => simp [tokens] at h
  | .object ((k, x) :: ms), steps + 1 =>
    simp only [tokens, List.length_cons, List.length_append] at h
    have hfirst := value?_tokens x (memberTokens ms ++ .sign '}' :: rest) steps (by omega)
    have hmore := moreMembers?_tokens ms rest steps (by omega)
    simp only [tokens, List.cons_append, List.append_assoc, List.nil_append]
    rw [value?, hfirst]
    simp only [Option.bind_some, hmore, Option.map_some]

theorem moreItems?_tokens (xs : List Json) (rest : List Token) (steps : Nat)
    (h : (itemTokens xs).length ≤ steps) :
    moreItems? steps (itemTokens xs ++ .sign ']' :: rest) = some (xs, rest) := by
  match xs, steps with
  | [], _ => simp only [itemTokens, List.nil_append, moreItems?]
  | x :: xs, 0 => simp [itemTokens] at h
  | x :: xs, steps + 1 =>
    simp only [itemTokens, List.length_cons, List.length_append] at h
    have hfirst := value?_tokens x (itemTokens xs ++ .sign ']' :: rest) steps (by omega)
    have hmore := moreItems?_tokens xs rest steps (by omega)
    simp only [itemTokens, List.cons_append, List.append_assoc]
    rw [moreItems?, hfirst]
    simp only [Option.bind_some, hmore, Option.map_some]

theorem moreMembers?_tokens (ms : List (String × Json)) (rest : List Token) (steps : Nat)
    (h : (memberTokens ms).length ≤ steps) :
    moreMembers? steps (memberTokens ms ++ .sign '}' :: rest) = some (ms, rest) := by
  match ms, steps with
  | [], _ => simp only [memberTokens, List.nil_append, moreMembers?]
  | (k, x) :: ms, 0 => simp [memberTokens] at h
  | (k, x) :: ms, steps + 1 =>
    simp only [memberTokens, List.length_cons, List.length_append] at h
    have hfirst := value?_tokens x (memberTokens ms ++ .sign '}' :: rest) steps (by omega)
    have hmore := moreMembers?_tokens ms rest steps (by omega)
    simp only [memberTokens, List.cons_append, List.append_assoc]
    rw [moreMembers?, hfirst]
    simp only [Option.bind_some, hmore, Option.map_some]

end

/-- A printed document is read back as the value that it was printed from. -/
theorem read?_document (v : Json) : read? v.document = some v := by
  have htext : v.document.toList = v.prettyChars 0 ++ ['\n'] := by
    rw [document, pretty, String.toList_append, String.toList_ofList]
    rfl
  have hrun : scanner.run .between v.document.toList = some (tokens v ++ [], .between) := by
    rw [htext]
    exact run_pretty 0 v rfl rfl
  have htokens : scanner.tokens? v.document = some (tokens v ++ []) := by
    have hall := Scanner.tokens?_eq (S := scanner) hrun rfl
    rwa [List.append_nil] at hall
  have hvalue := value?_tokens v [] (tokens v ++ []).length (by simp)
  rw [read?, htokens, Option.bind_some, hvalue]

theorem document_injective : Function.Injective document := fun v w h =>
  Option.some.inj (by rw [← read?_document v, ← read?_document w, h])

/-! ### The parts of a value

A list or an object with a part for each of some things is read back as those things, when each part
is read back as its own thing. -/

def text? : Json → Option String
  | .text s => some s
  | _ => none

def count? : Json → Option Nat
  | .count n => some n
  | _ => none

variable {α : Type}

def list? (read : Json → Option α) : Json → Option (List α)
  | .list items => items.mapM read
  | _ => none

/-- The members of an object with their names. -/
def members? (read : Json → Option α) : Json → Option (List (String × α))
  | .object members => members.mapM fun m => (read m.2).map (m.1, ·)
  | _ => none

/-- The member of an object that has a name. -/
def member? (name : String) (read : Json → Option α) : Json → Option α
  | .object members => (members.lookup name).bind read
  | _ => none

variable {write : α → Json} {read : Json → Option α}

theorem list?_map (h : ∀ a, read (write a) = some a) (as : List α) :
    list? read (.list (as.map write)) = some as := by
  have hall := mapM_map_eq_some write read id h as
  rwa [List.map_id] at hall

theorem members?_map (h : ∀ a, read (write a) = some a) (entries : List (String × α)) :
    members? read (.object (entries.map fun e => (e.1, write e.2))) = some entries := by
  have hentry (e : String × α) : (read (write e.2)).map (e.1, ·) = some e := by
    rw [h e.2]
    rfl
  have hall := mapM_map_eq_some (fun e => (e.1, write e.2))
    (fun m : String × Json => (read m.2).map (m.1, ·)) id hentry entries
  rwa [List.map_id] at hall

/-- A value in which no object has two members of one name. -/
inductive HasDistinctMembers : Json → Prop
  | text (s : String) : HasDistinctMembers (.text s)
  | count (n : Nat) : HasDistinctMembers (.count n)
  | list {items : List Json} (hitems : ∀ v ∈ items, HasDistinctMembers v) :
    HasDistinctMembers (.list items)
  | object {members : List (String × Json)} (hnames : (members.map Prod.fst).Nodup)
    (hmembers : ∀ m ∈ members, HasDistinctMembers m.2) : HasDistinctMembers (.object members)

attribute [simp] HasDistinctMembers.text HasDistinctMembers.count

theorem HasDistinctMembers.list_map (h : ∀ a, HasDistinctMembers (write a)) (as : List α) :
    HasDistinctMembers (.list (as.map write)) :=
  .list fun v hv => by
    obtain ⟨a, _, rfl⟩ := List.mem_map.1 hv
    exact h a

theorem HasDistinctMembers.object_map (h : ∀ a, HasDistinctMembers (write a))
    {entries : List (String × α)} (hnames : (entries.map Prod.fst).Nodup) :
    HasDistinctMembers (.object (entries.map fun e => (e.1, write e.2))) := by
  refine .object ?_ fun m hm => ?_
  · rw [List.map_map]
    exact hnames
  · obtain ⟨e, _, rfl⟩ := List.mem_map.1 hm
    exact h e.2

end Json

end ServiceAtlas
