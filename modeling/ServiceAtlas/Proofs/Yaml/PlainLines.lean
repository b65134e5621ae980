import ServiceAtlas.Yaml.TopLevel
import Mathlib.Data.List.Basic

/-!
The tokens of a mapping that is written at the left margin, with one pair on each line and no quotes.
A text without blanks and of harmless characters is a plain scalar wherever it stands
(`IsPlainWord`), also with colons inside. A line `key: value` of two such words takes three rounds of
the scan (`Scan.run?_line`), and the lines together make up the tokens of one block mapping
(`tokens?_lines`).
-/

namespace ServiceAtlas.Yaml

variable {w rest : List Char} {c : Cursor} {indent : Nat}

/-! ### Plain words -/

/-- A text without blanks that is a plain scalar wherever it begins on a line. -/
structure IsPlainWord (w : List Char) : Prop where
  nonempty : w ≠ []
  allowed : ∀ c ∈ w, isAllowed c = true
  solid : ∀ c ∈ w, isBlank c = false ∧ isBreak c = false
  first : ∀ c ∈ w.head?, Scan.isSign c = false ∧ c ≠ '.' ∧ c ≠ '\uFEFF'
  last : w.getLast? ≠ some ':'

/-- A colon within the word does not end it, since what follows is no blank. -/
theorem plainWord?_append (hsolid : ∀ c ∈ w, isBlank c = false ∧ isBreak c = false)
    (hlast : w.getLast? ≠ some ':') (hrest : plainWord? false rest = some ([], rest)) :
    plainWord? false (w ++ rest) = some (w, rest) := by
  induction w with
  | nil => exact hrest
  | cons c w ih =>
    obtain ⟨⟨hblank, hbreak⟩, hw⟩ := List.forall_mem_cons.1 hsolid
    have hcolon : (c = ':' && endsWord (w ++ rest)) = false := by
      cases w with
      | nil => simp [show c ≠ ':' by simpa using hlast]
      | cons d w => simp [endsWord, hw d]
    have hlast' : w.getLast? ≠ some ':' := by
      intro h
      rw [List.getLast?_cons, h] at hlast
      exact hlast rfl
    simp [plainWord?, hblank, hbreak, hcolon, ih hw hlast']

theorem IsPlainWord.exists_eq_cons (h : IsPlainWord w) : ∃ d ds, w = d :: ds ∧
    Scan.isSign d = false ∧ d ≠ '.' ∧ d ≠ '\uFEFF' ∧ isBlank d = false ∧ isBreak d = false := by
  obtain ⟨d, ds, rfl⟩ := List.exists_cons_of_ne_nil h.nonempty
  obtain ⟨hsign, hdot, hmark⟩ := h.first d rfl
  exact ⟨d, ds, rfl, hsign, hdot, hmark, h.solid d List.mem_cons_self⟩

theorem atDocumentMark_eq_false {d : Char} {ds : List Char} (hrest : c.rest = d :: ds)
    (hhyphen : d ≠ '-') (hdot : d ≠ '.') : c.atDocumentMark = false := by
  rw [Cursor.atDocumentMark, hrest]
  simp [hhyphen, hdot]

/-- The first word of a plain scalar, up to where it ends. -/
theorem plain?_first (h : IsPlainWord w) (hrest : c.rest = w ++ rest)
    (hends : plainWord? false rest = some ([], rest)) :
    plain? false indent c =
      if (rest.head?.any fun d => isBlank d || isBreak d) = false then
        some (w, false, c.skip w.length)
      else
        (plainSpacing? indent rest.length .none (c.skip w.length)).bind fun r =>
          if r.2.column < indent then some (w, r.1.broken, r.2)
          else plainFrom? false indent c.rest.length w r.1 r.2 := by
  obtain ⟨d, ds, rfl, hsign, hdot, -⟩ := h.exists_eq_cons
  have hword : plainWord? false c.rest = some (d :: ds, rest) := by
    rw [hrest]
    exact plainWord?_append h.solid h.last hends
  have hskip : (c.skip (ds.length + 1)).rest = rest := by simp [Cursor.skip, hrest]
  have hmark : c.atDocumentMark = false :=
    atDocumentMark_eq_false hrest (by rintro rfl; simp [Scan.isSign] at hsign) hdot
  have hhead : c.head? ≠ some '#' := by
    rw [Cursor.head?, hrest]
    rintro ⟨⟩
    simp [Scan.isSign] at hsign
  have hfolded : Spacing.none.folded = [] := rfl
  have hbroken : Spacing.none.broken = false := rfl
  simp [plain?, plainFrom?, hmark, hhead, hword, hskip, Cursor.isHead, hfolded, hbroken]
  cases plainSpacing? indent rest.length .none (c.skip (ds.length + 1)) <;> rfl

theorem plain?_colon (h : IsPlainWord w) (hrest : c.rest = w ++ ':' :: ' ' :: rest) :
    plain? false indent c = some (w, false, c.skip w.length) := by
  rw [plain?_first h hrest rfl]
  rfl

theorem plain?_end (h : IsPlainWord w) (hrest : c.rest = w) :
    plain? false indent c = some (w, false, c.skip w.length) := by
  rw [plain?_first h (hrest.trans (List.append_nil w).symm) rfl]
  rfl

theorem plainSpacing?_of_head (h : ∀ d ∈ c.head?, isBlank d = false ∧ isBreak d = false)
    (indent fuel : Nat) (s : Spacing) :
    plainSpacing? indent fuel s c = some (s, c) := by
  cases fuel with
  | zero => rfl
  | succ fuel =>
    cases hhead : c.head? with
    | none => simp [plainSpacing?, hhead]
    | some d => simp [plainSpacing?, hhead, h d hhead]

theorem plain?_newline (h : IsPlainWord w) (hrest : c.rest = w ++ '\n' :: rest)
    (hnext : ∀ d ∈ rest.head?, isBlank d = false ∧ isBreak d = false) (hindent : 0 < indent) :
    plain? false indent c = some (w, true, ⟨rest, c.index + w.length + 1, c.line + 1, 0⟩) := by
  have hskip : (c.skip w.length).rest = '\n' :: rest := by simp [Cursor.skip, hrest]
  have hbreak : (c.skip w.length).skipBreak =
      ⟨rest, c.index + w.length + 1, c.line + 1, 0⟩ := by
    rw [Cursor.skipBreak, hskip]
    rfl
  have hspacing : plainSpacing? indent ('\n' :: rest).length .none (c.skip w.length) =
      some (⟨[], true, ['\n'], []⟩, ⟨rest, c.index + w.length + 1, c.line + 1, 0⟩) := by
    have htext : (c.skip w.length).breakText = ['\n'] := by
      rw [Cursor.breakText, hskip]
      rfl
    rw [List.length_cons, plainSpacing?, Cursor.head?, hskip, htext, hbreak]
    exact plainSpacing?_of_head (c := ⟨rest, _, _, 0⟩) hnext indent rest.length _
  rw [plain?_first h hrest rfl, hspacing]
  simp [hindent, isBreak]

/-! ### One round -/

namespace Scan

variable {s : Scan} {d : Char}

/-- A character that is not passed over between tokens. -/
structure StartsToken (d : Char) : Prop where
  notBlank : isBlank d = false
  notBreak : isBreak d = false
  notComment : d ≠ '#'
  notMark : d ≠ '\uFEFF'

theorem gap_of_blanks {n : Nat} (hrest : s.cursor.rest = List.replicate n ' ' ++ rest)
    (hhead : ∀ d ∈ rest.head?, StartsToken d) (fuel : Nat) : gap (fuel + 1) s = s.advance n := by
  have hmark : s.cursor.head? ≠ some '\uFEFF' := by
    rw [Cursor.head?, hrest]
    cases n with
    | zero => exact fun h => (hhead _ h).notMark rfl
    | succ n => rintro ⟨⟩
  have htake : s.cursor.skipWhile
      (fun d => d == ' ' || ((s.flow || !s.keyAllowed) && d == '\t')) = s.cursor.skip n := by
    have hrest' : rest.takeWhile
        (fun d => d == ' ' || ((s.flow || !s.keyAllowed) && d == '\t')) = [] := by
      cases rest with
      | nil => rfl
      | cons d ds =>
        have hblank := (hhead d rfl).notBlank
        simp only [isBlank, Bool.or_eq_false_iff] at hblank
        exact List.takeWhile_cons_of_neg (by simp [hblank])
    rw [Cursor.skipWhile, hrest, List.takeWhile_append_of_pos (by simp), hrest']
    simp
  have hskip : (s.cursor.skip n).rest = rest := by simp [Cursor.skip, hrest]
  have hcomment : (s.cursor.skip n).head? ≠ some '#' := by
    rw [Cursor.head?, hskip]
    exact fun h => (hhead _ h).notComment rfl
  have hbreak : (s.cursor.skip n).isHead isBreak = false := by
    rw [Cursor.isHead, hskip]
    cases hd : rest.head? with
    | none => rfl
    | some d => exact (hhead d hd).notBreak
  simp [gap, hmark, htake, hcomment, hbreak, advance]

theorem dropStale?_eq_self (hflow : s.outer = []) (h : ∀ k ∈ s.here, isStale s.cursor k = false) :
    s.dropStale? = some s := by
  have hhere : refresh? s.cursor s.here = some s.here := by
    cases hk : s.here with
    | none => rfl
    | some k => simp [refresh?, h k hk]
  cases s
  cases hflow
  simp only [dropStale?, List.mapM_nil, hhere]
  rfl

theorem closeBlocks_eq_self {level : Nat} (h : s.level ≤ level) : s.closeBlocks level = s := by
  have htake : (s.level :: s.levels).takeWhile (level < ·) = [] :=
    List.takeWhile_cons_of_neg (by simpa using h)
  rw [closeBlocks, htake]
  simp

/-- A round outside flow collections, within the innermost block: blanks, then a token or the end. -/
theorem run?_succ {n : Nat} (hflow : s.outer = [])
    (hrest : s.cursor.rest = List.replicate n ' ' ++ rest)
    (hhead : ∀ d ∈ rest.head?, StartsToken d) (hlevel : s.level ≤ s.cursor.column + n + 1)
    (hhere : ∀ k ∈ s.here, isStale (s.cursor.skip n) k = false) (fuel : Nat) :
    run? (fuel + 1) s =
      if rest = [] then atBlocksEnd? (s.advance n) else (token? (s.advance n)).bind (run? fuel) := by
  have hskip : (s.advance n).cursor.rest = rest := by simp [advance, Cursor.skip, hrest]
  have hstale : (s.advance n).dropStale? = some (s.advance n) := dropStale?_eq_self hflow hhere
  have hblocks : (s.advance n).closeBlocks ((s.advance n).cursor.column + 1) = s.advance n :=
    closeBlocks_eq_self hlevel
  rw [run?, gap_of_blanks hrest hhead]
  simp only [hstale, Option.bind_eq_bind, Option.bind_some, hblocks, hskip, List.isEmpty_iff]

theorem run?_of_token {n : Nat} {s' : Scan} (hflow : s.outer = [])
    (hrest : s.cursor.rest = List.replicate n ' ' ++ rest) (hne : rest ≠ [])
    (hhead : ∀ d ∈ rest.head?, StartsToken d) (hlevel : s.level ≤ s.cursor.column + n + 1)
    (hhere : ∀ k ∈ s.here, isStale (s.cursor.skip n) k = false)
    (htoken : token? (s.advance n) = some s') (fuel : Nat) :
    run? (fuel + 1) s = run? fuel s' := by
  rw [run?_succ hflow hrest hhead hlevel hhere, if_neg hne, htoken, Option.bind_some]

/-! ### Tokens of a line -/

/-- A scan between the lines of a mapping at the left margin, or before them. -/
def atLine (opened : Bool) (ts : List Token) (c : Cursor) (allowed : Bool) : Scan :=
  { cursor := c
    tokens := ts.toArray
    level := opened.toNat
    levels := if opened then [0] else []
    keyAllowed := allowed
    here := none
    outer := [] }

/-- The scan behind a key that begins the line. -/
def afterKey (opened : Bool) (ts : List Token) (c : Cursor) (key : List Char) : Scan :=
  { atLine opened (ts ++ [.scalar (String.ofList key) true]) (c.skip key.length) false with
    here := some ⟨opened, ts.length, c.index, c.line, c.column⟩ }

theorem startsToken_of_isPlainWord (h : IsPlainWord w) : ∀ d ∈ (w ++ rest).head?, StartsToken d := by
  obtain ⟨d, ds, rfl, hsign, -, hmark, hblank, hbreak⟩ := h.exists_eq_cons
  rintro _ ⟨⟩
  exact ⟨hblank, hbreak, (by rintro rfl; simp [isSign] at hsign), hmark⟩

theorem token?_word (h : IsPlainWord w) (hrest : s.cursor.rest = w ++ rest) :
    token? s = plainScalar? s := by
  obtain ⟨d, ds, rfl, hsign, hdot, -, hblank, hbreak⟩ := h.exists_eq_cons
  have hsigns := hsign
  simp [isSign] at hsigns
  have hmark : s.cursor.atDocumentMark = false :=
    atDocumentMark_eq_false hrest (by rintro rfl; simp [Scan.isSign] at hsign) hdot
  rw [token?, hrest]
  simp [hmark, hsigns, hblank, hbreak, hsign]

variable {opened broken : Bool} {ts : List Token} {key value : List Char} {next : Cursor}

theorem token?_key (h : IsPlainWord key) (hcolumn : c.column = 0)
    (hrest : c.rest = key ++ ':' :: ' ' :: rest) :
    token? (atLine opened ts c true) = some (afterKey opened ts c key) := by
  have hplain : plain? false opened.toNat c = some (key, false, c.skip key.length) :=
    plain?_colon h hrest
  rw [token?_word h hrest]
  simp [plainScalar?, noteKey?, dropKey?, atLine, afterKey, flow, push, hplain, hcolumn]

/-- The first key of the mapping opens it. -/
def opening (opened : Bool) : List Token := if opened then [] else [.blockMapping]

theorem token?_colon (hcolumn : c.column = 0) (hrest : c.rest = key ++ ':' :: ' ' :: rest) :
    token? (afterKey opened ts c key) = some (atLine true
      (ts ++ opening opened ++ [.key, .scalar (String.ofList key) true, .value])
      (c.skip (key.length + 1)) false) := by
  have hskip : (afterKey opened ts c key).cursor.rest = ':' :: ' ' :: rest := by
    simp [afterKey, atLine, Cursor.skip, hrest]
  have hmark : (afterKey opened ts c key).cursor.atDocumentMark = false :=
    atDocumentMark_eq_false hskip (by decide) (by decide)
  have hsign : token? (afterKey opened ts c key) = valueSign? (afterKey opened ts c key) := by
    rw [token?, hskip]
    simp [hmark, endsWord, isBlank]
  rw [hsign]
  cases opened <;>
    simp [valueSign?, afterKey, atLine, insertAt, openBlock, opening, push, advance, flow,
      hcolumn, Cursor.skip, Nat.add_assoc]

theorem token?_value (h : IsPlainWord value) (hrest : c.rest = value ++ rest)
    (hplain : plain? false 1 c = some (value, broken, next)) :
    token? (atLine true ts c false) =
      some (atLine true (ts ++ [.scalar (String.ofList value) true]) next broken) := by
  rw [token?_word h hrest]
  simp [plainScalar?, noteKey?, atLine, flow, push, hplain]

theorem run?_key (h : IsPlainWord key) (hcolumn : c.column = 0)
    (hrest : c.rest = key ++ ':' :: ' ' :: rest) (fuel : Nat) :
    run? (fuel + 1) (atLine opened ts c true) = run? fuel (afterKey opened ts c key) := by
  refine run?_of_token (n := 0) rfl hrest (by simp) (startsToken_of_isPlainWord h) ?_
    (by rintro _ ⟨⟩) (token?_key h hcolumn hrest) fuel
  cases opened <;> simp [atLine]

/-- The colon comes in time for its key, which is short enough. -/
theorem run?_colon (hlength : key.length ≤ 1024) (hcolumn : c.column = 0)
    (hrest : c.rest = key ++ ':' :: ' ' :: rest) (fuel : Nat) :
    run? (fuel + 1) (afterKey opened ts c key) = run? fuel (atLine true
      (ts ++ opening opened ++ [.key, .scalar (String.ofList key) true, .value])
      (c.skip (key.length + 1)) false) := by
  have hskip : (afterKey opened ts c key).cursor.rest = ':' :: ' ' :: rest := by
    simp [afterKey, atLine, Cursor.skip, hrest]
  refine run?_of_token (n := 0) rfl hskip (by simp) ?_ ?_ ?_ (token?_colon hcolumn hrest) fuel
  · rintro _ ⟨⟩
    constructor <;> decide
  · cases opened <;> simp [afterKey, atLine]
  · rintro _ ⟨⟩
    simpa [isStale, afterKey, atLine, Cursor.skip] using hlength

theorem run?_value (h : IsPlainWord value) (hrest : c.rest = ' ' :: (value ++ rest))
    (hplain : plain? false 1 (c.skip 1) = some (value, broken, next)) (fuel : Nat) :
    run? (fuel + 1) (atLine true ts c false) =
      run? fuel (atLine true (ts ++ [.scalar (String.ofList value) true]) next broken) := by
  have hskip : (c.skip 1).rest = value ++ rest := by simp [Cursor.skip, hrest]
  exact run?_of_token (s := atLine true ts c false) (n := 1) rfl hrest (by simp [h.nonempty])
    (startsToken_of_isPlainWord h) (by simp [atLine]) (by rintro _ ⟨⟩) (token?_value h hskip hplain)
    fuel

/-- At the end of the text the mapping is closed. -/
theorem run?_end (hrest : c.rest = []) (allowed : Bool) (fuel : Nat) :
    (run? (fuel + 1) (atLine true ts c allowed)).map (·.tokens.toList) =
      some (ts ++ [.blockEnd]) := by
  rw [run?_succ (s := atLine true ts c allowed) (n := 0) rfl hrest (by rintro _ ⟨⟩)
    (by simp [atLine]) (by rintro _ ⟨⟩) fuel, if_pos rfl]
  simp [atBlocksEnd?, closeBlocks, dropKey?, atLine, advance, allow, flow]

end Scan

/-! ### Lines -/

/-- The tokens of a pair whose parts are written without quotes. -/
def pairTokens (p : String × String) : List Token :=
  [.key, .scalar p.1 true, .value, .scalar p.2 true]

/-- A pair that can be written on a line, without quotes. -/
structure PlainPair where
  key : String
  value : String
  plainKey : IsPlainWord key.toList
  shortKey : key.toList.length ≤ 1024
  plainValue : IsPlainWord value.toList

namespace PlainPair

variable (p : PlainPair)

def line : List Char := p.key.toList ++ ':' :: ' ' :: p.value.toList

def pair : String × String := (p.key, p.value)

theorem startsToken_line (rest : List Char) :
    ∀ d ∈ (p.line ++ rest).head?, Scan.StartsToken d := by
  rw [line, List.append_assoc]
  exact Scan.startsToken_of_isPlainWord p.plainKey

/-- Each pair on a line of its own. -/
def text (ps : List PlainPair) (ending : List Char) : List Char :=
  List.intercalate ['\n'] (ps.map line) ++ ending

variable (q : PlainPair) (ps : List PlainPair) (ending : List Char)

theorem text_singleton : text [p] ending = p.line ++ ending := by
  rw [text, List.map_singleton, List.intercalate_singleton]

theorem text_cons_cons : text (p :: q :: ps) ending = p.line ++ '\n' :: text (q :: ps) ending := by
  simp [text, List.intercalate_cons_cons]

theorem startsToken_text : ∀ d ∈ (text (p :: ps) ending).head?, Scan.StartsToken d := by
  cases ps with
  | nil =>
    rw [text_singleton]
    exact p.startsToken_line ending
  | cons q ps =>
    rw [text_cons_cons]
    exact p.startsToken_line _

theorem isAllowed_line : ∀ d ∈ p.line, isAllowed d = true := by
  intro d hd
  simp only [line, List.mem_append, List.mem_cons] at hd
  rcases hd with hd | rfl | rfl | hd
  · exact p.plainKey.allowed d hd
  · decide
  · decide
  · exact p.plainValue.allowed d hd

theorem isAllowed_text (hending : ∀ d ∈ ending, isAllowed d = true) :
    ∀ d ∈ text (p :: ps) ending, isAllowed d = true := by
  induction ps generalizing p with
  | nil =>
    rw [text_singleton]
    exact List.forall_mem_append.2 ⟨p.isAllowed_line, hending⟩
  | cons q ps ih =>
    rw [text_cons_cons]
    exact List.forall_mem_append.2
      ⟨p.isAllowed_line, List.forall_mem_cons.2 ⟨by decide, ih q⟩⟩

/-- There are characters enough for the rounds of each line. -/
theorem length_le_text : 3 * (p :: ps).length ≤ (text (p :: ps) ending).length := by
  have hline (p : PlainPair) : 3 ≤ p.line.length := by
    have hkey := List.length_pos_iff.2 p.plainKey.nonempty
    simp only [line, List.length_append, List.length_cons]
    omega
  induction ps generalizing p with
  | nil =>
    rw [text_singleton, List.length_append]
    exact Nat.le_add_right_of_le (hline p)
  | cons q ps ih =>
    have hp := hline p
    have hq := ih q
    rw [text_cons_cons, List.length_append, List.length_cons]
    simp only [List.length_cons] at hq ⊢
    omega

end PlainPair

namespace Scan

variable {opened broken : Bool} {ts : List Token} {next : Cursor}

theorem rest_skip_key {p : PlainPair} (hrest : c.rest = p.line ++ rest) :
    (c.skip (p.key.toList.length + 2)).rest = p.value.toList ++ rest := by
  simp [Cursor.skip, hrest, PlainPair.line, List.drop_append]

/-- The three rounds that read a line: its key, its colon and its value. -/
theorem run?_line (opened : Bool) (ts : List Token) (p : PlainPair) (hcolumn : c.column = 0)
    (hrest : c.rest = p.line ++ rest)
    (hvalue : plain? false 1 (c.skip (p.key.toList.length + 2)) =
      some (p.value.toList, broken, next)) (fuel : Nat) :
    run? (fuel + 3) (atLine opened ts c true) =
      run? fuel (atLine true (ts ++ opening opened ++ pairTokens p.pair) next broken) := by
  have hkey : c.rest = p.key.toList ++ ':' :: ' ' :: (p.value.toList ++ rest) := by
    simp [hrest, PlainPair.line]
  have hblank : (c.skip (p.key.toList.length + 1)).rest = ' ' :: (p.value.toList ++ rest) := by
    simp [Cursor.skip, hkey, List.drop_append]
  have hskip : (c.skip (p.key.toList.length + 1)).skip 1 = c.skip (p.key.toList.length + 2) := by
    simp [Cursor.skip, Nat.add_assoc]
  rw [run?_key p.plainKey hcolumn hkey, run?_colon p.shortKey hcolumn hkey,
    run?_value p.plainValue hblank (hskip ▸ hvalue)]
  simp [pairTokens, PlainPair.pair]

/-- All lines of the mapping, the last of which may lack its line break. -/
theorem run?_lines {ending : List Char} (hending : ending = [] ∨ ending = ['\n']) (opened : Bool)
    (ts : List Token) (p : PlainPair) (ps : List PlainPair) (hcolumn : c.column = 0)
    (hrest : c.rest = PlainPair.text (p :: ps) ending) (fuel : Nat) :
    (run? (fuel + 1 + 3 * (p :: ps).length) (atLine opened ts c true)).map (·.tokens.toList) =
      some (ts ++ opening opened ++ ((p :: ps).map PlainPair.pair).flatMap pairTokens ++
        [.blockEnd]) := by
  -- only the first line is met before the mapping is open, so that `opened` changes once
  induction ps generalizing p opened ts c with
  | nil =>
    rw [PlainPair.text_singleton] at hrest
    have hskip := rest_skip_key hrest
    rw [List.map_singleton, List.flatMap_singleton, List.length_singleton, Nat.mul_one]
    rcases hending with rfl | rfl
    · rw [List.append_nil] at hskip
      rw [run?_line opened ts p hcolumn hrest (plain?_end p.plainValue hskip)]
      exact run?_end ((congrArg (List.drop _) hskip).trans List.drop_length) false fuel
    · rw [run?_line opened ts p hcolumn hrest
        (plain?_newline p.plainValue hskip (by rintro _ ⟨⟩) Nat.one_pos)]
      exact run?_end rfl true fuel
  | cons q ps ih =>
    rw [PlainPair.text_cons_cons] at hrest
    have hnext := q.startsToken_text ps ending
    have hvalue := plain?_newline p.plainValue (rest_skip_key hrest)
      (fun d hd => ⟨(hnext d hd).notBlank, (hnext d hd).notBreak⟩) Nat.one_pos
    rw [List.length_cons, Nat.mul_succ, ← Nat.add_assoc, run?_line opened ts p hcolumn hrest hvalue,
      ih true _ q rfl rfl]
    simp [opening]

end Scan

theorem tokens?_lines {ending : List Char} (hending : ending = [] ∨ ending = ['\n'])
    (p : PlainPair) (ps : List PlainPair) :
    tokens? (PlainPair.text (p :: ps) ending) = some
      (.blockMapping :: (((p :: ps).map PlainPair.pair).flatMap pairTokens ++ [.blockEnd])) := by
  have hallowed : (PlainPair.text (p :: ps) ending).all isAllowed = true := by
    refine List.all_eq_true.2 (p.isAllowed_text ps ending ?_)
    rcases hending with rfl | rfl <;> simp [isAllowed]
  obtain ⟨fuel, hfuel⟩ := Nat.exists_eq_add_of_le' (p.length_le_text ps ending)
  have hrun := Scan.run?_lines (c := ⟨PlainPair.text (p :: ps) ending, 0, 0, 0⟩) hending false [] p
    ps rfl rfl fuel
  rw [Nat.add_right_comm, ← hfuel] at hrun
  rw [tokens?, if_pos hallowed]
  · exact hrun
  · intro rest htext
    have hstart := p.startsToken_text ps ending
    rw [htext] at hstart
    exact (hstart _ rfl).notMark rfl

end ServiceAtlas.Yaml
