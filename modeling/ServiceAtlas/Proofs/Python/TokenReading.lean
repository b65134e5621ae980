import ServiceAtlas.Proofs.Python.LayoutReading
import ServiceAtlas.Proofs.Python.PrintedProgram

/-!
The tokens of a printed program as they are read: words, signs and strings. `AtWord` and `AtSign`
say what stands next, which is all that decides whether most rules can be read.
-/

namespace ServiceAtlas.Python

open Rule (Reads Fails Needs)

theorem solid_of_isPrintable {c : Char} {cs : List Char} (h : IsPrintable c) (hspace : c ≠ ' ')
    (hhash : c ≠ '#') (hslash : c ≠ '\\') : Solid (c :: cs) := by
  have hne : ∀ d, ¬ IsPrintable d → c ≠ d := by
    rintro d hd rfl
    exact hd h
  refine ⟨?_, hhash, hslash⟩
  simp [isGap, h.isBlank hspace, hne '﻿' (by decide), hne '⁠' (by decide),
    hne '​' (by decide)]

/-! ### Words -/

/-- A word of ASCII characters. -/
def IsWord (w : List Char) : Prop := isWord nameMarks w = true

instance (w : List Char) : Decidable (IsWord w) := inferInstanceAs (Decidable (_ = true))

/-- A word cannot go on with the text. -/
def EndsWord (rest : List Char) : Prop := ∀ c ∈ rest.head?, Text.isIdentifierContinue c = false

@[simp] theorem endsWord_cons (c : Char) (cs : List Char) :
    EndsWord (c :: cs) ↔ Text.isIdentifierContinue c = false := by
  simp [EndsWord]

theorem isWordStart_of_isNameStart {c : Char} (h : isNameStart nameMarks c = true) :
    isWordStart c = true := by
  simp only [isNameStart, nameMarks, isWordStart, Text.isIdentifierStart, Bool.or_eq_true,
    List.contains_cons, List.contains_nil, Bool.false_eq_true, or_false] at h ⊢
  rcases h with h | h
  · exact .inl (.inl h)
  · exact .inr h

theorem isIdentifierContinue_of_isNameContinue {c : Char} (h : isNameContinue nameMarks c = true) :
    Text.isIdentifierContinue c = true := by
  simp only [isNameContinue, nameMarks, Text.isIdentifierContinue, Bool.or_eq_true,
    List.contains_cons, List.contains_nil, Bool.false_eq_true, or_false] at h ⊢
  rcases h with h | h
  · exact .inl (.inl h)
  · exact .inl (.inr h)

theorem isDigit_of_isNameStart {c : Char} (h : isNameStart nameMarks c = true) :
    c.isDigit = false := by
  simp only [isNameStart, nameMarks, isAlpha_iff, Bool.or_eq_true, List.contains_cons, beq_iff_eq,
    List.contains_nil, Bool.false_eq_true, or_false] at h
  rcases h with h | rfl
  · rw [Bool.eq_false_iff, ne_eq, isDigit_iff]
    omega
  · decide

namespace IsWord

variable {w rest : List Char}

theorem isPrintable (hw : IsWord w) : ∀ c ∈ w, IsPrintable c := isPrintable_of_isWord (by decide) hw

theorem solid (hw : IsWord w) : Solid (w ++ rest) := by
  have hprintable := hw.isPrintable
  obtain ⟨c, cs, rfl, hc, -⟩ := isWord_iff.1 hw
  refine solid_of_isPrintable (hprintable c List.mem_cons_self) ?_ ?_ ?_
  all_goals
    rintro rfl
    exact absurd hc (by decide)

theorem wordAt_append (hw : IsWord w) (hrest : EndsWord rest) : wordAt (w ++ rest) = w := by
  obtain ⟨c, cs, rfl, hc, hcs⟩ := isWord_iff.1 hw
  have htake : rest.takeWhile Text.isIdentifierContinue = [] := by
    cases rest with
    | nil => rfl
    | cons d ds => simp [(endsWord_cons d ds).1 hrest]
  rw [List.cons_append, wordAt, if_pos (isWordStart_of_isNameStart hc),
    List.takeWhile_append_of_pos fun d hd => isIdentifierContinue_of_isNameContinue (hcs d hd),
    htake, List.append_nil]

end IsWord

/-! ### What stands next -/

namespace Cursor

/-- The word that stands next, empty if there is none, has the property. -/
def AtWord (P : String → Prop) (c : Cursor) : Prop := P (String.ofList (wordAt c.rest))

/-- One of the signs stands next. -/
def AtSign (ss : List String) (c : Cursor) : Prop := ∃ s ∈ ss, signAt? c.rest = some s

/-- The source goes on. -/
def AtText (c : Cursor) : Prop := c.rest ≠ []

variable {c : Cursor} {P Q : String → Prop} {ss : List String}

theorem AtWord.mono (h : c.AtWord P) (hPQ : ∀ w, P w → Q w) : c.AtWord Q := hPQ _ h

theorem AtSign.atText (h : c.AtSign ss) : c.AtText := by
  obtain ⟨s, -, hs⟩ := h
  intro hc
  rw [hc, show signAt? [] = none from rfl] at hs
  cases hs

end Cursor

open Cursor

theorem needs_take {α : Type} {scan : List Char → Option (α × Nat)} {F : Cursor → Prop}
    (h : ∀ c : Cursor, ¬ F c → scan c.rest = none) : (take scan).Needs F := by
  intro c hF
  simp [Fails, take, h c hF]

theorem needs_wordIn (ws : List String) : (wordIn ws).Needs (AtWord (· ∈ ws)) :=
  needs_take fun c h => by simpa [AtWord] using h

theorem needs_keyword (w : String) : (keyword w).Needs (AtWord (· = w)) :=
  Needs.skip ((needs_wordIn [w]).mono fun _ h => h.mono fun _ => List.mem_singleton.1)

theorem needs_wordExcept (ws : List String) :
    (wordExcept ws).Needs (AtWord fun w => w ≠ "" ∧ w ∉ ws) :=
  needs_take fun c h => by
    by_cases hempty : wordAt c.rest = []
    · simp [hempty]
    · simpa [AtWord, hempty] using h

theorem needs_signIn (ss : List String) : (signIn ss).Needs (AtSign ss) :=
  needs_take fun c h => by
    cases hs : signAt? c.rest with
    | none => rfl
    | some s =>
      have hmem : s ∉ ss := fun hmem => h ⟨s, hmem, hs⟩
      simp [hmem]

theorem needs_sign (s : String) : (sign s).Needs (AtSign [s]) := Needs.skip (needs_signIn [s])

theorem needs_number : number.Needs fun c => ∃ d ∈ c.rest.head?, d.isDigit = true ∨ d = '.' :=
  needs_take fun c h => by
    have hforms : numberForms c.rest = List.replicate 7 none := by
      cases hrest : c.rest with
      | nil => rfl
      | cons d cs =>
        simp only [hrest, List.head?_cons, Option.mem_some_iff, exists_eq_left', not_or,
          Bool.not_eq_true] at h
        have hzero : d ≠ '0' := by
          rintro rfl
          exact absurd h.1 (by decide)
        simp [numberForms, tagged?, digits?, point?, h, hzero]
    rw [hforms]
    rfl

/-! ### Reading words and signs -/

section Tokens

variable {n : Nat} {levels : List Nat} {rest : List Char}

/-- A token that the scanner takes as a whole. -/
theorem reads_take {α : Type} {scan : List Char → Option (α × Nat)} {a : α} {w : List Char}
    (h : scan (w ++ rest) = some (a, w.length)) (hw : ∀ c ∈ w, IsPrintable c) :
    (take scan).Reads ⟨n, w ++ rest, levels, false⟩ a [] ⟨n, rest, levels, false⟩ := by
  simp [Reads, take, h, Cursor.advance, newlines_of_printable hw]

section Words

variable {w : String} (hw : IsWord w.toList) (hrest : EndsWord rest)
include hw hrest

theorem reads_wordExcept {ws : List String} (h : w ∉ ws) :
    (wordExcept ws).Reads ⟨n, w.toList ++ rest, levels, false⟩ w [] ⟨n, rest, levels, false⟩ := by
  refine reads_take ?_ hw.isPrintable
  have hne : w ≠ "" := by
    rintro rfl
    exact absurd hw (by decide)
  simp [hw.wordAt_append hrest, h, hne]

theorem reads_word :
    word.Reads ⟨n, w.toList ++ rest, levels, false⟩ w [] ⟨n, rest, levels, false⟩ :=
  reads_wordExcept hw hrest List.not_mem_nil

theorem reads_wordIn {ws : List String} (h : w ∈ ws) :
    (wordIn ws).Reads ⟨n, w.toList ++ rest, levels, false⟩ w [] ⟨n, rest, levels, false⟩ := by
  refine reads_take ?_ hw.isPrintable
  simp [hw.wordAt_append hrest, h]

theorem reads_keyword :
    (keyword w).Reads ⟨n, w.toList ++ rest, levels, false⟩ () [] ⟨n, rest, levels, false⟩ :=
  Reads.skip (reads_wordIn hw hrest (List.mem_singleton.2 rfl))

end Words

theorem reads_sign {s : String} {c : Char} (hs : s.toList = [c]) (hc : IsPrintable c)
    (h : signAt? (c :: rest) = some s) :
    (sign s).Reads ⟨n, c :: rest, levels, false⟩ () [] ⟨n, rest, levels, false⟩ := by
  have hlength : s.length = [c].length := by rw [← hs, String.length_toList]
  have hsign : (signIn [s]).Reads ⟨n, [c] ++ rest, levels, false⟩ s [] ⟨n, rest, levels, false⟩ :=
    reads_take (by simp [h, hlength]) (by simpa using hc)
  exact Reads.skip hsign

end Tokens

/-! ### Places -/

section Places

variable {n : Nat} {levels : List Nat} {rest : List Char} {P : String → Prop} {ss : List String}

theorem atWord_word {w : String} (hw : IsWord w.toList) (hrest : EndsWord rest) :
    AtWord P ⟨n, w.toList ++ rest, levels, false⟩ ↔ P w := by
  simp [AtWord, hw.wordAt_append hrest]

theorem not_atWord_cons {c : Char} (hc : isWordStart c = false) (hP : ¬ P "") :
    ¬ AtWord P ⟨n, c :: rest, levels, false⟩ := by
  simpa [AtWord, wordAt, hc] using hP

theorem atSign_iff {c : Cursor} {s : String} (h : signAt? c.rest = some s) :
    AtSign ss c ↔ s ∈ ss := by
  simp [AtSign, h]

/-- What names and strings begin with. -/
def isOperandStart (c : Char) : Bool := isNameStart nameMarks c || c == '"'

theorem signAt?_eq_none {c : Char} (hc : isOperandStart c = true) : signAt? (c :: rest) = none := by
  have hsigns := List.all_eq_true.1
    (by decide : signs.all (fun s => s.toList.head?.any fun d => !isOperandStart d) = true)
  rw [signAt?, List.find?_eq_none]
  intro s hs
  have hhead := hsigns s hs
  cases htext : s.toList with
  | nil => simp [htext] at hhead
  | cons d ds =>
    have hne : d ≠ c := by
      rintro rfl
      simp [htext, hc] at hhead
    simp [hne]

theorem not_atSign_word {w : List Char} (hw : IsWord w) :
    ¬ AtSign ss ⟨n, w ++ rest, levels, false⟩ := by
  obtain ⟨c, cs, rfl, hc, -⟩ := isWord_iff.1 hw
  have hsign : signAt? (c :: (cs ++ rest)) = none := signAt?_eq_none (by simp [isOperandStart, hc])
  simp [AtSign, hsign]

theorem signAt?_open : signAt? ('(' :: rest) = some "(" := rfl

theorem signAt?_close : signAt? (')' :: rest) = some ")" := rfl

theorem signAt?_comma : signAt? (',' :: rest) = some "," := rfl

theorem Break.signAt?_colon {width : Nat} (h : Break width rest) :
    signAt? (':' :: rest) = some ":" := by
  cases h <;> rfl

section Word

variable {w : List Char} (hw : IsWord w)
include hw

theorem IsWord.signAt?_dot : signAt? ('.' :: (w ++ rest)) = some "." := by
  obtain ⟨c, cs, rfl, hc, -⟩ := isWord_iff.1 hw
  have hne : '.' ≠ c := by
    rintro rfl
    exact absurd hc (by decide)
  simp [signAt?, signs, hne]

theorem IsWord.signAt?_at : signAt? ('@' :: (w ++ rest)) = some "@" := by
  obtain ⟨c, cs, rfl, hc, -⟩ := isWord_iff.1 hw
  have hne : '=' ≠ c := by
    rintro rfl
    exact absurd hc (by decide)
  simp [signAt?, signs, hne]

end Word

end Places

/-! ### Strings -/

section Strings

variable {rest : List Char}

theorem openQuote?_eq_none {flags : Flags} {k : Nat} (h : startsQuoted rest = false) :
    openQuote? flags k rest = none := by
  cases rest with
  | nil => rfl
  | cons c cs =>
    simp only [startsQuoted, Bool.or_eq_false_iff, beq_eq_false_iff_ne] at h
    simp [openQuote?, h]

theorem Flags.add_eq_none {flags : Flags} {c : Char} (h : Text.isIdentifierContinue c = false) :
    flags.add c = none := by
  unfold Flags.add
  split
  case h_9 => rfl
  all_goals exact absurd h (by decide)

/-- Letters are no flags of a string unless a quote follows. -/
theorem startFrom?_eq_none {w : List Char} (hw : ∀ c ∈ w, isNameContinue nameMarks c = true)
    (hrest : EndsWord rest) (hquote : startsQuoted rest = false) (flags : Flags) (k : Nat) :
    startFrom? flags k (w ++ rest) = none := by
  induction w generalizing flags k with
  | nil =>
    cases rest with
    | nil => rfl
    | cons c cs =>
      rw [List.nil_append, startFrom?, Flags.add_eq_none ((endsWord_cons c cs).1 hrest)]
      exact openQuote?_eq_none hquote
  | cons c cs ih =>
    rw [List.cons_append, startFrom?]
    cases flags.add c with
    | some flags => exact ih (fun d hd => hw d (List.mem_cons_of_mem c hd)) flags (k + 1)
    | none =>
      refine openQuote?_eq_none ?_
      have hne : ∀ d, isNameContinue nameMarks d = false → c ≠ d := by
        rintro d hd rfl
        simp [hw c List.mem_cons_self] at hd
      simp [startsQuoted, hne '"' (by decide), hne '\'' (by decide), hne '`' (by decide)]

theorem stringStart?_word {w : List Char} (hw : IsWord w) (hrest : EndsWord rest)
    (hquote : startsQuoted rest = false) : stringStart? (w ++ rest) = none := by
  obtain ⟨c, cs, rfl, hc, hcs⟩ := isWord_iff.1 hw
  refine startFrom?_eq_none (fun d hd => ?_) hrest hquote _ _
  rcases List.mem_cons.1 hd with rfl | hd
  · exact isNameContinue_of_isNameStart hc
  · exact hcs d hd

/-- The delimiter of a string that is written between double quotes. -/
def plainQuote : Delimiter := ⟨'"', false, false, false, false⟩

theorem stringStart?_quoted (p : PathText) (hrest : rest.head? ≠ some '"') :
    stringStart? (p.quoted.toList ++ rest) = some (plainQuote, 1) := by
  -- Two quotes with a third behind them would open a long string.
  have hlong : ['"', '"'].isPrefixOf (p.text.toList ++ '"' :: rest) = false := by
    cases htext : p.text.toList with
    | nil =>
      cases rest with
      | nil => rfl
      | cons c cs =>
        have hc : '"' ≠ c := fun heq => hrest (heq ▸ rfl)
        simp [List.isPrefixOf, hc]
    | cons c cs =>
      have hc : '"' ≠ c := (p.isPathChar_of_mem (htext ▸ List.mem_cons_self)).2.1.symm
      simp [List.isPrefixOf, hc]
  rw [p.toList_quoted]
  simp [stringStart?, startFrom?, Flags.add, openQuote?, hlong, plainQuote]

theorem contentFrom?_cons {c : Char} (hc : IsPrintable c ∧ c ≠ '"' ∧ c ≠ '\\') (filled : Bool) :
    contentFrom? plainQuote filled (c :: rest) = contentFrom? plainQuote true rest := by
  have hne : ∀ d, ¬ IsPrintable d → c ≠ d := by
    rintro d hd rfl
    exact hd hc.1
  rw [contentFrom?.eq_def]
  simp [plainQuote, hc.2, hne '\x00' (by decide), hne '\n' (by decide)]

theorem contentFrom?_quote (filled : Bool) :
    contentFrom? plainQuote filled ('"' :: rest) =
      if filled then some (.content, '"' :: rest) else some (.stop, rest) := by
  rw [contentFrom?.eq_def]
  simp [plainQuote]

theorem contentFrom?_path {cs : List Char} (hcs : ∀ c ∈ cs, IsPrintable c ∧ c ≠ '"' ∧ c ≠ '\\') :
    contentFrom? plainQuote true (cs ++ '"' :: rest) = some (.content, '"' :: rest) := by
  induction cs with
  | nil => exact contentFrom?_quote true
  | cons c cs ih =>
    rw [List.cons_append, contentFrom?_cons (hcs c List.mem_cons_self)]
    exact ih fun d hd => hcs d (List.mem_cons_of_mem c hd)

end Strings

theorem reads_withText {α : Type} {p : PythonRule α} {a : α} {n m : Nat} {levels : List Nat}
    {w rest : List Char}
    (h : p.Reads ⟨n, w ++ rest, levels, false⟩ a [] ⟨m, rest, levels, false⟩) :
    (withText p).Reads ⟨n, w ++ rest, levels, false⟩ (a, String.ofList w) []
      ⟨m, rest, levels, false⟩ := by
  have htext : Cursor.textUpTo ⟨n, w ++ rest, levels, false⟩ ⟨m, rest, levels, false⟩ =
      String.ofList w := by
    simp [Cursor.textUpTo]
  rw [← htext]
  exact Reads.next (Rule.reads_place _) (Reads.next h (Reads.next (Rule.reads_place _)
    (Rule.reads_pure _ _)))

namespace Grammar

variable {g : Grammar} {n : Nat} {levels : List Nat} {rest : List Char}

theorem reads_stringPiece_content {cs : List Char} (hne : cs ≠ [])
    (hcs : ∀ c ∈ cs, IsPrintable c ∧ c ≠ '"' ∧ c ≠ '\\') :
    (g.stringPiece plainQuote ⟨[], false, false⟩).Reads ⟨n, cs ++ '"' :: rest, levels, false⟩
      ⟨cs, false, false⟩ [] ⟨n, '"' :: rest, levels, false⟩ := by
  have hcontent : contentFrom? plainQuote false (cs ++ '"' :: rest) =
      some (.content, '"' :: rest) := by
    cases cs with
    | nil => exact absurd rfl hne
    | cons c cs =>
      rw [List.cons_append, contentFrom?_cons (hcs c List.mem_cons_self)]
      exact contentFrom?_path fun d hd => hcs d (List.mem_cons_of_mem c hd)
  have htake : (take fun cs => (contentFrom? plainQuote false cs).map fun r =>
      (r.1, cs.length - r.2.length)).Reads ⟨n, cs ++ '"' :: rest, levels, false⟩ .content []
      ⟨n, '"' :: rest, levels, false⟩ :=
    reads_take (by simp [hcontent]) fun c hc => (hcs c hc).1
  have hadd : StringState.add ⟨[], false, false⟩ (String.ofList cs) = ⟨cs, false, false⟩ := by
    simp [StringState.add]
  rw [← hadd]
  refine Reads.next (Rule.reads_require rfl) ?_
  refine Fails.firstOf_reads (Fails.bind (Rule.fails_require rfl)) (Reads.firstOf ?_)
  exact Reads.next (reads_withText htake) (Rule.reads_pure _ _)

theorem reads_stringPiece_stop (content : List Char) :
    (g.stringPiece plainQuote ⟨content, false, false⟩).Reads ⟨n, '"' :: rest, levels, false⟩
      ⟨content, false, true⟩ [] ⟨n, rest, levels, false⟩ := by
  have htake : (take fun cs => (contentFrom? plainQuote false cs).map fun r =>
      (r.1, cs.length - r.2.length)).Reads ⟨n, ['"'] ++ rest, levels, false⟩ .stop []
      ⟨n, rest, levels, false⟩ :=
    reads_take (by simp [contentFrom?_quote]) (by simp; decide)
  have hpiece := reads_withText htake
  rw [List.singleton_append] at hpiece
  refine Reads.next (Rule.reads_require rfl) ?_
  refine Fails.firstOf_reads (Fails.bind (Rule.fails_require rfl)) (Reads.firstOf ?_)
  exact Reads.next hpiece (Rule.reads_pure _ _)

/-- A path is read as content and a quote, or as the quote alone if it is empty. -/
theorem reads_stringPieces {cs : List Char} (hcs : ∀ c ∈ cs, IsPrintable c ∧ c ≠ '"' ∧ c ≠ '\\') :
    (Rule.extend (g.stringPiece plainQuote) ⟨[], false, false⟩).Reads
      ⟨n, cs ++ '"' :: rest, levels, false⟩ ⟨cs, false, true⟩ [] ⟨n, rest, levels, false⟩ := by
  have hstop : (Rule.extend (g.stringPiece plainQuote) ⟨cs, false, false⟩).Reads
      ⟨n, '"' :: rest, levels, false⟩ ⟨cs, false, true⟩ [] ⟨n, rest, levels, false⟩ :=
    Reads.extend (reads_stringPiece_stop cs) (Nat.lt_succ_self _)
      (Rule.reads_extend_stop (Fails.bind (Rule.fails_require rfl)))
  by_cases hne : cs = []
  · subst hne
    exact hstop
  · refine Reads.extend (reads_stringPiece_content hne hcs) ?_ hstop
    have hlt := List.length_pos_iff.2 hne
    simp only [Place.size, List.length_cons, List.length_append]
    omega

theorem reads_stringLiteral (p : PathText) (hrest : rest.head? ≠ some '"') :
    g.stringLiteral.Reads ⟨n, p.quoted.toList ++ rest, levels, false⟩ (some p.text) []
      ⟨n, rest, levels, false⟩ := by
  have htext : p.quoted.toList ++ rest = ['"'] ++ (p.text.toList ++ '"' :: rest) := by
    simp [p.toList_quoted]
  have hstart : (take stringStart?).Reads ⟨n, p.quoted.toList ++ rest, levels, false⟩ plainQuote []
      ⟨n, p.text.toList ++ '"' :: rest, levels, false⟩ := by
    have h := stringStart?_quoted p hrest
    rw [htext] at h ⊢
    exact reads_take h (by simp; decide)
  have hpieces : (Rule.extend (g.stringPiece plainQuote) ⟨[], false, false⟩).Reads
      ⟨n, p.text.toList ++ '"' :: rest, levels, false⟩ ⟨p.text.toList, false, true⟩ []
      ⟨n, rest, levels, false⟩ :=
    reads_stringPieces fun c hc => p.isPathChar_of_mem hc
  have hvalue : some p.text = some (String.ofList p.text.toList) := by rw [String.ofList_toList]
  rw [hvalue]
  exact Reads.next hstart (Reads.next rfl (Reads.next hpieces (Reads.next (Rule.reads_require rfl)
    (Reads.next rfl (Rule.reads_pure _ _)))))

end Grammar

end ServiceAtlas.Python
