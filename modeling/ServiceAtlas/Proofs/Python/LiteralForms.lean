import ServiceAtlas.Outline.Extraction
import ServiceAtlas.Proofs.Python.ExpressionLayers
import ServiceAtlas.Proofs.Python.StringSpelling

/-!
Literals among the arguments of a call. A literal is a number, a word that stands for a value, or
adjacent strings of which no part is computed (`Literal`). An argument is read as a literal just if its
whole text is one (`Grammar.value_of_argument`): a literal begins with nothing that may stand before
an operand, and where more follows it, that belongs to the argument too.
-/

namespace ServiceAtlas.Python

open Rule (Spans Fails Runs Extends)
open Cursor Grammar

/-! ### Literals -/

/-- From `c` to `c'` stands a string of this content, no part of which is computed. -/
structure IsString (c : Cursor) (content : String) (c' : Cursor) : Prop where
  read : nothing.stringLiteral.Spans c (some content) c'
  quoted : Quoted content.toList c.rest c'.rest

/-- From `c` to `c'` stand strings with nothing but blanks before each of them. -/
inductive StringRun : Cursor → List String → Cursor → Prop
  | nil (c : Cursor) : StringRun c [] c
  | cons {content : String} {contents : List String} {c c₁ c₂ c' : Cursor}
      (blanks : (fetch Follow.bracket.more).Spans c () c₁) (isString : IsString c₁ content c₂)
      (others : StringRun c₂ contents c') : StringRun c (content :: contents) c'

/-- From `c` to `c'` stands a literal: adjacent strings, by their contents, or a number or a word, as it
is written. -/
inductive Literal : Cursor → List String → Cursor → Prop
  | strings {content : String} {contents : List String} {c c₁ c' : Cursor}
      (isString : IsString c content c₁) (others : StringRun c₁ contents c') :
      Literal c (content :: contents) c'
  | number {text : String} {c c' : Cursor} (read : number.Spans c text c')
      (written : text.toList ++ c'.rest = c.rest) : Literal c [text] c'
  | word {text : String} {c c' : Cursor} (read : (wordIn constantWords).Spans c text c')
      (written : text.toList ++ c'.rest = c.rest) : Literal c [text] c'

theorem Quoted.length_lt {content cs rest : List Char} (h : Quoted content cs rest) :
    rest.length < cs.length := by
  obtain ⟨letters, marks, ending, -, hmarks, -, rfl⟩ := h
  have hne : marks ≠ [] := by
    rintro rfl
    exact absurd hmarks (by decide)
  have hpos := List.length_pos_iff.2 hne
  simp
  omega

theorem isString_of_stringLiteral {g : Grammar} (hg : g.Computes) {c c' : Cursor} {content : String}
    (h : g.stringLiteral.Spans c (some content) c') : IsString c content c' := by
  have hread := (spans_stringLiteral_some_iff hg).1 h
  exact ⟨hread, quoted_of_stringLiteral hread⟩

/-! ### How literals begin -/

/-- The text begins as a string does: with letters, if with any word, and then with a quote. -/
def OpensString (cs : List Char) : Prop :=
  (∀ l ∈ wordAt cs, l ∈ stringLetters) ∧ startsQuoted (cs.drop (wordAt cs).length) = true

/-- The text begins as a number does. -/
def OpensNumber (cs : List Char) : Prop := ∃ d ∈ cs.head?, d.isDigit = true ∨ d = '.'

theorem exists_quote {cs : List Char} (h : startsQuoted cs = true) :
    ∃ q rest, cs = q :: rest ∧ (q = '"' ∨ q = '\'' ∨ q = '`') := by
  match cs, h with
  | q :: rest, h => exact ⟨q, rest, rfl, by simpa [startsQuoted, or_assoc] using h⟩

theorem settled_of_startsQuoted {cs : List Char} (h : startsQuoted cs = true) : Settled cs := by
  obtain ⟨q, rest, rfl, hq⟩ := exists_quote h
  have hne : isGap q = false ∧ q ≠ '#' ∧ q ≠ '\\' := by rcases hq with rfl | rfl | rfl <;> decide
  exact ⟨by simpa using hne.1, comment_cons hne.2.1 rest, continuation_cons hne.2.2 rest⟩

theorem wordAt_letters {letters cs : List Char} (hletters : ∀ l ∈ letters, l ∈ stringLetters)
    (hcs : startsQuoted cs = true) : wordAt (letters ++ cs) = letters := by
  obtain ⟨q, rest, rfl, hq⟩ := exists_quote hcs
  have hstart : isWordStart q = false := by rcases hq with rfl | rfl | rfl <;> decide
  have hcontinue : Text.isIdentifierContinue q = false := by
    rcases hq with rfl | rfl | rfl <;> decide
  cases letters with
  | nil => simp [wordAt, hstart]
  | cons l letters =>
    have hword : IsWord (l :: letters) := by
      have hnames := List.all_eq_true.1 (by decide : stringLetters.all (isNameStart nameMarks) = true)
      refine isWord_iff.2 ⟨l, letters, rfl, hnames l (hletters l List.mem_cons_self), fun d hd => ?_⟩
      exact isNameContinue_of_isNameStart (hnames d (hletters d (List.mem_cons_of_mem l hd)))
    exact hword.wordAt_append ((endsWord_cons q rest).2 hcontinue)

theorem startsQuoted_of_quoteMarks {marks : List Char} (h : String.ofList marks ∈ quoteMarks)
    (cs : List Char) : startsQuoted (marks ++ cs) = true := by
  have hall := List.all_eq_true.1 (by decide : quoteMarks.all (startsQuoted ·.toList) = true)
  have hmarks := hall _ h
  rw [String.toList_ofList] at hmarks
  cases marks with
  | nil => cases hmarks
  | cons q marks => exact hmarks

theorem opensString_of_stringLiteral {g : Grammar} {c c' : Cursor} {s : StringContent}
    (h : g.stringLiteral.Spans c s c') : OpensString c.rest := by
  obtain ⟨d, c₁, hstart, -⟩ := Rule.spans_bind_iff.1 h
  obtain ⟨n, hscan, -⟩ := spans_take_iff.1 hstart
  obtain ⟨letters, rest, hrest, -, hletters, hmarks, -⟩ := startFrom?_eq_some hscan
  have hquoted := startsQuoted_of_quoteMarks hmarks rest
  rw [hrest, List.append_assoc, OpensString, wordAt_letters hletters hquoted]
  exact ⟨hletters, by rw [List.drop_left]; exact hquoted⟩

/-- No string begins with a word that has other letters in it. -/
theorem not_opensString_of_mem {ws : List String} {cs : List Char}
    (hws : ws.all (fun w => w.toList.any (· ∉ stringLetters)) = true)
    (h : String.ofList (wordAt cs) ∈ ws) : ¬ OpensString cs := by
  obtain ⟨l, hl, hnot⟩ := List.any_eq_true.1 (List.all_eq_true.1 hws _ h)
  rw [String.toList_ofList] at hl
  intro hopens
  exact absurd (hopens.1 l hl) (by simpa using hnot)

theorem OpensNumber.wordAt {cs : List Char} (h : OpensNumber cs) : wordAt cs = [] := by
  obtain ⟨d, hd, hdigit⟩ := h
  obtain ⟨rest, rfl⟩ := List.head?_eq_some_iff.1 hd
  have hstart : isWordStart d = false := by
    rcases hdigit with hdigit | rfl
    · have hrange := isDigit_iff.1 hdigit
      have halpha : d.isAlpha = false := by
        rw [Bool.eq_false_iff, ne_eq, isAlpha_iff]
        omega
      have hne : d ≠ '_' := by
        rintro rfl
        exact absurd hdigit (by decide)
      have hlow : ¬ 128 ≤ d.toNat := by omega
      simp [isWordStart, Text.isIdentifierStart, halpha, hne, hlow]
    · decide
  simp [Python.wordAt, hstart]

/-- No number begins as a string does. -/
theorem OpensNumber.not_opensString {cs : List Char} (h : OpensNumber cs) : ¬ OpensString cs := by
  rintro ⟨-, hquoted⟩
  rw [h.wordAt] at hquoted
  obtain ⟨d, hd, hdigit⟩ := h
  obtain ⟨rest, rfl⟩ := List.head?_eq_some_iff.1 hd
  obtain ⟨q, _, heq, hq⟩ := exists_quote hquoted
  obtain ⟨rfl, -⟩ := List.cons.inj heq
  rcases hq with rfl | rfl | rfl <;> exact absurd hdigit (by decide)

/-- What a text begins with when a literal stands there. -/
inductive OpensLiteral (cs : List Char) : Prop
  | string (opens : OpensString cs)
  | number (opens : OpensNumber cs)
  | word (isWord : String.ofList (wordAt cs) ∈ constantWords)

theorem Literal.opens {c c' : Cursor} {parts : List String} (h : Literal c parts c') :
    OpensLiteral c.rest := by
  cases h with
  | strings isString _ => exact .string (opensString_of_stringLiteral isString.read)
  | number read _ => exact .number (read.needed needs_number)
  | word read _ => exact .word (read.needed (needs_wordIn _))

/-- The words that may stand before an operand begin no literal. -/
theorem OpensLiteral.not_atWord {c : Cursor} (h : OpensLiteral c.rest) :
    ¬ AtWord (· ∈ ["not", "lambda", "await"]) c := by
  intro hword
  rw [AtWord] at hword
  cases h with
  | string opens => exact not_opensString_of_mem (by decide) hword opens
  | number opens =>
    rw [opens.wordAt] at hword
    exact absurd hword (by decide)
  | word isWord =>
    have hall := List.all_eq_true.1 (by decide : constantWords.all
      (· ∉ (["not", "lambda", "await"] : List String)) = true)
    exact absurd hword (by simpa using hall _ isWord)

/-- A character that a literal may begin with. -/
def isLiteralStart (x : Char) : Bool :=
  isWordStart x || x.isDigit || x == '.' || x == '"' || x == '\'' || x == '`'

theorem OpensLiteral.head {x : Char} {cs : List Char} (h : OpensLiteral (x :: cs)) :
    isLiteralStart x = true := by
  by_cases hx : isWordStart x = true
  · simp [isLiteralStart, hx]
  · have hword : wordAt (x :: cs) = [] := by simp [wordAt, hx]
    cases h with
    | string opens =>
      obtain ⟨q, _, heq, hq⟩ := exists_quote (hword ▸ opens.2)
      obtain ⟨rfl, -⟩ := List.cons.inj heq
      rcases hq with rfl | rfl | rfl <;> decide
    | number opens =>
      obtain ⟨d, hd, hdigit⟩ := opens
      cases hd
      rcases hdigit with hdigit | rfl
      · simp [isLiteralStart, hdigit]
      · decide
    | word isWord => exact absurd (hword ▸ isWord) (by decide)

/-- Nor do the signs. -/
theorem OpensLiteral.not_atSign {c : Cursor} (h : OpensLiteral c.rest) :
    ¬ AtSign ["+", "-", "~", "*"] c := by
  intro hsign
  obtain ⟨s, hs, -, rest, hrest⟩ := isPrefix_of_atSign hsign
  rw [← hrest] at h
  simp only [List.mem_cons, List.not_mem_nil, or_false] at hs
  rcases hs with rfl | rfl | rfl | rfl <;> exact absurd h.head (by decide)

/-- What begins as a literal is no name that is given a value. -/
theorem OpensLiteral.not_named {f : Follow} {c c₁ c₂ : Cursor} {w : String} (h : OpensLiteral c.rest)
    (hword : (wordExcept operandWords).Spans c w c₁) : ¬ (mark f.after ":=").Spans c₁ () c₂ := by
  obtain ⟨rfl, hne, hnot, hrest⟩ := wordExcept_eq hword
  intro hmark
  cases h with
  | string opens =>
    obtain ⟨_, c₃, hblanks, hsign⟩ := Rule.spans_bind_iff.1 hmark
    have hquoted : startsQuoted c₁.rest = true := hrest ▸ opens.2
    obtain rfl := fetch_of_settled (settled_of_startsQuoted hquoted) hblanks
    obtain ⟨s, hs, -, rest, hcolon⟩ := isPrefix_of_atSign (hsign.needed (needs_sign _))
    obtain rfl := List.mem_singleton.1 hs
    rw [← hcolon] at hquoted
    cases hquoted
  | number opens =>
    rw [opens.wordAt] at hne
    exact hne rfl
  | word isWord =>
    have hall := List.all_eq_true.1 (by decide : constantWords.all (· ∈ operandWords) = true)
    exact hnot (by simpa using hall _ isWord)

theorem OpensLiteral.not_prefixed {f : Follow} {c : Cursor} (h : OpensLiteral c.rest) :
    ¬ Prefixed f c := by
  rintro (hsign | hword | ⟨w, c₁, c₂, hword, hmark⟩)
  · exact h.not_atSign hsign
  · exact h.not_atWord hword
  · exact h.not_named hword hmark

/-! ### Strings one after the other -/

theorem stringRun_of_runs {g : Grammar} (hg : g.Computes) {c c' : Cursor} {ss : List StringContent}
    (h : Runs (g.nextString .bracket) c ss c') (hs : ss.all Option.isSome = true) :
    ∃ contents, ss = contents.map some ∧ StringRun c contents c' := by
  induction h with
  | nil c => exact ⟨[], rfl, .nil c⟩
  | @cons s ss c c₂ c' head _ _ ih =>
    obtain ⟨hsome, hall⟩ : s.isSome = true ∧ ss.all Option.isSome = true := by simpa using hs
    obtain ⟨contents, rfl, hrun⟩ := ih hall
    obtain ⟨content, rfl⟩ := Option.isSome_iff_exists.1 hsome
    obtain ⟨_, c₁, hblanks, hread⟩ := Rule.spans_bind_iff.1 head
    exact ⟨content :: contents, rfl, .cons hblanks (isString_of_stringLiteral hg hread) hrun⟩

/-- Strings that reach as far as the strings read there are those strings. -/
theorem StringRun.eq_of_many {g : Grammar} (hg : g.Computes) {c c' c₂ : Cursor}
    {contents : List String} {ss : List StringContent} (h : StringRun c contents c')
    (hmany : (g.nextString .bracket).many.Spans c ss c₂) (hle : Place.size c' ≤ Place.size c₂) :
    ss = contents.map some ∧ c₂ = c' := by
  induction h generalizing ss with
  | nil c =>
    cases hmany.many_runs with
    | nil => exact ⟨rfl, rfl⟩
    | cons head moves tail =>
      have htail := tail.size_le
      omega
  | @cons content contents c c₁ c₂' c' blanks isString _ ih =>
    have hread : (g.nextString .bracket).Spans c (some content) c₂' :=
      Rule.spans_bind_iff.2 ⟨(), c₁, blanks, (spans_stringLiteral_some_iff hg).2 isString.read⟩
    have hmoves : Place.size c₂' < Place.size c :=
      Nat.lt_of_lt_of_le isString.quoted.length_lt blanks.size_le
    obtain ⟨ss', rfl, hrest⟩ := hmany.many_of_head hread hmoves
    obtain ⟨rfl, hend⟩ := ih hrest hle
    exact ⟨rfl, hend⟩

/-! ### Arguments -/

section Argument

variable {depth : Nat} {c c' : Cursor} {e : Expr} {parts : List String}

/-- What an expression is whose text is the literal. -/
def IsLiteralExpr (parts : List String) (e : Expr) : Prop :=
  e = .strings (parts.map some) ∨ ∃ text, parts = [text] ∧ e = .constant text

theorem Literal.eq_of_atomic {c₂ : Cursor} (h : Literal c parts c')
    (hatom : Atomic (nested depth) .bracket c e c₂) (hle : Place.size c' ≤ Place.size c₂) :
    c₂ = c' ∧ IsLiteralExpr parts e := by
  cases h with
  | @strings content contents _ c₁ _ isString others =>
    have hread := (spans_stringLiteral_some_iff (computes_nested depth)).2 isString.read
    cases hatom with
    | strings first rest =>
      obtain ⟨rfl, rfl⟩ := first.unique hread
      obtain ⟨rfl, hend⟩ := others.eq_of_many (computes_nested depth) rest hle
      exact ⟨hend, .inl rfl⟩
    | number noString _ | word noString _ _ | another noString _ _ _ =>
      exact absurd hread noString.not_spans
  | number read _ =>
    cases hatom with
    | strings first _ =>
      exact absurd (opensString_of_stringLiteral first)
        (OpensNumber.not_opensString (read.needed needs_number))
    | number _ read' =>
      obtain ⟨rfl, rfl⟩ := read'.unique read
      exact ⟨rfl, .inr ⟨_, rfl, rfl⟩⟩
    | word _ noNumber _ | another _ noNumber _ _ => exact absurd read noNumber.not_spans
  | word read _ =>
    have hword : String.ofList (wordAt c.rest) ∈ constantWords := read.needed (needs_wordIn _)
    have hne : wordAt c.rest ≠ [] := by
      intro hnil
      exact absurd (hnil ▸ hword) (by decide)
    cases hatom with
    | strings first _ =>
      exact absurd (opensString_of_stringLiteral first) (not_opensString_of_mem (by decide) hword)
    | number _ read' => exact absurd (OpensNumber.wordAt (read'.needed needs_number)) hne
    | word _ _ read' =>
      obtain ⟨rfl, rfl⟩ := read'.unique read
      exact ⟨rfl, .inr ⟨_, rfl, rfl⟩⟩
    | another _ _ noWord _ =>
      rcases noWord with hfails | hdots
      · exact absurd read hfails.not_spans
      · obtain ⟨s, hs, -, rest, hrest⟩ := isPrefix_of_atSign hdots
        obtain rfl := List.mem_singleton.1 hs
        rw [← hrest] at hne
        exact absurd rfl hne

/-- An expression whose text is a literal is read as that literal. -/
theorem Literal.eq_of_layered (h : Literal c parts c') (hlayered : Layered .bracket c e c') :
    IsLiteralExpr parts e := by
  -- the operand reaches as far as the literal, so that neither trailers nor operators follow
  have hoperand : ∀ {depth o c₁}, ((nested depth).operand .bracket).Spans c o c₁ →
      Place.size c' ≤ Place.size c₁ → c₁ = c' ∧ IsLiteralExpr parts o.expr := by
    intro depth o c₁ hread hle
    obtain ⟨e₀, c₂, named, hatom, hsteps⟩ := operand_steps hread
    have hend : Place.size c₁ ≤ Place.size c₂ := Rule.size_le_of_extends hsteps
    obtain ⟨rfl, hexpr⟩ := h.eq_of_atomic (atomic_of_atom hatom) (Nat.le_trans hle hend)
    rcases hsteps.cases_head with heq | ⟨x, hfirst, hrest⟩
    · cases heq
      exact ⟨rfl, hexpr⟩
    · have hfirst : Place.size x.2 < Place.size c₂ := hfirst.2
      have hrest : Place.size c₁ ≤ Place.size x.2 := Rule.size_le_of_extends hrest
      omega
  cases hlayered with
  | front isPrefixed _ => exact absurd isPrefixed h.opens.not_prefixed
  | operand read => exact (hoperand read (Nat.le_refl _)).2
  | beyond read longer =>
    obtain ⟨rfl, -⟩ := hoperand read (Nat.le_of_lt longer)
    exact absurd longer (Nat.lt_irrefl _)

theorem Grammar.Trails.argument {g : Grammar} {f : Follow} {o : Operand} (h : Trails g f o c e c') :
    e.argument = .other := by
  cases h <;> rfl

/-- What is read as a literal is one. -/
theorem exists_literal (h : Layered .bracket c e c')
    (he : (∃ ss, e = .strings ss ∧ ss.all Option.isSome = true) ∨ ∃ text, e = .constant text) :
    ∃ parts, Literal c parts c' := by
  have hargument : e.argument ≠ .other := by
    rcases he with ⟨ss, rfl, -⟩ | ⟨text, rfl⟩ <;> exact Argument.noConfusion
  have hopaque : e.isOpaque = false := by rcases he with ⟨ss, rfl, -⟩ | ⟨text, rfl⟩ <;> rfl
  obtain ⟨depth, o, hread, rfl⟩ := h.exists_operand hopaque
  obtain ⟨e₀, c₁, named, hatom, hsteps⟩ := operand_steps hread
  rcases hsteps.cases_tail with heq | ⟨x, -, hlast⟩
  · cases heq
    cases atomic_of_atom hatom with
    | @strings s ss c₁ _ first others =>
      obtain ⟨hsome, hall⟩ : s.isSome = true ∧ ss.all Option.isSome = true := by
        rcases he with ⟨_, heq, hall⟩ | ⟨text, heq⟩
        · cases heq
          simpa using hall
        · cases heq
      obtain ⟨content, rfl⟩ := Option.isSome_iff_exists.1 hsome
      obtain ⟨contents, -, hrun⟩ := stringRun_of_runs (computes_nested depth) others.many_runs hall
      exact ⟨_, .strings (isString_of_stringLiteral (computes_nested depth) first) hrun⟩
    | number _ read => exact ⟨_, .number read (text_of_number read)⟩
    | word _ _ read => exact ⟨_, .word read (text_of_wordIn read)⟩
    | another _ _ _ isOther =>
      rcases isOther with rfl | ⟨w, rfl⟩ | ⟨target, rfl⟩ <;> exact absurd rfl hargument
  · exact absurd (trails_of_trailer hlast.1).argument hargument

/-- An argument has the value of the literal that it is, and is empty if it is none. -/
theorem value_of_argument (source : SourceText) (hc : Settled c.rest)
    (h : ((nested depth).value .bracket).Spans c e c') :
    (∃ parts, Literal c parts c' ∧
      e.argument.value source = String.join (parts.map source.piece)) ∨
    (¬ ∃ parts, Literal c parts c') ∧ e.argument.value source = "" := by
  obtain ⟨c₀, hblanks, hlayered⟩ := layered_expression h
  obtain rfl := fetch_of_settled hc hblanks
  by_cases hliteral : ∃ parts, Literal c₀ parts c'
  · obtain ⟨parts, hliteral⟩ := hliteral
    refine .inl ⟨parts, hliteral, ?_⟩
    rcases hliteral.eq_of_layered hlayered with rfl | ⟨text, rfl, rfl⟩
    · simp [Expr.argument, Argument.value, Function.comp_def]
    · simp [Expr.argument, Argument.value, String.join]
  · refine .inr ⟨hliteral, ?_⟩
    cases e with
    | strings ss =>
      have hnone : ¬ ss.all Option.isSome = true := fun hall =>
        hliteral (exists_literal hlayered (.inl ⟨ss, rfl, hall⟩))
      rw [Expr.argument, Argument.value, if_neg hnone]
    | constant text => exact absurd (exists_literal hlayered (.inr ⟨text, rfl⟩)) hliteral
    | _ => rfl

end Argument

end ServiceAtlas.Python
