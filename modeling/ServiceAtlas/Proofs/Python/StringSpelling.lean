import ServiceAtlas.Proofs.Python.TokenSpans

/-!
How a string literal is spelled. A literal with no computed part is read without any help of the
grammar (`Grammar.spans_stringLiteral_some_iff`), and its content is the text between its quotes
(`Quoted`). In a raw string the characters that backslashes protect right before the closing quotes
are no content.
-/

namespace ServiceAtlas.Rule

variable {σ δ α : Type} [Place σ] {step step' : α → Rule σ δ α} {s s' : σ} {a b : α}

/-- Steps that lead to what is good are steps of another kind too, so whatever good value cannot be
extended is reached by the other steps as well. -/
theorem Spans.extend_congr {good : α → Prop}
    (hstep : ∀ {a b s s'}, (step a).Spans s b s' → good b → good a ∧ (step' a).Spans s b s')
    (hfails : ∀ s, (step b).Fails s ∧ (step' b).Fails s) (hb : good b)
    (h : (Rule.extend step a).Spans s b s') : good a ∧ (Rule.extend step' a).Spans s b s' := by
  obtain ⟨ds, h⟩ := h
  obtain ⟨hvalue, -, rfl⟩ := Reading.mk.inj (Option.some.inj h)
  clear h
  fun_induction extendFrom step a s with
  | case1 a s hnone =>
    obtain rfl : a = b := hvalue
    exact ⟨hb, [], reads_extend_stop (hfails s).2⟩
  | case2 a s r hr hlt t ih =>
    obtain ⟨hgood, es, hrest⟩ := ih hvalue
    obtain ⟨hgood', fs, hr'⟩ := hstep ⟨r.found, hr⟩ hgood
    exact ⟨hgood', fs ++ es, hr'.extend hlt hrest⟩
  | case3 a s r hr hlt =>
    obtain rfl : a = b := hvalue
    exact absurd ⟨r.found, hr⟩ (hfails s).1.not_spans

end ServiceAtlas.Rule

namespace ServiceAtlas.Python

open Rule (Spans Fails Needs Extends)
open Cursor

/-! ### Letters and quotes -/

/-- The letters that may stand before the opening quotes. -/
def stringLetters : List Char := ['f', 'F', 'r', 'R', 'b', 'B', 'u', 'U']

/-- The quotes that may stand at both ends. -/
def quoteMarks : List String := ["\"", "'", "`", "\"\"\"", "'''"]

/-- The quotes at either end of the literal. -/
def Delimiter.marks (d : Delimiter) : List Char :=
  if d.triple then [d.quote, d.quote, d.quote] else [d.quote]

theorem Delimiter.quote_mem_marks (d : Delimiter) : d.quote ∈ d.marks := by
  rw [marks]
  split <;> exact List.mem_cons_self

theorem Flags.of_add_eq_some {flags flags' : Flags} {c : Char} (h : flags.add c = some flags') :
    c ∈ stringLetters ∧ (flags'.raw = true → flags.raw = true ∨ c = 'r' ∨ c = 'R') := by
  unfold Flags.add at h
  split at h <;> cases h <;> exact ⟨by decide, by simp⟩

theorem openQuote?_eq_some {flags : Flags} {n m : Nat} {cs : List Char} {d : Delimiter}
    (h : openQuote? flags n cs = some (d, m)) :
    d.raw = flags.raw ∧ String.ofList d.marks ∈ quoteMarks ∧ m = n + d.marks.length ∧
      d.marks <+: cs := by
  unfold openQuote? at h
  split at h
  · cases h
    exact ⟨rfl, by simp [Delimiter.marks, quoteMarks], rfl, by simp [Delimiter.marks]⟩
  · rename_i c cs _
    split at h
    · rename_i hquote
      cases h
      refine ⟨rfl, ?_, ?_, ?_⟩
      · simp only [Delimiter.marks]
        rcases (by simpa using hquote : c = '\'' ∨ c = '"') with rfl | rfl <;> split <;> decide
      · simp only [Delimiter.marks]
        split <;> rfl
      · simp only [Delimiter.marks]
        split
        · rename_i htriple
          exact List.cons_prefix_cons.2 ⟨rfl, List.isPrefixOf_iff_prefix.1 htriple⟩
        · simp
    · cases h
  · cases h

/-- A literal begins with letters and quotes. -/
theorem startFrom?_eq_some {flags : Flags} {n m : Nat} {cs : List Char} {d : Delimiter}
    (h : startFrom? flags n cs = some (d, m)) : ∃ letters rest,
      cs = letters ++ d.marks ++ rest ∧ m = n + letters.length + d.marks.length ∧
      (∀ l ∈ letters, l ∈ stringLetters) ∧ String.ofList d.marks ∈ quoteMarks ∧
      (d.raw = true → flags.raw = true ∨ 'r' ∈ letters ∨ 'R' ∈ letters) := by
  induction cs generalizing flags n with
  | nil => cases h
  | cons c cs ih =>
    rw [startFrom?] at h
    split at h
    · rename_i flags' hadd
      obtain ⟨letters, rest, rfl, rfl, hletters, hmarks, hraw⟩ := ih h
      obtain ⟨hmem, hflag⟩ := Flags.of_add_eq_some hadd
      refine ⟨c :: letters, rest, rfl, by simp; omega, by simpa using ⟨hmem, hletters⟩, hmarks, ?_⟩
      intro hd
      rcases hraw hd with h | h | h
      · rcases hflag h with h | rfl | rfl <;> simp [h]
      · simp [h]
      · simp [h]
    · obtain ⟨hraw, hmarks, rfl, rest, hrest⟩ := openQuote?_eq_some h
      exact ⟨[], rest, hrest.symm, rfl, by simp, hmarks, fun hd => .inl (hraw ▸ hd)⟩

/-! ### Content -/

/-- What a backslash may protect in a raw string, and the backslash. -/
def protectedChars (quote : Char) : List Char := ['\\', quote, '\r', '\n']

theorem afterRawBackslash_eq (quote : Char) (cs : List Char) :
    ∃ dropped, cs = dropped ++ afterRawBackslash quote cs ∧
      ∀ c ∈ dropped, c ∈ protectedChars quote := by
  have hquoted : ∃ dropped, cs = dropped ++ dropProtected quote cs ∧
      ∀ c ∈ dropped, c ∈ protectedChars quote := by
    unfold dropProtected
    split
    · split
      · rename_i c rest h
        exact ⟨[c], rfl, by
          rcases (by simpa using h : c = quote ∨ c = '\\') with rfl | rfl <;> simp [protectedChars]⟩
      · exact ⟨[], rfl, by simp⟩
    · exact ⟨[], rfl, by simp⟩
  have hbreak : ∀ ds : List Char, ∃ dropped, ds = dropped ++ dropBreak ds ∧
      ∀ c ∈ dropped, c ∈ protectedChars quote := by
    intro ds
    unfold dropBreak
    split
    · exact ⟨['\r', '\n'], rfl, by simp [protectedChars]⟩
    · exact ⟨['\r'], rfl, by simp [protectedChars]⟩
    · exact ⟨['\n'], rfl, by simp [protectedChars]⟩
    · exact ⟨[], rfl, by simp⟩
  obtain ⟨first, hfirst, hfirstChars⟩ := hquoted
  obtain ⟨second, hsecond, hsecondChars⟩ := hbreak (dropProtected quote cs)
  refine ⟨first ++ second, ?_, ?_⟩
  · rw [List.append_assoc, afterRawBackslash, ← hsecond, ← hfirst]
  · simp only [List.forall_mem_append]
    exact ⟨hfirstChars, hsecondChars⟩

/-- What stands before the closing quotes and is no content. -/
def IsEnding (d : Delimiter) (ending : List Char) : Prop :=
  ending = [] ∨ d.raw = true ∧ ending.head? = some '\\' ∧ ∀ c ∈ ending, c ∈ protectedChars d.quote

/-- The literal stops at its closing quotes, where no content has come before them. -/
theorem contentFrom?_eq_stop {d : Delimiter} {filled : Bool} {cs rest : List Char}
    (h : contentFrom? d filled cs = some (.stop, rest)) :
    filled = false ∧ ∃ ending, cs = ending ++ d.marks ++ rest ∧ IsEnding d ending := by
  fun_induction contentFrom? d filled cs with
  | case5 filled following hraw _ _ _ ih =>
    obtain ⟨hfilled, ending, heq, hending⟩ := ih h
    obtain ⟨dropped, hdropped, hchars⟩ := afterRawBackslash_eq d.quote following
    refine ⟨hfilled, '\\' :: (dropped ++ ending), ?_, .inr ⟨hraw, rfl, ?_⟩⟩
    · rw [hdropped, heq]
      simp
    · rcases hending with rfl | ⟨-, -, hending⟩
      · simpa [protectedChars] using hchars
      · simp only [List.forall_mem_cons, List.forall_mem_append]
        exact ⟨by simp [protectedChars], hchars, hending⟩
  | case14 filled htriple q r more hfilled _ _ _ hquotes =>
    cases h
    obtain ⟨rfl, rfl⟩ : q = d.quote ∧ r = d.quote := by simpa using hquotes
    exact ⟨by simpa using hfilled, [], by simp [Delimiter.marks, htriple], .inl rfl⟩
  | case21 filled following htriple hfilled =>
    cases h
    exact ⟨by simpa using hfilled, [], by simp [Delimiter.marks, htriple], .inl rfl⟩
  | case6 filled _ _ k _ more _ _ _ ih => cases (ih h).1
  | case23 filled c following _ _ _ _ _ ih => cases (ih h).1
  | _ => cases h

/-! ### Pieces -/

namespace Grammar

/-- The kinds of pieces that need no grammar. -/
def doubledPiece (d : Delimiter) (s : StringState) : PythonRule StringState := do
  Rule.require d.format
  let (_, text) ← withText doubledBrace
  return s.add text

@[inherit_doc doubledPiece]
def contentPiece (d : Delimiter) (s : StringState) : PythonRule StringState := do
  let (piece, text) ← withText (take fun cs =>
    (contentFrom? d false cs).map fun (piece, rest) => (piece, cs.length - rest.length))
  match piece with
  | .content => return s.add text
  | .stop => return { s with done := true }

@[inherit_doc doubledPiece]
def escapePiece (s : StringState) : PythonRule StringState := do
  let (_, text) ← withText (take fun cs => (escapeLength cs).map ((), ·))
  return s.add text

/-- A computed part. -/
def computedPiece (g : Grammar) (d : Delimiter) (s : StringState) : PythonRule StringState := do
  Rule.require d.format
  g.interpolation
  return { s with computed := true }

variable {g : Grammar} {d : Delimiter} {s s' : StringState} {c c' : Cursor}

theorem spans_stringPiece_iff : (g.stringPiece d s).Spans c s' c' ↔ s.done = false ∧
    ((doubledPiece d s).Spans c s' c' ∨ (doubledPiece d s).Fails c ∧
      ((contentPiece d s).Spans c s' c' ∨ (contentPiece d s).Fails c ∧
        ((g.computedPiece d s).Spans c s' c' ∨
          (g.computedPiece d s).Fails c ∧ (escapePiece s).Spans c s' c'))) := by
  have heq : g.stringPiece d s = (Rule.require (!s.done) >>= fun _ => Rule.firstOf
      [doubledPiece d s, contentPiece d s, g.computedPiece d s, escapePiece s]) := rfl
  rw [heq, Rule.spans_bind_iff]
  simp only [Rule.spans_require_iff, Rule.spans_firstOf_cons_iff, Rule.not_spans_firstOf_nil,
    and_false, or_false, Bool.not_eq_true']
  grind

theorem fails_stringPiece (hs : s.done = true) (c : Cursor) : (g.stringPiece d s).Fails c :=
  Fails.bind (Rule.fails_require (by simp [hs]))

theorem fails_computedPiece_nothing (d : Delimiter) (s : StringState) (c : Cursor) :
    (nothing.computedPiece d s).Fails c := by
  rcases Rule.fails_or_spans (nothing.computedPiece d s) c with h | ⟨s', c', h⟩
  · exact h
  · simp only [computedPiece, Rule.spans_bind_iff] at h
    obtain ⟨_, _, _, _, _, hfail, _⟩ := h
    exact absurd hfail Rule.not_spans_fail

/-- What a piece without computed parts does: it adds its text, or is the end. -/
inductive Adds (d : Delimiter) (s : StringState) (c : Cursor) : StringState → Cursor → Prop
  | text {text : String} {c' : Cursor} (written : text.toList ++ c'.rest = c.rest) :
      Adds d s c (s.add text) c'
  | stop {ending : List Char} {c' : Cursor} (written : c.rest = ending ++ d.marks ++ c'.rest)
      (isEnding : IsEnding d ending) : Adds d s c { s with done := true } c'

theorem Adds.computed (h : Adds d s c s' c') : s'.computed = s.computed := by cases h <;> rfl

theorem adds_doubledPiece (h : (doubledPiece d s).Spans c s' c') : Adds d s c s' c' := by
  simp only [doubledPiece, Rule.spans_bind_iff] at h
  obtain ⟨_, c₁, hrequire, ⟨u, text⟩, c₂, htext, hpure⟩ := h
  obtain ⟨-, rfl⟩ := Rule.spans_require_iff.1 hrequire
  obtain ⟨rfl, rfl⟩ := Rule.spans_pure_iff.1 hpure
  obtain ⟨htake, rfl⟩ := spans_withText_iff.1 htext
  obtain ⟨n, -, rfl⟩ := spans_take_iff.1 htake
  exact .text (textUpTo_append (advance_suffix _ n))

theorem adds_escapePiece (h : (escapePiece s).Spans c s' c') : Adds d s c s' c' := by
  simp only [escapePiece, Rule.spans_bind_iff] at h
  obtain ⟨⟨u, text⟩, c₂, htext, hpure⟩ := h
  obtain ⟨rfl, rfl⟩ := Rule.spans_pure_iff.1 hpure
  obtain ⟨htake, rfl⟩ := spans_withText_iff.1 htext
  obtain ⟨n, -, rfl⟩ := spans_take_iff.1 htake
  exact .text (textUpTo_append (advance_suffix _ n))

theorem adds_contentPiece (h : (contentPiece d s).Spans c s' c') : Adds d s c s' c' := by
  simp only [contentPiece, Rule.spans_bind_iff] at h
  obtain ⟨⟨piece, text⟩, c₂, htext, hpure⟩ := h
  obtain ⟨htake, rfl⟩ := spans_withText_iff.1 htext
  obtain ⟨n, hscan, rfl⟩ := spans_take_iff.1 htake
  cases piece with
  | content =>
    obtain ⟨rfl, rfl⟩ := Rule.spans_pure_iff.1 hpure
    exact .text (textUpTo_append (advance_suffix c n))
  | stop =>
    obtain ⟨rfl, rfl⟩ := Rule.spans_pure_iff.1 hpure
    obtain ⟨⟨piece, rest⟩, hcontent, heq⟩ := Option.map_eq_some_iff.1 hscan
    obtain ⟨rfl, rfl⟩ := Prod.mk.inj heq
    obtain ⟨-, ending, hwritten, hending⟩ := contentFrom?_eq_stop hcontent
    refine .stop ?_ hending
    rw [rest_advance, ← List.suffix_iff_eq_drop.1 ⟨_, hwritten.symm⟩, hwritten]

theorem adds_stringPiece (h : (nothing.stringPiece d s).Spans c s' c') : Adds d s c s' c' := by
  obtain ⟨-, h | ⟨-, h | ⟨-, h | ⟨-, h⟩⟩⟩⟩ := spans_stringPiece_iff.1 h
  · exact adds_doubledPiece h
  · exact adds_contentPiece h
  · exact absurd h (fails_computedPiece_nothing d s c).not_spans
  · exact adds_escapePiece h

/-- Where nothing has been computed, all was read without the grammar. -/
theorem stringPiece_nothing (h : (g.stringPiece d s).Spans c s' c') (hs' : s'.computed = false) :
    s.computed = false ∧ (nothing.stringPiece d s).Spans c s' c' := by
  obtain ⟨hdone, h⟩ := spans_stringPiece_iff.1 h
  have hnothing := fails_computedPiece_nothing d s c
  rcases h with h | ⟨hdoubled, h | ⟨hcontent, h | ⟨-, h⟩⟩⟩
  · exact ⟨(adds_doubledPiece h).computed ▸ hs', spans_stringPiece_iff.2 ⟨hdone, .inl h⟩⟩
  · exact ⟨(adds_contentPiece h).computed ▸ hs',
      spans_stringPiece_iff.2 ⟨hdone, .inr ⟨hdoubled, .inl h⟩⟩⟩
  · simp only [computedPiece, Rule.spans_bind_iff] at h
    obtain ⟨_, _, _, _, _, _, hpure⟩ := h
    obtain ⟨rfl, -⟩ := Rule.spans_pure_iff.1 hpure
    cases hs'
  · have hadds : Adds d s c s' c' := adds_escapePiece h
    exact ⟨hadds.computed ▸ hs',
      spans_stringPiece_iff.2 ⟨hdone, .inr ⟨hdoubled, .inr ⟨hcontent, .inr ⟨hnothing, h⟩⟩⟩⟩⟩

/-- A computed part begins with a brace. -/
def Computes (g : Grammar) : Prop := g.interpolation.Needs (AtSign ["\x7b"])

theorem computes_nested (depth : Nat) : (nested depth).Computes := by
  cases depth with
  | zero => exact fun _ _ => rfl
  | succ depth =>
    exact show (Rule.delay fun _ => (nested depth).interpolationRule).Needs _ from
      .delay (.bind (needs_sign _))

theorem head_of_escapePiece (h : (escapePiece s).Spans c s' c') : c.rest.head? = some '\\' := by
  simp only [escapePiece, Rule.spans_bind_iff] at h
  obtain ⟨⟨u, text⟩, c₂, htext, -⟩ := h
  obtain ⟨n, hscan, -⟩ := spans_take_iff.1 (spans_withText_iff.1 htext).1
  obtain ⟨m, hlength, -⟩ := Option.map_eq_some_iff.1 hscan
  unfold escapeLength at hlength
  split at hlength
  case h_3 => cases hlength
  all_goals simp [*]

/-- What is read without the grammar is read with it. -/
theorem stringPiece_of_nothing (hg : g.Computes) (h : (nothing.stringPiece d s).Spans c s' c') :
    (g.stringPiece d s).Spans c s' c' := by
  obtain ⟨hdone, h⟩ := spans_stringPiece_iff.1 h
  rcases h with h | ⟨hdoubled, h | ⟨hcontent, h | ⟨-, h⟩⟩⟩
  · exact spans_stringPiece_iff.2 ⟨hdone, .inl h⟩
  · exact spans_stringPiece_iff.2 ⟨hdone, .inr ⟨hdoubled, .inl h⟩⟩
  · exact absurd h (fails_computedPiece_nothing d s c).not_spans
  · have hbrace : ¬ AtSign ["\x7b"] c := by
      obtain ⟨cs, hcs⟩ := List.head?_eq_some_iff.1 (head_of_escapePiece h)
      have hsign : signAt? ('\\' :: cs) = none := rfl
      simp [AtSign, hcs, hsign]
    have hfails : (g.computedPiece d s).Fails c :=
      Rule.needs_require_bind (Needs.bind hg) c hbrace
    exact spans_stringPiece_iff.2 ⟨hdone, .inr ⟨hdoubled, .inr ⟨hcontent, .inr ⟨hfails, h⟩⟩⟩⟩

/-- The text from one piece to the end of the literal. -/
theorem exists_content_of_steps {x y : StringState × Cursor}
    (h : Relation.ReflTransGen (Extends (nothing.stringPiece d)) x y) (hx : x.1.done = false)
    (hy : y.1.done = true) : ∃ content ending, y.1.content = x.1.content ++ content ∧
      x.2.rest = content ++ ending ++ d.marks ++ y.2.rest ∧ IsEnding d ending := by
  induction h using Relation.ReflTransGen.head_induction_on with
  | refl => simp [hx] at hy
  | @head x z hfirst hrest ih =>
    obtain ⟨⟨s, c⟩, ⟨s', c'⟩⟩ := x, z
    cases adds_stringPiece hfirst.1 with
    | @text text _ written =>
      obtain ⟨content, ending, hcontent, hwritten, hending⟩ := ih hx
      refine ⟨text.toList ++ content, ending, ?_, ?_, hending⟩
      · rw [hcontent]
        exact List.append_assoc ..
      · simp only at written hwritten ⊢
        rw [← written, hwritten]
        simp
    | @stop ending _ written isEnding =>
      -- the end is reached, so there is no further piece
      rcases hrest.cases_head with rfl | ⟨z, hnext, -⟩
      · exact ⟨[], ending, by simp, by simpa using written, isEnding⟩
      · exact absurd hnext.1 (fails_stringPiece rfl _).not_spans

/-! ### Literals -/

/-- A literal read with one grammar is read with another, if its pieces are. -/
theorem stringLiteral_congr {g g' : Grammar} {P : StringState → Prop} {content : StringContent}
    (hstep : ∀ {d s s' c c'}, (g.stringPiece d s).Spans c s' c' → P s' →
      P s ∧ (g'.stringPiece d s).Spans c s' c')
    (hend : ∀ s : StringState,
      content = (if s.computed then none else some (String.ofList s.content)) → P s)
    (h : g.stringLiteral.Spans c content c') : g'.stringLiteral.Spans c content c' := by
  simp only [stringLiteral, Rule.spans_bind_iff] at h ⊢
  obtain ⟨d, c₁, hstart, _, c₂, hformat, s, c₃, hpieces, _, c₄, hrequire, _, c₅, hformat',
    hpure⟩ := h
  obtain ⟨hdone, -⟩ := Rule.spans_require_iff.1 hrequire
  have hs := hend s (Rule.spans_pure_iff.1 hpure).1
  have hpieces' := hpieces.extend_congr hstep
    (fun c => ⟨fails_stringPiece hdone c, fails_stringPiece hdone c⟩) hs
  exact ⟨d, c₁, hstart, _, c₂, hformat, s, c₃, hpieces'.2, _, c₄, hrequire, _, c₅, hformat', hpure⟩

/-- A literal without computed parts is read without the grammar. -/
theorem spans_stringLiteral_some_iff (hg : g.Computes) {content : String} :
    g.stringLiteral.Spans c (some content) c' ↔ nothing.stringLiteral.Spans c (some content) c' := by
  constructor
  · refine stringLiteral_congr (P := fun s => s.computed = false) stringPiece_nothing ?_
    intro s hs
    cases hcomputed : s.computed with
    | false => rfl
    | true => simp [hcomputed] at hs
  · exact stringLiteral_congr (P := fun _ => True)
      (fun h _ => ⟨trivial, stringPiece_of_nothing hg h⟩) fun _ _ => trivial

end Grammar

/-- The text `cs` begins with a string literal of this content, behind which comes `rest`: letters, the
quotes, the content and the quotes again. Only in a raw string may there be more, which is what
backslashes protect before the closing quotes. -/
inductive Quoted (content : List Char) (cs rest : List Char) : Prop
  | intro (letters marks ending : List Char) (isLetters : ∀ l ∈ letters, l ∈ stringLetters)
      (isMarks : String.ofList marks ∈ quoteMarks)
      (isEnding : ending = [] ∨ ('r' ∈ letters ∨ 'R' ∈ letters) ∧ ending.head? = some '\\' ∧
        ∀ c ∈ ending, c ∈ ['\\', '\r', '\n'] ++ marks)
      (written : cs = letters ++ marks ++ content ++ ending ++ marks ++ rest)

/-- The content of a literal is the text between its quotes. -/
theorem quoted_of_stringLiteral {content : String} {c c' : Cursor}
    (h : Grammar.nothing.stringLiteral.Spans c (some content) c') :
    Quoted content.toList c.rest c'.rest := by
  simp only [Grammar.stringLiteral, Rule.spans_bind_iff] at h
  obtain ⟨d, c₁, hstart, _, c₂, hformat, s, c₃, hpieces, _, c₄, hrequire, _, c₅, hformat', hpure⟩ := h
  obtain ⟨n, hscan, rfl⟩ := spans_take_iff.1 hstart
  obtain rfl := spans_setFormat_iff.1 hformat
  obtain ⟨hdone, rfl⟩ := Rule.spans_require_iff.1 hrequire
  obtain rfl := spans_setFormat_iff.1 hformat'
  obtain ⟨hvalue, rfl⟩ := Rule.spans_pure_iff.1 hpure
  obtain ⟨letters, rest, hopened, rfl, hletters, hmarks, hraw⟩ := startFrom?_eq_some hscan
  obtain ⟨body, ending, hbody, hwritten, hending⟩ :=
    Grammar.exists_content_of_steps hpieces.extend_steps rfl hdone
  have hcontent : content.toList = body := by
    split at hvalue
    · cases hvalue
    · rw [Option.some.inj hvalue, String.toList_ofList, hbody]
      rfl
  have hrest : rest = body ++ ending ++ d.marks ++ c₄.rest := by
    rw [← hwritten, rest_advance, hopened]
    simp
  refine ⟨letters, d.marks, ending, hletters, hmarks, ?_, ?_⟩
  · refine hending.imp_right ?_
    rintro ⟨hd, hhead, hchars⟩
    refine ⟨by simpa using hraw hd, hhead, fun ch hch => ?_⟩
    have hquote := d.quote_mem_marks
    have hprotected := hchars ch hch
    simp only [protectedChars, List.mem_cons, List.not_mem_nil, or_false, List.mem_append]
      at hprotected ⊢
    grind
  · rw [hopened, hrest, hcontent]
    simp

end ServiceAtlas.Python
