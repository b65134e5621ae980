import ServiceAtlas.Proofs.RuleReading
import ServiceAtlas.Python.Grammar.Statement

/-!
The layout of a printed program as it is read. Between two tokens of a line there is at most one
blank; behind the last token of a line stands a `Break`, after which the next line begins as far in
as the break says. A break has no width for the tokens of layout, so that a block is opened, and any
number of blocks are closed, at one and the same break.
-/

namespace ServiceAtlas.Python

/-- The text begins with a token. -/
def Solid : List Char → Prop
  | [] => False
  | c :: _ => isGap c = false ∧ c ≠ '#' ∧ c ≠ '\\'

/-- The end of a line and the blanks of the next one. -/
def lineStart (width : Nat) : List Char := '\n' :: List.replicate width ' '

theorem newlines_lineStart (width : Nat) : Text.newlines (lineStart width) = 1 := by
  simp [Text.newlines, lineStart, List.count_replicate]

/-- The text begins with the end of a line, behind which comes a line that is `width` in, or
nothing. -/
inductive Break : Nat → List Char → Prop
  | line (width : Nat) {cs : List Char} (h : Solid cs) : Break width (lineStart width ++ cs)
  | final : Break 0 ['\n']

/-! ### Gaps -/

section Gap

variable {comments ended : Bool} {width : Nat} {cs : List Char}

theorem gap?_solid (h : Solid cs) :
    gap? comments ended width none cs = some ⟨ended, width, none, cs⟩ := by
  cases cs with
  | nil => exact h.elim
  | cons c cs =>
    obtain ⟨hgap, hhash, hslash⟩ := h
    have hne : ∀ d, isGap d = true → c ≠ d := by
      rintro d hd rfl
      simp [hgap] at hd
    rw [gap?.eq_def]
    simp only [hne '\n' (by decide), hne ' ' (by decide), hne '\r' (by decide),
      hne '\x0c' (by decide), hne '\t' (by decide), hhash, hslash, decide_false, Bool.or_self,
      Bool.false_and, Bool.false_eq_true, if_false]

theorem gap?_space : gap? comments ended width none (' ' :: cs) =
    gap? comments ended (width + 1) none cs := by
  rw [gap?.eq_def]
  simp

theorem gap?_newline :
    gap? comments ended width none ('\n' :: cs) = gap? comments true 0 none cs := by
  rw [gap?.eq_def]
  simp

theorem gap?_spaces (j : Nat) : gap? comments ended width none (List.replicate j ' ' ++ cs) =
    gap? comments ended (width + j) none cs := by
  induction j generalizing width with
  | zero => rfl
  | succ j ih =>
    rw [List.replicate_succ, List.cons_append, gap?_space, ih]
    congr 1
    omega

theorem Break.gap? (h : Break width cs) : ∃ rest, ∀ comments ended,
    gap? comments ended 0 none cs = some ⟨true, width, none, rest⟩ := by
  cases h with
  | @line width cs hcs =>
    refine ⟨cs, fun comments ended => ?_⟩
    rw [lineStart, List.cons_append, gap?_newline, gap?_spaces, gap?_solid hcs, Nat.zero_add]
  | final =>
    refine ⟨[], fun comments ended => ?_⟩
    rw [gap?_newline, gap?.eq_def]

end Gap

/-! ### Looking ahead -/

section Ahead

variable {e : Expect} {levels : List Nat} {format : Bool} {cs : List Char}

theorem isGap_of_mem_replicate {j : Nat} : ∀ c ∈ List.replicate j ' ', isGap c = true := by
  intro c hc
  rw [List.eq_of_mem_replicate hc]
  decide

theorem comment_cons {c : Char} (h : c ≠ '#') (cs : List Char) : comment (c :: cs) = 0 :=
  comment.eq_2 _ fun _ heq => h (List.cons.inj heq).1

theorem continuation_cons {c : Char} (h : c ≠ '\\') (cs : List Char) : continuation (c :: cs) = 0 :=
  continuation.eq_5 _ (fun _ heq => h (List.cons.inj heq).1) (fun _ heq => h (List.cons.inj heq).1)
    (fun _ heq => h (List.cons.inj heq).1) fun heq => h (List.cons.inj heq).1

theorem ahead_of_layout {token : LayoutToken} (h : layoutToken? e levels format cs = some token) :
    ahead e levels format cs = .layout token := by
  rw [ahead, h]

/-- A token of layout that is met is the one at some place further on. -/
theorem exists_layoutToken? {token : LayoutToken} (h : ahead e levels format cs = .layout token) :
    ∃ rest, layoutToken? e levels format rest = some token := by
  fun_induction ahead e levels format cs with
  | case1 cs found hfound =>
    cases h
    exact ⟨cs, hfound⟩
  | case2 => cases h
  | case3 cs hnone rest more hmore found hfound ih =>
    cases h
    exact ih hfound
  | case4 => cases h

/-- Nothing is passed over where a token stands. -/
theorem Solid.stops (h : Solid cs) : cs.takeWhile isGap = [] ∧ cs.dropWhile isGap = cs ∧
    comment cs = 0 ∧ continuation cs = 0 := by
  cases cs with
  | nil => exact h.elim
  | cons c cs =>
    obtain ⟨hgap, hhash, hslash⟩ := h
    exact ⟨by simp [hgap], by simp [hgap], comment_cons hhash cs, continuation_cons hslash cs⟩

theorem ahead_of_solid {blanks : List Char}
    (htoken : layoutToken? e levels format (blanks ++ cs) = none)
    (hblanks : ∀ c ∈ blanks, isGap c = true) (hcs : Solid cs) :
    ahead e levels format (blanks ++ cs) = .token blanks.length := by
  rw [ahead, htoken]
  simp only [List.takeWhile_append_of_pos hblanks, List.dropWhile_append_of_pos hblanks, hcs.stops,
    List.append_nil, Nat.add_zero, if_true]

/-- Mere blanks split no line. -/
theorem splitsLine_of_solid {blanks : List Char} (hblanks : ∀ c ∈ blanks, isGap c = true)
    (hcs : Solid cs) : splitsLine e (blanks ++ cs) = false := by
  rw [splitsLine]
  simp [List.dropWhile_append_of_pos hblanks, hcs.stops]

/-- Blanks of one line before a token. -/
theorem layoutToken?_spaces (j : Nat) (hcs : Solid cs) :
    layoutToken? e levels format (List.replicate j ' ' ++ cs) = none := by
  rw [layoutToken?, gap?_spaces, gap?_solid hcs]
  rfl

end Ahead

/-! ### Breaks -/

namespace Break

variable {e : Expect} {width : Nat} {levels : List Nat} {cs : List Char}

/-- Where a line may end and no block begins or ends. -/
theorem layoutToken?_newline (h : Break width cs) (he : e.newline = true) (hi : e.indent = false)
    (hd : e.dedent = false) : layoutToken? e levels false cs = some .newline := by
  obtain ⟨rest, hgap⟩ := h.gap?
  simp [layoutToken?, hgap, he, hi, hd]

theorem layoutToken?_indent (h : Break width cs) (he : e.indent = true)
    (hlt : levels.headD 0 < width) : layoutToken? e levels false cs = some (.indent width) := by
  obtain ⟨rest, hgap⟩ := h.gap?
  simp [layoutToken?, hgap, he, -List.headD_eq_head?_getD, hlt]

theorem layoutToken?_dedent (h : Break width cs) (he : e.dedent = true) (hi : e.indent = false)
    (hlt : width < levels.headD 0) : layoutToken? e levels false cs = some .dedent := by
  obtain ⟨rest, hgap⟩ := h.gap?
  simp [layoutToken?, hgap, he, hi, -List.headD_eq_head?_getD, hlt]

/-- Within a block a break is a mere blank where no line may end. -/
theorem layoutToken?_none (h : Break width cs) (he : e.newline = false)
    (hlevel : levels.headD 0 = width) : layoutToken? e levels false cs = none := by
  obtain ⟨rest, hgap⟩ := h.gap?
  simp [layoutToken?, hgap, he, -List.headD_eq_head?_getD, hlevel]

end Break

/-! ### Rules -/

section Rules

variable {e : Expect} {n width : Nat} {levels : List Nat} {cs : List Char}

theorem fails_fetch {token : LayoutToken} (h : layoutToken? e levels false cs = some token) :
    (fetch e).Fails ⟨n, cs, levels, false⟩ := by
  simp [Rule.Fails, fetch, Cursor.ahead, ahead_of_layout h]

theorem reads_layout {token : LayoutToken} {accept : LayoutToken → List Nat → Option (List Nat)}
    {levels' : List Nat} (h : layoutToken? e levels false cs = some token)
    (haccept : accept token levels = some levels') :
    (layout e accept).Reads ⟨n, cs, levels, false⟩ () [] ⟨n, cs, levels', false⟩ := by
  simp [Rule.Reads, layout, Cursor.ahead, ahead_of_layout h, haccept]

theorem reads_fetch_blanks {blanks : List Char}
    (htoken : layoutToken? e levels false (blanks ++ cs) = none)
    (hblanks : ∀ c ∈ blanks, isGap c = true) (hcs : Solid cs) :
    (fetch e).Reads ⟨n, blanks ++ cs, levels, false⟩ () []
      ⟨n + Text.newlines blanks, cs, levels, false⟩ := by
  simp [Rule.Reads, fetch, Cursor.ahead, ahead_of_solid htoken hblanks hcs, Cursor.advance]

theorem reads_lineSplit {blanks : List Char} (hblanks : ∀ c ∈ blanks, isGap c = true)
    (hcs : Solid cs) : (lineSplit e).Reads ⟨n, blanks ++ cs, levels, false⟩ false []
      ⟨n, blanks ++ cs, levels, false⟩ := by
  rw [← splitsLine_of_solid (e := e) hblanks hcs]
  exact Rule.Reads.next (Rule.reads_place _) (Rule.reads_pure _ _)

theorem reads_lineSplit_solid (hcs : Solid cs) :
    (lineSplit e).Reads ⟨n, cs, levels, false⟩ false [] ⟨n, cs, levels, false⟩ :=
  reads_lineSplit (isGap_of_mem_replicate (j := 0)) hcs

theorem reads_lineSplit_space (hcs : Solid cs) :
    (lineSplit e).Reads ⟨n, ' ' :: cs, levels, false⟩ false [] ⟨n, ' ' :: cs, levels, false⟩ :=
  reads_lineSplit (isGap_of_mem_replicate (j := 1)) hcs

/-- Nothing is passed where a token stands already, also within a format string. -/
theorem fetch_solid (e : Expect) {c : Cursor} (hc : Solid c.rest) : (fetch e).Reads c () [] c := by
  have hahead : c.ahead e = .token 0 := ahead_of_solid (layoutToken?_spaces 0 hc) (by simp) hc
  simp [Rule.Reads, fetch, hahead, Cursor.advance, Text.newlines]

theorem reads_fetch_solid (hcs : Solid cs) :
    (fetch e).Reads ⟨n, cs, levels, false⟩ () [] ⟨n, cs, levels, false⟩ := fetch_solid e hcs

theorem reads_fetch_space (hcs : Solid cs) :
    (fetch e).Reads ⟨n, ' ' :: cs, levels, false⟩ () [] ⟨n, cs, levels, false⟩ :=
  reads_fetch_blanks (layoutToken?_spaces 1 hcs) (isGap_of_mem_replicate (j := 1)) hcs

/-- The next line of the block. -/
theorem reads_fetch_line (he : e.newline = false) (hcs : Solid cs) :
    (fetch e).Reads ⟨n, lineStart width ++ cs, width :: levels, false⟩ () []
      ⟨n + 1, cs, width :: levels, false⟩ := by
  have hblanks : ∀ c ∈ lineStart width, isGap c = true := by
    intro c hc
    rcases List.mem_cons.1 hc with rfl | hc
    · decide
    · exact isGap_of_mem_replicate c hc
  have htoken : layoutToken? e (width :: levels) false (lineStart width ++ cs) = none :=
    (Break.line width hcs).layoutToken?_none he rfl
  rw [← newlines_lineStart width]
  exact reads_fetch_blanks htoken hblanks hcs

theorem Break.fails_fetch_newline (h : Break width cs) :
    (fetch Follow.line.after).Fails ⟨n, cs, levels, false⟩ :=
  fails_fetch (h.layoutToken?_newline rfl rfl rfl)

theorem Break.reads_newline (h : Break width cs) :
    (newline Follow.line.after).Reads ⟨n, cs, levels, false⟩ () [] ⟨n, cs, levels, false⟩ :=
  reads_layout (h.layoutToken?_newline rfl rfl rfl) rfl

theorem Break.reads_indent (h : Break width cs) (hlt : levels.headD 0 < width) :
    (indent Grammar.suiteNext).Reads ⟨n, cs, levels, false⟩ () []
      ⟨n, cs, openBlock width levels, false⟩ :=
  reads_layout (h.layoutToken?_indent rfl hlt) rfl

theorem openBlock_of_le (hlevels : levels.length ≤ maxBlocks) (hwidth : width < UInt16.size) :
    openBlock width levels = width :: levels := by
  rw [openBlock, if_pos hlevels, Nat.mod_eq_of_lt hwidth]

theorem Break.fails_fetch_dedent (h : Break width cs) (hlt : width < levels.headD 0) :
    (fetch Grammar.statementNext).Fails ⟨n, cs, levels, false⟩ :=
  fails_fetch (h.layoutToken?_dedent rfl rfl hlt)

theorem Break.reads_dedent (h : Break width cs) (hlt : width < levels.headD 0) :
    (dedent Grammar.statementNext).Reads ⟨n, cs, levels, false⟩ () []
      ⟨n, cs, levels.tail, false⟩ :=
  reads_layout (h.layoutToken?_dedent rfl rfl hlt) rfl

/-- The break behind the last line. -/
theorem reads_fetch_final :
    (fetch Grammar.statementNext).Reads ⟨n, ['\n'], [0], false⟩ () [] ⟨n + 1, [], [0], false⟩ := by
  have htoken : layoutToken? Grammar.statementNext [0] false ['\n'] = none :=
    Break.final.layoutToken?_none rfl rfl
  have hahead : ahead Grammar.statementNext [0] false ['\n'] = .token 1 := by
    rw [ahead, htoken]
    rfl
  simp [Rule.Reads, fetch, Cursor.ahead, hahead, Cursor.advance, Text.newlines]

theorem reads_fetch_nil :
    (fetch Grammar.statementNext).Reads ⟨n, [], [0], false⟩ () [] ⟨n, [], [0], false⟩ := by
  have hahead : ahead Grammar.statementNext [0] false [] = .token 0 := by
    rw [ahead, layoutToken?, gap?.eq_def]
    rfl
  simp [Rule.Reads, fetch, Cursor.ahead, hahead, Cursor.advance, Text.newlines]

/-- At the end of the source there are no blanks to pass. -/
theorem fetch_nil (e : Expect) {c : Cursor} (hc : c.rest = []) :
    (fetch e).Fails c ∨ (fetch e).Reads c () [] c := by
  obtain ⟨n, rest, levels, format⟩ := c
  obtain rfl : rest = [] := hc
  cases hahead : Cursor.ahead ⟨n, [], levels, format⟩ e with
  | layout token => exact .inl (by simp [Rule.Fails, fetch, hahead])
  | token k => exact .inr (by simp [Rule.Reads, fetch, hahead, Cursor.advance, Text.newlines])

end Rules

end ServiceAtlas.Python
