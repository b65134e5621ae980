import ServiceAtlas.Proofs.Python.GrammarInvariants
import ServiceAtlas.Proofs.Python.ProgramReading

/-!
Programs with more blocks inside each other than are remembered. No rule leaves more blocks open than
it finds, and none closes the margin (`grounded`). A block that is forgotten takes the block around it
along when it ends, so that reading a program that is too deep ends in front of one of its lines or with
too few blocks open (`Program.runs_too_deep`). At the margin neither is the end of a source, and so such
a program has no outline: `Program.outline?_text`.
-/

namespace ServiceAtlas.Python

open Rule (Reads Fails Spans Runs)

/-! ### The margin -/

theorem margin_lt_of_dedent {e : Expect} {levels : List Nat} {format : Bool} {cs : List Char}
    (h : ahead e levels format cs = .layout .dedent) : 0 < levels.headD 0 := by
  obtain ⟨rest, htoken⟩ := exists_layoutToken? h
  simp only [layoutToken?] at htoken
  split at htoken
  · cases htoken
  · split at htoken
    · cases htoken
    · split at htoken
      · cases htoken
      · split at htoken
        · rename_i hdedent
          simp only [Bool.and_eq_true, decide_eq_true_eq] at hdedent
          omega
        · split at htoken <;> cases htoken

/-- The margin stays, and no more blocks are open than before. -/
def grounded : Invariant where
  Holds c _ c' := [0] <:+ c.levels → [0] <:+ c'.levels ∧ c'.levels.length ≤ c.levels.length
  stay _ := fun h => ⟨h, Nat.le_refl _⟩
  append h h' := fun hc => ⟨(h' (h hc).1).1, Nat.le_trans (h' (h hc).1).2 (h hc).2⟩
  advance _ _ := fun h => ⟨h, Nat.le_refl _⟩
  setFormat _ _ := fun h => ⟨h, Nat.le_refl _⟩
  declare h _ := h

theorem margin_openBlock {levels : List Nat} (width : Nat) (h : [0] <:+ levels) :
    [0] <:+ openBlock width levels := by
  unfold openBlock
  split
  · exact h.trans (List.suffix_cons _ _)
  · exact h

theorem length_openBlock_le (width : Nat) (levels : List Nat) :
    (openBlock width levels).length ≤ levels.length + 1 := by
  unfold openBlock
  split <;> simp

/-- A dedent closes one block, and never the margin. -/
theorem dedent_spans {e : Expect} {c c' : Cursor} {u : Unit} (h : (dedent e).Spans c u c')
    (hc : [0] <:+ c.levels) : [0] <:+ c'.levels ∧ c'.levels.length + 1 = c.levels.length := by
  obtain ⟨ds, h⟩ := h
  obtain ⟨token, levels, htoken, haccept, -, rfl⟩ := layout_read h
  cases token <;> cases haccept
  have hmargin := margin_lt_of_dedent htoken
  cases hlevels : c.levels with
  | nil => simp [hlevels] at hmargin
  | cons w ws =>
    rw [hlevels] at hc hmargin
    rcases List.suffix_cons_iff.1 hc with heq | hsuffix
    · cases heq
      exact absurd hmargin (Nat.lt_irrefl 0)
    · exact ⟨hsuffix, rfl⟩

instance : grounded.Blocks where
  obeys_block opening closing item _ := by
    refine ⟨fun {c r} hr hc => ?_⟩
    have hblock : (Grammar.block opening closing item).Spans c r.value r.rest := ⟨r.found, hr⟩
    obtain ⟨_, c₁, ⟨ds, hindent⟩, hblock⟩ := Rule.spans_bind_iff.1 hblock
    obtain ⟨us, c₂, ⟨es, hitems⟩, hdedent⟩ := Rule.spans_bind_iff.1 hblock
    obtain ⟨token, levels, -, haccept, -, rfl⟩ := layout_read hindent
    cases token <;> cases haccept
    rename_i width
    have hlength := length_openBlock_le width c.levels
    have hkept : grounded.Holds _ es c₂ := Rule.Obeys.holds hitems
    obtain ⟨hmargin, hle⟩ := hkept (margin_openBlock width hc)
    obtain ⟨hmargin, hclosed⟩ := dedent_spans hdedent hmargin
    exact ⟨hmargin, by simp only at hle; omega⟩

namespace Grammar

/-- What is declared does not matter for the blocks. -/
instance {p : PythonRule (Option Declaration)} [p.Obeys grounded] : p.declare.Obeys grounded := by
  refine ⟨fun {c r} hr => ?_⟩
  obtain ⟨t, ht, hrest, -⟩ := Rule.read_declare_eq_some hr
  have hkept : grounded.Holds c t.found t.rest := Rule.Obeys.holds ht
  exact hrest ▸ hkept

set_option synthInstance.maxSize 4000 in
instance {g : Grammar} [g.Obeys grounded] (ds : List Decorator) : (g.function ds).Obeys grounded := by
  unfold function
  infer_instance

instance (depth : Nat) : (nested depth).Obeys grounded := by
  refine obeys_nested (fun depth h => ?_) depth
  unfold decorated
  infer_instance

end Grammar

/-! ### Programs that are too deep -/

theorem fails_layout_of_fetch {e : Expect} {accept : LayoutToken → List Nat → Option (List Nat)}
    {c c' : Cursor} {u : Unit} {ds : List (Located Declaration)} (h : (fetch e).Reads c u ds c') :
    (layout e accept).Fails c := by
  simp only [Reads, fetch] at h
  split at h
  · cases h
  · rename_i n hahead
    simp only [Fails, layout, hahead]

namespace Program

open Grammar

variable {depth width j n : Nat} {levels : List Nat} {lead close : List Char} {c : Cursor}

/-- The place is in front of a line of the block that is open at `width`. -/
def AtLine (width : Nat) (levels : List Nat) (c : Cursor) : Prop :=
  ∃ n lead cs, Lead width lead ∧ Solid cs ∧ c = ⟨n, lead ++ cs, width :: levels, false⟩

theorem AtLine.fails_dedent (h : AtLine width levels c) : (dedent statementNext).Fails c := by
  obtain ⟨n, lead, cs, hlead, hcs, rfl⟩ := h
  exact fails_layout_of_fetch (hlead.reads_fetch hcs)

theorem AtLine.not_end (h : AtLine width levels c) :
    (fetch statementNext >>= fun _ => atEnd).Fails c := by
  obtain ⟨n, lead, cs, hlead, hcs, rfl⟩ := h
  refine Reads.bind_fails (hlead.reads_fetch hcs) ?_
  cases cs with
  | nil => exact hcs.elim
  | cons c cs => rfl

theorem runs_grounded {us : List Unit} {c' : Cursor}
    (h : Runs (nested depth).statement c us c') (hc : [0] <:+ c.levels) :
    [0] <:+ c'.levels ∧ c'.levels.length ≤ c.levels.length := by
  induction h with
  | nil => exact ⟨hc, Nat.le_refl _⟩
  | cons head _ _ ih =>
    obtain ⟨ds, head⟩ := head
    have hfirst : grounded.Holds _ ds _ := Rule.Obeys.holds head
    obtain ⟨hmargin, hle⟩ := hfirst hc
    exact ⟨(ih hmargin).1, Nat.le_trans (ih hmargin).2 hle⟩

/-- Where a definition is read, its body is read and closed behind the head. -/
theorem Defines.spans_body {head cs : List Char} {d : Declaration} {p body rest : Program} {u : Unit}
    (hp : Defines (depth + 8) width head d p body rest) (hlead : Lead width lead)
    (h : (nested (depth + 9)).statement.Spans ⟨n, lead ++ (head ++ (suiteChars (width + 4)
      (body.chars (width + 4) (lineStart (width + 4))) ++ cs)), width :: levels, false⟩ u c) :
    ∃ us c', (Rule.many (nested (depth + 8)).statement).Spans
        ⟨n + Text.newlines lead + Text.newlines head, suiteChars (width + 4)
          (body.chars (width + 4) (lineStart (width + 4))) ++ cs,
          openBlock (width + 4) (width :: levels), false⟩ us c' ∧
      (dedent statementNext).Spans c' () c := by
  obtain ⟨ds, h⟩ := h
  obtain ⟨t, ht, hrest, -⟩ :=
    Rule.read_declare_eq_some ((hp.read hlead body.break_suiteChars).symm.trans h)
  obtain ⟨_, c₁, ⟨es, hsuite⟩, hpure⟩ := Rule.spans_bind_iff.1 ⟨t.found, ht⟩
  obtain ⟨-, hc₁⟩ := Rule.spans_pure_iff.1 hpure
  rw [← hrest] at hc₁
  obtain rfl : c = c₁ := hc₁
  exact Rule.spans_bind_iff.1 ⟨es, (read_suite body.break_suiteChars (by simp)).symm.trans hsuite⟩

/-- A definition closes the block around it if its body, wherever reading it stops, either goes on there
or has closed a block too many. -/
theorem Defines.closes_block {head cs : List Char} {d : Declaration} {p body rest : Program} {u : Unit}
    (hp : Defines (depth + 8) width head d p body rest) (hlead : Lead width lead)
    (hmargin : [0] <:+ width :: levels)
    (hbody : ∀ {m us c'}, Runs (nested (depth + 8)).statement
      ⟨m, suiteChars (width + 4) (body.chars (width + 4) (lineStart (width + 4))) ++ cs,
        openBlock (width + 4) (width :: levels), false⟩ us c' →
      AtLine (width + 4) (width :: levels) c' ∨ c'.levels.length ≤ levels.length + 1)
    (h : (nested (depth + 9)).statement.Spans ⟨n, lead ++ (head ++ (suiteChars (width + 4)
      (body.chars (width + 4) (lineStart (width + 4))) ++ cs)), width :: levels, false⟩ u c) :
    [0] <:+ c.levels ∧ c.levels.length ≤ levels.length := by
  obtain ⟨us, c', hstatements, hdedent⟩ := hp.spans_body hlead h
  have hle : c'.levels.length ≤ levels.length + 1 :=
    (hbody hstatements.many_runs).resolve_left fun hline => hline.fails_dedent.not_spans hdedent
  have hkept := (runs_grounded hstatements.many_runs (margin_openBlock (width + 4) hmargin)).1
  obtain ⟨hclosed, hlength⟩ := dedent_spans hdedent hkept
  exact ⟨hclosed, by omega⟩

/-- However many statements of a block are read in which some blocks cannot be remembered, reading
stops in front of a line of the block or has closed the block. -/
theorem runs_too_deep (p : Program) (hdepth : p.height + 8 ≤ depth)
    (hlevels : levels.length ≤ maxBlocks) (hdeep : maxBlocks < levels.length + p.height)
    (hwidth : width = 4 * levels.length) (hmargin : [0] <:+ width :: levels)
    (hlead : Lead width lead) (hclose : Break j close) (hj : j ≤ width) {us : List Unit}
    (hruns : Runs (nested depth).statement
      ⟨n, p.chars width lead ++ close, width :: levels, false⟩ us c) :
    AtLine width levels c ∨ c.levels.length ≤ levels.length := by
  induction p using definitionInduction generalizing depth width j levels n lead close us c with
  | done =>
    rw [height] at hdeep
    omega
  | definition p body rest hp ihb ihr =>
    have hheight := (hp 0 0).choose_spec.choose_spec.height_eq
    obtain ⟨depth, rfl⟩ : ∃ d, depth = d + 9 := ⟨depth - 9, by omega⟩
    obtain ⟨head, d, hp⟩ := hp depth width
    obtain ⟨i, hi, hnext⟩ := rest.break_chars hclose hj
    simp only [hp.chars_eq, List.append_assoc] at hruns
    cases hruns with
    | nil => exact .inl ⟨n, lead, _, hlead, hp.solid _, rfl⟩
    | @cons _ _ _ c₁ _ hfirst _ hothers =>
      have hroom : levels.length < maxBlocks →
          openBlock (width + 4) (width :: levels) = (width + 4) :: width :: levels :=
        fun h => openBlock_printed h hwidth
      have hopened : [0] <:+ (width + 4) :: width :: levels := hmargin.trans (List.suffix_cons _ _)
      by_cases hfits : levels.length + 1 + body.height ≤ maxBlocks
      · -- The definition is read as a whole, so it is the rest of the block that is too deep.
        have hstatement := hp.reads_statement (n := n) hlead (hroom (by omega)) hnext hi fun k =>
          body.readsBlock (by omega) (by rw [List.length_cons]; omega)
            (by rw [List.length_cons]; omega) .line hnext (by omega)
            fun m => fails_statement hnext (by omega)
        obtain ⟨-, rfl⟩ := hfirst.unique ⟨_, hstatement⟩
        exact ihr (by omega) hlevels (by omega) hwidth hmargin .line hclose hj hothers
      · have hclosed : [0] <:+ c₁.levels ∧ c₁.levels.length ≤ levels.length := by
          refine hp.closes_block hlead hmargin (fun hbody => ?_) hfirst
          by_cases hfull : levels.length < maxBlocks
          · have hne : body ≠ .done := by
              rintro rfl
              rw [height] at hfits
              omega
            rw [hroom hfull, body.suiteChars_chars hne] at hbody
            exact ihb (by omega) (by rw [List.length_cons]; omega) (by rw [List.length_cons]; omega)
              (by rw [List.length_cons]; omega) hopened .line hnext (by omega) hbody
          · -- The block of the body is forgotten, so that only the one around it is left to close.
            have hforgotten : openBlock (width + 4) (width :: levels) = width :: levels :=
              if_neg (by rw [List.length_cons]; omega)
            rw [hforgotten] at hbody
            exact .inr (runs_grounded hbody hmargin).2
        exact .inr (Nat.le_trans (runs_grounded hothers hclosed.1).2 hclosed.2)

theorem outline?_text_of_lt (p : Program) (hdeep : maxBlocks < p.height) :
    outline? p.text.toList = none := by
  have htrail : Break 0 p.trail := by
    cases p with
    | done => exact absurd hdeep (by decide)
    | type => exact .final
    | function => exact .final
  have hstops : ∀ {us c}, Runs (nested (depthFor p.text.toList)).statement
      ⟨1, p.chars 0 [] ++ p.trail, [0], false⟩ us c → AtLine 0 [] c ∨ c.levels.length ≤ 0 := by
    intro us c hruns
    refine p.runs_too_deep p.height_le_depthFor ?_ ?_ ?_ ?_ .front htrail (Nat.le_refl 0) hruns
    all_goals simp [hdeep]
  rw [p.chars_append_trail] at hstops
  have hfails : (nested (depthFor p.text.toList)).source.Fails ⟨1, p.text.toList, [0], false⟩ := by
    refine Classical.byContradiction fun hreads => ?_
    obtain ⟨u, c, hsource⟩ := (Rule.fails_or_spans _ _).resolve_left hreads
    obtain ⟨us, c', hmany, hend⟩ := Rule.spans_bind_iff.1 hsource
    rcases hstops hmany.many_runs with hline | hle
    · exact hline.not_end.not_spans hend
    · have hpos := (runs_grounded hmany.many_runs (List.suffix_refl _)).1.length_le
      exact absurd hle (Nat.not_le_of_lt hpos)
  simp only [outline?, skipMark_of_printable p.mem_text, show Rule.read _ _ = _ from hfails]

/-- The outline of a printed program is that of the program, if all blocks of it can be remembered.
Otherwise the text has none. -/
theorem outline?_text (p : Program) :
    outline? p.text.toList = if p.height ≤ maxBlocks then some (p.outline 1) else none := by
  split
  · rename_i hfits
    exact p.outline?_text_of_le hfits
  · rename_i hdeep
    exact p.outline?_text_of_lt (Nat.lt_of_not_le hdeep)

end Program

end ServiceAtlas.Python
