import ServiceAtlas.Proofs.Python.PrintedChars

/-!
How the grammar reads the expressions of a printed program: the base of a class, the strings of a
path and the call of a decorator. Each of them is an operand with nothing before it, so that all
levels of expressions above the operand pass it on (`Grammar.reads_expression`), as long as what
follows ends it.
-/

namespace ServiceAtlas.Python

open Rule (Reads Fails)
open Cursor

/-- The text ends an expression of which it is known what may follow. -/
inductive Closes : Follow → List Char → Prop
  | line {width : Nat} {cs : List Char} (h : Break width cs) : Closes .line cs
  | bracket (cs : List Char) : Closes .bracket (')' :: cs)

theorem solid_close (cs : List Char) : Solid (')' :: cs) :=
  ⟨by decide, by decide, by decide⟩

namespace Grammar

variable {g : Grammar} {n : Nat} {levels : List Nat} {cs rest : List Char} {α : Type}

/-! ### Signs after blanks -/

theorem fails_mark {e : Expect} {s : String} (hsolid : Solid cs)
    (h : ¬ AtSign [s] ⟨n, cs, levels, false⟩) : (mark e s).Fails ⟨n, cs, levels, false⟩ :=
  Reads.bind_fails (reads_fetch_solid hsolid) (needs_sign s _ h)

theorem reads_mark {e : Expect} {s : String} {c : Char} (hs : s.toList = [c])
    (hsolid : Solid (c :: rest)) (hc : IsPrintable c) (h : signAt? (c :: rest) = some s) :
    (mark e s).Reads ⟨n, c :: rest, levels, false⟩ () [] ⟨n, rest, levels, false⟩ :=
  Reads.next (reads_fetch_solid hsolid) (reads_sign hs hc h)

theorem reads_mark_close {e : Expect} :
    (mark e ")").Reads ⟨n, ')' :: rest, levels, false⟩ () [] ⟨n, rest, levels, false⟩ :=
  reads_mark rfl (solid_close rest) (by decide) signAt?_close

/-- What may be read after a complete expression is not read where the text ends it. -/
theorem fails_after {f : Follow} {q : PythonRule α} (h : Closes f cs)
    (hq : ∀ rest, q.Fails ⟨n, ')' :: rest, levels, false⟩) :
    (fetch f.after >>= fun _ => q).Fails ⟨n, cs, levels, false⟩ := by
  cases h with
  | line hbreak => exact Fails.bind hbreak.fails_fetch_newline
  | bracket rest => exact Reads.bind_fails (reads_fetch_solid (solid_close rest)) (hq rest)

/-! ### At a closing bracket -/

section Close

theorem not_atSign_close {ss : List String} (h : ")" ∉ ss) :
    ¬ AtSign ss ⟨n, ')' :: rest, levels, false⟩ := by
  rwa [atSign_iff signAt?_close]

theorem not_atWord_close {P : String → Prop} (hP : ¬ P "") :
    ¬ AtWord P ⟨n, ')' :: rest, levels, false⟩ := not_atWord_cons (by decide) hP

theorem fails_trailer {f : Follow} {o : Operand} (h : Closes f cs) :
    (g.trailer f o).Fails ⟨n, cs, levels, false⟩ :=
  fails_after h fun _ =>
    .firstOf (.bind (needs_sign _ _ (not_atSign_close (by decide))))
      (.firstOf (.bind (needs_sign _ _ (not_atSign_close (by decide))))
        (.firstOf (.bind (needs_sign _ _ (not_atSign_close (by decide)))) Rule.fails_firstOf_nil))

theorem fails_comparator : comparator.Fails ⟨n, ')' :: rest, levels, false⟩ :=
  .firstOf (.skip (needs_signIn _ _ (not_atSign_close (by decide))))
    (.firstOf (needs_keyword _ _ (not_atWord_close (by decide)))
      (.firstOf (.bind (needs_keyword _ _ (not_atWord_close (by decide))))
        (.firstOf (.bind (needs_keyword _ _ (not_atWord_close (by decide))))
          Rule.fails_firstOf_nil)))

theorem fails_continuation {plain : Bool} {f : Follow} (h : Closes f cs) :
    (g.continuation plain f).Fails ⟨n, cs, levels, false⟩ :=
  fails_after h fun _ =>
    .firstOf (.bind (needs_wordIn _ _ (not_atWord_close (by decide))))
      (.firstOf (Rule.needs_require_bind (.bind (needs_keyword _)) _ (not_atWord_close (by decide)))
        (.firstOf (.bind (needs_keyword _ _ (not_atWord_close (by decide))))
          Rule.fails_firstOf_nil))

end Close

/-! ### Expressions -/

/-- An operand begins here, with no sign and no keyword before it. -/
structure Opens (cs : List Char) : Prop where
  solid : Solid cs
  sign : signAt? cs = none
  word : String.ofList (wordAt cs) ∉ ["not", "lambda", "await"]

theorem Opens.not_atSign {ss : List String} (h : Opens cs) :
    ¬ AtSign ss ⟨n, cs, levels, false⟩ := by
  simp [AtSign, h.sign]

theorem Opens.not_atWord {w : String} (h : Opens cs) (hw : w ∈ ["not", "lambda", "await"]) :
    ¬ AtWord (· = w) ⟨n, cs, levels, false⟩ := by
  rintro rfl
  exact h.word hw

section Expression

variable {depth : Nat} {f : Follow} {o : Operand}

theorem reads_unary (hcs : Opens cs)
    (ho : ((nested depth).operand f).Reads ⟨n, cs, levels, false⟩ o [] ⟨n, rest, levels, false⟩) :
    ((nested (depth + 1)).unary f).Reads ⟨n, cs, levels, false⟩ o.expr []
      ⟨n, rest, levels, false⟩ := by
  show ((nested depth).unaryRule f).Reads _ _ _ _
  refine Reads.next (reads_fetch_solid hcs.solid) ?_
  refine Fails.firstOf_reads (.bind (needs_signIn _ _ hcs.not_atSign)) ?_
  refine Fails.firstOf_reads (.bind (needs_keyword _ _ (hcs.not_atWord (by decide)))) ?_
  refine Fails.firstOf_reads (.bind (needs_sign _ _ hcs.not_atSign)) ?_
  exact Reads.firstOf (Reads.next ho (Rule.reads_pure _ _))

theorem reads_primary (hcs : Opens cs) (hrest : Closes f rest)
    (ho : ((nested depth).operand f).Reads ⟨n, cs, levels, false⟩ o [] ⟨n, rest, levels, false⟩) :
    ((nested (depth + 2)).primary f).Reads ⟨n, cs, levels, false⟩ o.expr []
      ⟨n, rest, levels, false⟩ := by
  show ((nested (depth + 1)).primaryRule f).Reads _ _ _ _
  refine Reads.next (reads_unary hcs ho) (Rule.reads_extend_stop ?_)
  exact fails_after hrest fun _ => .bind (needs_signIn _ _ (not_atSign_close (by decide)))

/-- An operand alone is an expression. A name is one only if it is not assigned to. -/
theorem reads_expression {plain : Bool} (hcs : Opens cs) (hrest : Closes f rest)
    (hassign : ∀ q : PythonRule Expr, (wordExcept operandWords >>= fun _ => mark f.after ":=" >>=
      fun _ => q).Fails ⟨n, cs, levels, false⟩)
    (ho : ((nested depth).operand f).Reads ⟨n, cs, levels, false⟩ o [] ⟨n, rest, levels, false⟩) :
    ((nested (depth + 4)).expression plain f).Reads ⟨n, cs, levels, false⟩ o.expr []
      ⟨n, rest, levels, false⟩ := by
  have hcomparison : ((nested (depth + 2)).comparison f).Reads ⟨n, cs, levels, false⟩ o.expr []
      ⟨n, rest, levels, false⟩ :=
    Reads.next (reads_primary hcs hrest ho)
      (Rule.reads_extend_stop (fails_after hrest fun _ => .bind fails_comparator))
  have hunit : ((nested (depth + 3)).unit plain f).Reads ⟨n, cs, levels, false⟩ o.expr []
      ⟨n, rest, levels, false⟩ := by
    show ((nested (depth + 2)).unitRule plain f).Reads _ _ _ _
    refine Reads.next (reads_fetch_solid hcs.solid) ?_
    refine Fails.firstOf_reads (.bind (needs_keyword _ _ (hcs.not_atWord (by decide)))) ?_
    refine Fails.firstOf_reads (.bind (.bind (needs_keyword _ _ (hcs.not_atWord (by decide))))) ?_
    exact Fails.firstOf_reads (hassign _) (Reads.firstOf hcomparison)
  show ((nested (depth + 3)).expressionRule plain f).Reads _ _ _ _
  exact Reads.next hunit (Rule.reads_extend_stop (fails_continuation hrest))

end Expression

/-! ### Names and strings -/

section Name

variable {w : Name}

theorem opens_name (hrest : EndsWord rest) : Opens (w.text.toList ++ rest) where
  solid := IsWord.solid w.isWord
  sign := by
    obtain ⟨c, cs, hw, hc, -⟩ := isWord_iff.1 w.isWord
    rw [hw]
    exact signAt?_eq_none (by simp [isOperandStart, hc])
  word := by
    rw [IsWord.wordAt_append w.isWord hrest, String.ofList_toList]
    exact w.not_mem (by decide)

/-- A name is not what a sign follows that does not follow it. -/
theorem fails_word_mark {e : Expect} {s t : String} {ws : List String} {q : PythonRule α}
    (hrest : EndsWord rest) (hsolid : Solid rest) (ht : signAt? rest = some t) (hne : t ≠ s)
    (hws : ∀ v ∈ ws, v ∈ reservedWords) :
    (wordExcept ws >>= fun _ => mark e s >>= fun _ => q).Fails
      ⟨n, w.text.toList ++ rest, levels, false⟩ := by
  refine Reads.bind_fails (reads_wordExcept w.isWord hrest (w.not_mem hws)) (Fails.bind ?_)
  refine fails_mark hsolid ?_
  rw [atSign_iff ht]
  simpa using hne

theorem reads_atom_name {f : Follow} (hrest : EndsWord rest) (hquote : startsQuoted rest = false) :
    (g.atom f).Reads ⟨n, w.text.toList ++ rest, levels, false⟩ (.name w.text) []
      ⟨n, rest, levels, false⟩ := by
  have hstring : g.stringLiteral.Fails ⟨n, w.text.toList ++ rest, levels, false⟩ :=
    Fails.bind (needs_take (fun c (h : ¬ (stringStart? c.rest).isSome) => by simpa using h) _
      (by simp [stringStart?_word w.isWord hrest hquote]))
  have hnumber : number.Fails ⟨n, w.text.toList ++ rest, levels, false⟩ := by
    refine needs_number _ ?_
    obtain ⟨c, cs, hw, hc, -⟩ := isWord_iff.1 w.isWord
    rintro ⟨d, hd, hdigit⟩
    obtain rfl : c = d := by simpa [hw] using hd
    rcases hdigit with hdigit | rfl
    · simp [isDigit_of_isNameStart hc] at hdigit
    · exact absurd hc (by decide)
  refine Fails.firstOf_reads (.bind hstring) ?_
  refine Fails.firstOf_reads (.bind hnumber) ?_
  refine Fails.firstOf_reads (.bind (needs_sign _ _ (not_atSign_word w.isWord))) ?_
  refine Fails.firstOf_reads (.bind (needs_wordIn _ _ ?_)) ?_
  · rw [atWord_word w.isWord hrest]
    exact w.not_mem (by decide)
  · exact Reads.firstOf (Reads.next (reads_wordExcept w.isWord hrest (w.not_mem (by decide)))
      (Rule.reads_pure _ _))

end Name

theorem opens_string (p : PathText) : Opens (p.quoted.toList ++ rest) := by
  rw [p.toList_quoted]
  refine ⟨⟨by decide, by decide, by decide⟩, signAt?_eq_none (by decide), ?_⟩
  simp [wordAt, show isWordStart '"' = false from by decide]

theorem fails_stringLiteral_close : g.stringLiteral.Fails ⟨n, ')' :: rest, levels, false⟩ :=
  Fails.bind rfl

theorem reads_moreStrings {e : Expect} (ps : List PathText) :
    (Rule.many (do fetch e; g.stringLiteral)).Reads
      ⟨n, moreStrings ps ++ ')' :: rest, levels, false⟩ (ps.map fun p => some p.text) []
      ⟨n, ')' :: rest, levels, false⟩ := by
  induction ps with
  | nil =>
    exact Fails.many (Reads.bind_fails (reads_fetch_solid (solid_close rest))
      fails_stringLiteral_close)
  | cons p ps ih =>
    have hhead : (moreStrings ps ++ ')' :: rest).head? ≠ some '"' := by
      cases ps <;> simp [moreStrings]
    have hstring : (do fetch e; g.stringLiteral : PythonRule StringContent).Reads
        ⟨n, ' ' :: (p.quoted.toList ++ (moreStrings ps ++ ')' :: rest)), levels, false⟩
        (some p.text) [] ⟨n, moreStrings ps ++ ')' :: rest, levels, false⟩ :=
      Reads.next (reads_fetch_space (opens_string p).solid) (reads_stringLiteral p hhead)
    rw [moreStrings, List.flatMap_cons, ← moreStrings, List.append_assoc, List.cons_append]
    refine Reads.many hstring ?_ ih
    simp only [Place.size, List.length_cons, List.length_append]
    omega

theorem reads_atom_strings (p : PathText) (ps : List PathText) :
    (g.atom .bracket).Reads ⟨n, p.quoted.toList ++ (moreStrings ps ++ ')' :: rest), levels, false⟩
      (.strings ((p :: ps).map fun p => some p.text)) [] ⟨n, ')' :: rest, levels, false⟩ := by
  have hhead : (moreStrings ps ++ ')' :: rest).head? ≠ some '"' := by
    cases ps <;> simp [moreStrings]
  exact Reads.firstOf (Reads.next (reads_stringLiteral p hhead)
    (Reads.next (reads_moreStrings ps) (Rule.reads_pure _ _)))

/-! ### Arguments -/

section Arguments

variable {depth : Nat}

theorem reads_argument_name (w : Name) :
    (nested (depth + 4)).argument.Reads ⟨n, w.text.toList ++ ')' :: rest, levels, false⟩
      (some (.name w.text)) [] ⟨n, ')' :: rest, levels, false⟩ := by
  have hends : EndsWord (')' :: rest) := by simp; decide
  have hoperand : ((nested depth).operand .bracket).Reads
      ⟨n, w.text.toList ++ ')' :: rest, levels, false⟩ ⟨.name w.text, true⟩ []
      ⟨n, ')' :: rest, levels, false⟩ :=
    Reads.next (reads_atom_name hends rfl) (Rule.reads_extend_stop (fails_trailer (.bracket rest)))
  have hassign : ∀ {s : String} {q : PythonRule Expr}, ")" ≠ s →
      (wordExcept operandWords >>= fun _ => mark Follow.bracket.after s >>= fun _ => q).Fails
        ⟨n, w.text.toList ++ ')' :: rest, levels, false⟩ := fun hs =>
    fails_word_mark hends (solid_close rest) signAt?_close hs (by decide)
  refine Fails.firstOf_reads (.bind (needs_sign _ _ (not_atSign_word w.isWord))) ?_
  refine Fails.firstOf_reads (.bind (needs_sign _ _ (not_atSign_word w.isWord))) ?_
  refine Fails.firstOf_reads ?_ (Reads.firstOf (Reads.next
    (reads_expression (opens_name hends) (.bracket rest) (fun q => hassign (by decide)) hoperand)
    (Rule.reads_pure _ _)))
  exact fails_word_mark hends (solid_close rest) signAt?_close (by decide) (by decide)

theorem reads_argument_strings (p : PathText) (ps : List PathText) :
    (nested (depth + 4)).argument.Reads
      ⟨n, p.quoted.toList ++ (moreStrings ps ++ ')' :: rest), levels, false⟩
      (some (.strings ((p :: ps).map fun p => some p.text))) []
      ⟨n, ')' :: rest, levels, false⟩ := by
  have hopens : Opens (p.quoted.toList ++ (moreStrings ps ++ ')' :: rest)) := opens_string p
  have hword : ∀ {ws : List String}, (wordExcept ws).Fails
      ⟨n, p.quoted.toList ++ (moreStrings ps ++ ')' :: rest), levels, false⟩ := by
    intro ws
    refine needs_wordExcept ws _ ?_
    rw [p.toList_quoted]
    exact not_atWord_cons (by decide) (by simp)
  have hoperand : ((nested depth).operand .bracket).Reads
      ⟨n, p.quoted.toList ++ (moreStrings ps ++ ')' :: rest), levels, false⟩
      ⟨.strings ((p :: ps).map fun p => some p.text), false⟩ []
      ⟨n, ')' :: rest, levels, false⟩ :=
    Reads.next (reads_atom_strings p ps) (Rule.reads_extend_stop (fails_trailer (.bracket rest)))
  refine Fails.firstOf_reads (.bind (needs_sign _ _ hopens.not_atSign)) ?_
  refine Fails.firstOf_reads (.bind (needs_sign _ _ hopens.not_atSign)) ?_
  refine Fails.firstOf_reads (.bind hword) (Reads.firstOf (Reads.next
    (reads_expression hopens (.bracket rest) (fun q => .bind hword) hoperand)
    (Rule.reads_pure _ _)))

theorem fails_mark_close {e : Expect} {s : String} (h : ")" ≠ s) :
    (mark e s).Fails ⟨n, ')' :: rest, levels, false⟩ :=
  fails_mark (solid_close rest) (not_atSign_close (by simpa using h))

theorem reads_moreItems_close {item : PythonRule α} :
    (moreItems .bracket item).Reads ⟨n, ')' :: rest, levels, false⟩ ([], 0) []
      ⟨n, ')' :: rest, levels, false⟩ :=
  Reads.next (Fails.many (.bind (fails_mark_close (by decide))))
    (Reads.next (Fails.accepts (fails_mark_close (by decide))) (Rule.reads_pure _ _))

/-- No item follows, and no comma. -/
theorem reads_splitItems_close {e : Expect} {item : PythonRule α} :
    (splitItems e item).Reads ⟨n, ')' :: rest, levels, false⟩ [] []
      ⟨n, ')' :: rest, levels, false⟩ :=
  Reads.next (Fails.many (Reads.bind_fails (reads_lineSplit_solid (solid_close rest))
      (.bind (fails_mark_close (by decide)))))
    (Reads.next (Fails.optional (fails_mark_close (by decide))) (Rule.reads_pure _ _))

/-- The base of a class, from behind the opening bracket on. -/
theorem reads_arguments (w : Name) :
    (nested (depth + 4)).arguments.Reads ⟨n, w.text.toList ++ ')' :: rest, levels, false⟩
      [some (.name w.text)] [] ⟨n, rest, levels, false⟩ := by
  have hfetch : (fetch Follow.bracket.more).Reads
      ⟨n, w.text.toList ++ ')' :: rest, levels, false⟩ () []
      ⟨n, w.text.toList ++ ')' :: rest, levels, false⟩ :=
    reads_fetch_solid (IsWord.solid w.isWord)
  have hitems : (commaItems .bracket (nested (depth + 4)).argument).Reads
      ⟨n, w.text.toList ++ ')' :: rest, levels, false⟩ ([some (.name w.text)], 0) []
      ⟨n, ')' :: rest, levels, false⟩ :=
    Reads.next hfetch (Reads.next (reads_argument_name w)
      (Reads.next reads_moreItems_close (Rule.reads_pure _ _)))
  exact Reads.next hfetch (Reads.next (Reads.optional hitems)
    (Reads.next reads_mark_close (Rule.reads_pure _ _)))

theorem fails_clauses_close : (g.clauses .bracket).Fails ⟨n, ')' :: rest, levels, false⟩ := by
  have hkey : ∀ {w : String}, w ≠ "" →
      (key Follow.bracket.after w).Fails ⟨n, ')' :: rest, levels, false⟩ := fun hw =>
    Reads.bind_fails (reads_fetch_solid (solid_close rest))
      (needs_keyword _ _ (not_atWord_close hw.symm))
  exact Fails.bind (Reads.bind_fails (Fails.optional (hkey (by decide)))
    (Fails.bind (hkey (by decide))))

theorem reads_callArguments (p : PathText) (ps : List PathText) :
    (nested (depth + 4)).callArguments.Reads
      ⟨n, p.quoted.toList ++ (moreStrings ps ++ ')' :: rest), levels, false⟩
      (.strings ((p :: ps).map fun p => some p.text)) [] ⟨n, rest, levels, false⟩ := by
  refine Reads.next (reads_lineSplit_solid (opens_string p).solid)
    (Reads.next (reads_fetch_solid (opens_string p).solid) (Reads.orElse ?_))
  refine Reads.next (reads_argument_strings p ps) (Fails.orElse_reads ?_ ?_)
  · exact Reads.bind_fails (Rule.reads_require rfl) (Fails.bind fails_clauses_close)
  · exact Reads.next reads_splitItems_close (Reads.next reads_mark_close (Rule.reads_pure _ _))

end Arguments

/-! ### Calls -/

end Grammar

def Function.callExpr (f : Function) : Expr :=
  .call (some f.verb.text) (.strings (f.pieces.map fun p => some p.text))

namespace Grammar

variable {g : Grammar} {depth n : Nat} {levels : List Nat} {rest : List Char} {f : Follow}

theorem solid_dot (cs : List Char) : Solid ('.' :: cs) := ⟨by decide, by decide, by decide⟩

theorem solid_open (cs : List Char) : Solid ('(' :: cs) := ⟨by decide, by decide, by decide⟩

theorem reads_trailer_member (o : Operand) (w : Name) :
    (g.trailer f o).Reads ⟨n, '.' :: (w.text.toList ++ '(' :: rest), levels, false⟩
      ⟨.member w.text, true⟩ [] ⟨n, '(' :: rest, levels, false⟩ := by
  have hdot : (sign ".").Reads ⟨n, '.' :: (w.text.toList ++ '(' :: rest), levels, false⟩ () []
      ⟨n, w.text.toList ++ '(' :: rest, levels, false⟩ :=
    reads_sign rfl (by decide) (IsWord.signAt?_dot w.isWord)
  refine Reads.next (reads_fetch_solid (solid_dot _)) (Reads.firstOf (Reads.next hdot ?_))
  exact Reads.next (reads_fetch_solid (IsWord.solid w.isWord))
    (Reads.next (reads_word w.isWord (by simp; decide)) (Rule.reads_pure _ _))

theorem reads_trailer_call (w : String) (p : PathText) (ps : List PathText) :
    ((nested (depth + 4)).trailer f ⟨.member w, true⟩).Reads
      ⟨n, '(' :: (p.quoted.toList ++ (moreStrings ps ++ ')' :: rest)), levels, false⟩
      ⟨.call (some w) (.strings ((p :: ps).map fun p => some p.text)), true⟩ []
      ⟨n, rest, levels, false⟩ := by
  have hsign : ∀ {ss : List String}, "(" ∉ ss → ¬ AtSign ss
      ⟨n, '(' :: (p.quoted.toList ++ (moreStrings ps ++ ')' :: rest)), levels, false⟩ := by
    intro ss hss
    rwa [atSign_iff signAt?_open]
  refine Reads.next (reads_fetch_solid (solid_open _)) ?_
  refine Fails.firstOf_reads (.bind (needs_sign _ _ (hsign (by decide)))) ?_
  refine Fails.firstOf_reads (.bind (needs_sign _ _ (hsign (by decide)))) (Reads.firstOf ?_)
  exact Reads.next (reads_sign rfl (by decide) signAt?_open)
    (Reads.next (reads_callArguments p ps) (Rule.reads_pure _ _))

theorem reads_call (f : Function) {plain : Bool} {width : Nat} (hrest : Break width rest) :
    ((nested (depth + 8)).expression plain .line).Reads ⟨n, f.callChars ++ rest, levels, false⟩
      f.callExpr [] ⟨n, rest, levels, false⟩ := by
  have htext : f.callChars ++ rest = f.object.text.toList ++ '.' :: (f.verb.text.toList ++ '(' ::
      (f.piece.quoted.toList ++ (moreStrings f.morePieces ++ ')' :: rest))) := by
    simp [Function.callChars]
  have hoperand : ((nested (depth + 4)).operand .line).Reads
      ⟨n, f.callChars ++ rest, levels, false⟩ ⟨f.callExpr, true⟩ [] ⟨n, rest, levels, false⟩ := by
    rw [htext]
    refine Reads.next (reads_atom_name (by simp; decide) rfl) ?_
    refine Reads.extend (reads_trailer_member _ f.verb) ?_ (Reads.extend
      (reads_trailer_call f.verb.text f.piece f.morePieces) ?_
      (Rule.reads_extend_stop (fails_trailer (.line hrest))))
    all_goals
      simp only [Place.size, List.length_cons, List.length_append]
      omega
  have hends : EndsWord ('.' :: (f.verb.text.toList ++ '(' ::
      (f.piece.quoted.toList ++ (moreStrings f.morePieces ++ ')' :: rest)))) := by simp; decide
  refine reads_expression ?_ (.line hrest) ?_ hoperand
  · rw [htext]
    exact opens_name hends
  · intro q
    rw [htext]
    exact fails_word_mark hends (solid_dot _) (IsWord.signAt?_dot f.verb.isWord) (by decide)
      (by decide)

end Grammar

end ServiceAtlas.Python
