import ServiceAtlas.Proofs.Python.TokenSpans

/-!
The layers of an expression. Above an operand stand signs, comparisons, `not`, `and`, `or`, lambdas
and conditionals; each of them either begins with a word or a sign of its own, or goes on behind the
operand. So an expression begins with something in front of an operand, or with an operand that it
consists of or goes beyond (`Grammar.layered_expression`). The operand is an atom with trailers.
-/

namespace ServiceAtlas.Python

open Rule (Spans Fails Extends)
open Cursor

/-- Nothing is known of the expression but perhaps that it is starred. -/
def Expr.isOpaque : Expr → Bool
  | .other | .splat _ => true
  | _ => false

namespace Grammar

/-- Something stands next that comes before an operand: a sign, a word, or a name that is given a
value. -/
def Prefixed (f : Follow) (c : Cursor) : Prop :=
  AtSign ["+", "-", "~", "*"] c ∨ AtWord (· ∈ ["not", "lambda", "await"]) c ∨
    ∃ w c₁ c₂, (wordExcept operandWords).Spans c w c₁ ∧ (mark f.after ":=").Spans c₁ () c₂

/-- How an expression from `c` on is layered. -/
inductive Layered (f : Follow) (c : Cursor) : Expr → Cursor → Prop
  | front {e : Expr} {c' : Cursor} (isPrefixed : Prefixed f c) (isOpaque : e.isOpaque = true) :
      Layered f c e c'
  | operand {depth : Nat} {o : Operand} {c' : Cursor} (read : ((nested depth).operand f).Spans c o c') :
      Layered f c o.expr c'
  | beyond {depth : Nat} {o : Operand} {c₁ c' : Cursor}
      (read : ((nested depth).operand f).Spans c o c₁) (longer : Place.size c' < Place.size c₁) :
      Layered f c .other c'

section Layers

variable {f : Follow} {c c₁ c' : Cursor} {e e' : Expr}

/-- Steps that make an expression opaque either are not taken or move on. -/
theorem spans_extend_other {step : Expr → PythonRule Expr}
    (hstep : ∀ {a b s s'}, (step a).Spans s b s' → b = .other)
    (h : (Rule.extend step e).Spans c e' c') :
    e' = e ∧ c' = c ∨ e' = .other ∧ Place.size c' < Place.size c := by
  rcases h.extend_steps.cases_tail with heq | ⟨⟨b, s⟩, hbefore, hlast, hlt⟩
  · exact .inl (Prod.mk.inj heq)
  · exact .inr ⟨hstep hlast, Nat.lt_of_lt_of_le hlt (Rule.size_le_of_extends hbefore)⟩

theorem Layered.extend {step : Expr → PythonRule Expr} (h : Layered f c e c₁)
    (hstep : ∀ {a b s s'}, (step a).Spans s b s' → b = .other)
    (hextend : (Rule.extend step e).Spans c₁ e' c') : Layered f c e' c' := by
  rcases spans_extend_other hstep hextend with ⟨rfl, rfl⟩ | ⟨rfl, hlt⟩
  · exact h
  · cases h with
    | front isPrefixed isOpaque => exact .front isPrefixed rfl
    | operand read => exact .beyond read hlt
    | beyond read longer => exact .beyond read (Nat.lt_trans hlt longer)

/-- An expression of which something is known is an operand. -/
theorem Layered.exists_operand (h : Layered f c e c') (he : e.isOpaque = false) :
    ∃ depth o, ((nested depth).operand f).Spans c o c' ∧ e = o.expr := by
  cases h with
  | front _ isOpaque => simp [isOpaque] at he
  | operand read => exact ⟨_, _, read, rfl⟩
  | beyond _ _ => cases he

theorem layered_unary {depth : Nat} (hc : Settled c.rest)
    (h : ((nested depth).unary f).Spans c e c') : Layered f c e c' := by
  cases depth with
  | zero => exact absurd h Rule.not_spans_fail
  | succ depth =>
    replace h : ((nested depth).unaryRule f).Spans c e c' := h
    obtain ⟨_, c₁, hblanks, hcases⟩ := Rule.spans_bind_iff.1 h
    obtain rfl := fetch_of_settled hc hblanks
    simp only [Rule.spans_firstOf_cons_iff, Rule.not_spans_firstOf_nil, and_false, or_false] at hcases
    rcases hcases with h | ⟨-, h | ⟨-, h | ⟨-, h⟩⟩⟩
    · simp only [Rule.spans_bind_iff] at h
      obtain ⟨s, c₂, hsign, _, _, _, hpure⟩ := h
      obtain ⟨rfl, -⟩ := Rule.spans_pure_iff.1 hpure
      obtain ⟨s, hs, hat⟩ := hsign.needed (needs_signIn _)
      exact .front (.inl ⟨s, by grind, hat⟩) rfl
    · simp only [Rule.spans_bind_iff] at h
      obtain ⟨_, c₂, hword, _, _, _, _, _, _, hpure⟩ := h
      obtain ⟨rfl, -⟩ := Rule.spans_pure_iff.1 hpure
      exact .front (.inr (.inl ((hword.needed (needs_keyword _)).mono (by simp_all)))) rfl
    · simp only [Rule.spans_bind_iff] at h
      obtain ⟨_, c₂, hsign, _, _, _, _, _, _, _, _, _, hpure⟩ := h
      obtain ⟨rfl, -⟩ := Rule.spans_pure_iff.1 hpure
      obtain ⟨s, hs, hat⟩ := hsign.needed (needs_sign _)
      exact .front (.inl ⟨s, by grind, hat⟩) rfl
    · obtain ⟨o, c₂, hoperand, hpure⟩ := Rule.spans_bind_iff.1 h
      obtain ⟨rfl, rfl⟩ := Rule.spans_pure_iff.1 hpure
      exact .operand hoperand

theorem layered_primary {depth : Nat} (hc : Settled c.rest)
    (h : ((nested depth).primary f).Spans c e c') : Layered f c e c' := by
  cases depth with
  | zero => exact absurd h Rule.not_spans_fail
  | succ depth =>
    replace h : ((nested depth).primaryRule f).Spans c e c' := h
    obtain ⟨e₁, c₁, hunary, hextend⟩ := Rule.spans_bind_iff.1 h
    refine (layered_unary hc hunary).extend (fun hstep => ?_) hextend
    simp only [Rule.spans_bind_iff, Rule.spans_pure_iff] at hstep
    grind

theorem layered_comparison {depth : Nat} (hc : Settled c.rest)
    (h : ((nested depth).comparison f).Spans c e c') : Layered f c e c' := by
  obtain ⟨e₁, c₁, hprimary, hextend⟩ := Rule.spans_bind_iff.1 h
  refine (layered_primary hc hprimary).extend (fun hstep => ?_) hextend
  simp only [Rule.spans_bind_iff, Rule.spans_pure_iff] at hstep
  grind

theorem layered_unit {depth : Nat} {plain : Bool}
    (h : ((nested depth).unit plain f).Spans c e c') :
    ∃ c₀, (fetch operandNext).Spans c () c₀ ∧ Layered f c₀ e c' := by
  cases depth with
  | zero => exact absurd h Rule.not_spans_fail
  | succ depth =>
    replace h : ((nested depth).unitRule plain f).Spans c e c' := h
    obtain ⟨_, c₀, hblanks, h⟩ := Rule.spans_bind_iff.1 h
    refine ⟨c₀, hblanks, ?_⟩
    simp only [Rule.spans_firstOf_cons_iff, Rule.not_spans_firstOf_nil, and_false, or_false] at h
    rcases h with h | ⟨-, h | ⟨-, h | ⟨-, h⟩⟩⟩
    · simp only [Rule.spans_bind_iff] at h
      obtain ⟨_, c₂, hword, _, _, _, hpure⟩ := h
      obtain ⟨rfl, -⟩ := Rule.spans_pure_iff.1 hpure
      exact .front (.inr (.inl ((hword.needed (needs_keyword _)).mono (by simp_all)))) rfl
    · simp only [lambda, Rule.spans_bind_iff] at h
      obtain ⟨_, c₁, ⟨_, c₂, hword, _⟩, hpure⟩ := h
      obtain ⟨rfl, -⟩ := Rule.spans_pure_iff.1 hpure
      exact .front (.inr (.inl ((hword.needed (needs_keyword _)).mono (by simp_all)))) rfl
    · simp only [Rule.spans_bind_iff] at h
      obtain ⟨w, c₁, hword, _, c₂, hmark, _, _, _, hpure⟩ := h
      obtain ⟨rfl, -⟩ := Rule.spans_pure_iff.1 hpure
      exact .front (.inr (.inr ⟨w, c₁, c₂, hword, hmark⟩)) rfl
    · exact layered_comparison (settled_of_fetch hblanks) h

/-- An expression is layered behind the blanks before it. -/
theorem layered_expression {depth : Nat} {plain : Bool}
    (h : ((nested depth).expression plain f).Spans c e c') :
    ∃ c₀, (fetch operandNext).Spans c () c₀ ∧ Layered f c₀ e c' := by
  cases depth with
  | zero => exact absurd h Rule.not_spans_fail
  | succ depth =>
    replace h : ((nested depth).expressionRule plain f).Spans c e c' := h
    obtain ⟨e₁, c₁, hunit, hextend⟩ := Rule.spans_bind_iff.1 h
    obtain ⟨c₀, hblanks, hlayered⟩ := layered_unit hunit
    refine ⟨c₀, hblanks, hlayered.extend (fun hstep => ?_) hextend⟩
    simp only [continuation, Rule.spans_bind_iff, Rule.spans_firstOf_cons_iff,
      Rule.not_spans_firstOf_nil, Rule.spans_pure_iff] at hstep
    grind

end Layers

/-! ### Operands -/

section Operands

variable {g : Grammar} {f : Follow} {c c' : Cursor} {o o' : Operand}

theorem operand_steps (h : (g.operand f).Spans c o c') : ∃ e c₁ named, (g.atom f).Spans c e c₁ ∧
    Relation.ReflTransGen (Extends (g.trailer f)) (⟨e, named⟩, c₁) (o, c') := by
  obtain ⟨e, c₁, hatom, hextend⟩ := Rule.spans_bind_iff.1 h
  exact ⟨e, c₁, _, hatom, hextend.extend_steps⟩

/-- What a trailer makes of what stands before it. -/
inductive Trails (g : Grammar) (f : Follow) (o : Operand) (c : Cursor) : Expr → Cursor → Prop
  | member {name : String} {c₁ c₂ c₃ c' : Cursor} (blanks : (fetch f.after).Spans c () c₁)
      (dotted : (sign ".").Spans c₁ () c₂) (more : (fetch {}).Spans c₂ () c₃)
      (named : word.Spans c₃ name c') : Trails g f o c (.member name) c'
  | subscript {c' : Cursor} : Trails g f o c .subscript c'
  | call {verb : Option String} {first : Argument} {c₁ c₂ c' : Cursor}
      (blanks : (fetch f.after).Spans c () c₁) (opened : (sign "(").Spans c₁ () c₂)
      (called : g.callArguments.Spans c₂ first c')
      (isVerb : ∀ name, verb = some name → o.expr = .member name) : Trails g f o c (.call verb first) c'

theorem trails_of_trailer (h : (g.trailer f o).Spans c o' c') : Trails g f o c o'.expr c' := by
  obtain ⟨_, c₁, hblanks, h⟩ := Rule.spans_bind_iff.1 h
  simp only [Rule.spans_firstOf_cons_iff, Rule.not_spans_firstOf_nil, and_false, or_false] at h
  rcases h with h | ⟨-, h | ⟨-, h⟩⟩
  · simp only [Rule.spans_bind_iff] at h
    obtain ⟨_, c₂, hdot, _, c₃, hmore, name, c₄, hword, hpure⟩ := h
    obtain ⟨rfl, rfl⟩ := Rule.spans_pure_iff.1 hpure
    exact .member hblanks hdot hmore hword
  · simp only [Rule.spans_bind_iff] at h
    obtain ⟨_, _, _, _, _, _, _, _, _, hpure⟩ := h
    obtain ⟨rfl, rfl⟩ := Rule.spans_pure_iff.1 hpure
    exact .subscript
  · simp only [Rule.spans_bind_iff] at h
    obtain ⟨_, c₂, hopened, first, c₃, hcalled, hpure⟩ := h
    obtain ⟨rfl, rfl⟩ := Rule.spans_pure_iff.1 hpure
    refine .call hblanks hopened hcalled fun name hname => ?_
    split at hname
    · cases hname
      assumption
    · cases hname

/-- The words that stand for values. -/
def constantWords : List String := ["True", "False", "None"]

/-- Strings after a first one. -/
def nextString (g : Grammar) (f : Follow) : PythonRule StringContent := do
  fetch f.more
  g.stringLiteral

def adjacentStrings (g : Grammar) (f : Follow) : PythonRule Expr := do
  let first ← g.stringLiteral
  let others ← (g.nextString f).many
  return .strings (first :: others)

/-- What an atom is: strings, a number, a word that stands for a value, or something else. -/
inductive Atomic (g : Grammar) (f : Follow) (c : Cursor) : Expr → Cursor → Prop
  | strings {s : StringContent} {ss : List StringContent} {c₁ c' : Cursor}
      (first : g.stringLiteral.Spans c s c₁) (others : (g.nextString f).many.Spans c₁ ss c') :
      Atomic g f c (.strings (s :: ss)) c'
  | number {text : String} {c' : Cursor} (noString : g.stringLiteral.Fails c)
      (read : number.Spans c text c') : Atomic g f c (.constant text) c'
  | word {text : String} {c' : Cursor} (noString : g.stringLiteral.Fails c)
      (noNumber : Python.number.Fails c) (read : (wordIn constantWords).Spans c text c') :
      Atomic g f c (.constant text) c'
  | another {e : Expr} {c' : Cursor} (noString : g.stringLiteral.Fails c)
      (noNumber : Python.number.Fails c)
      (noWord : (wordIn constantWords).Fails c ∨ AtSign ["..."] c)
      (isOther : e = .other ∨ (∃ w, e = .name w) ∨ ∃ target, e = .group target) : Atomic g f c e c'

theorem elements_cases {closing : String} {e : Expr} (h : (g.elements closing).Spans c e c') :
    e = .other ∨ ∃ target, e = .group target := by
  obtain ⟨_, c₁, hblanks, h⟩ := Rule.spans_bind_iff.1 h
  simp only [Rule.spans_firstOf_cons_iff, Rule.not_spans_firstOf_nil, and_false, or_false,
    Rule.spans_bind_iff, Rule.spans_orElse_iff, Rule.spans_pure_iff] at h
  grind

/-- A rule that fails fails for its first part, if the others cannot fail. -/
theorem fails_of_last {α β : Type} {p : PythonRule α} {b : α → β}
    (h : (p >>= fun a => pure (b a)).Fails c) : p.Fails c := by
  rcases Rule.fails_or_spans p c with hp | ⟨a, c', ds, hp⟩
  · exact hp
  · exact absurd ⟨ds, hp.last (Rule.reads_pure (b a) c')⟩ h.not_spans

theorem fails_of_adjacentStrings (h : (g.adjacentStrings f).Fails c) : g.stringLiteral.Fails c := by
  rcases Rule.fails_or_spans g.stringLiteral c with hp | ⟨s, c₁, hp⟩
  · exact hp
  · rcases Rule.fails_or_spans (g.nextString f).many c₁ with hmany | ⟨ss, c₂, hmany⟩
    · cases hmany
    · have hspans : (g.adjacentStrings f).Spans c (.strings (s :: ss)) c₂ := by
        simp only [adjacentStrings, Rule.spans_bind_iff]
        exact ⟨s, c₁, hp, ss, c₂, hmany, Rule.spans_pure_iff.2 ⟨rfl, rfl⟩⟩
      exact absurd hspans h.not_spans

theorem atomic_of_atom {e : Expr} (h : (g.atom f).Spans c e c') : Atomic g f c e c' := by
  simp only [atom, Rule.spans_firstOf_cons_iff, Rule.not_spans_firstOf_nil, and_false, or_false] at h
  rcases h with h | ⟨hstring, h | ⟨hnumber, hdots | ⟨-, h | ⟨hword, h | ⟨-, h | ⟨-, h | ⟨-, h⟩⟩⟩⟩⟩⟩⟩
  · simp only [Rule.spans_bind_iff] at h
    obtain ⟨s, c₁, hfirst, ss, c₂, hothers, hpure⟩ := h
    obtain ⟨rfl, rfl⟩ := Rule.spans_pure_iff.1 hpure
    exact .strings hfirst hothers
  · obtain ⟨text, c₁, hread, hpure⟩ := Rule.spans_bind_iff.1 h
    obtain ⟨rfl, rfl⟩ := Rule.spans_pure_iff.1 hpure
    exact .number (fails_of_adjacentStrings hstring) hread
  · obtain ⟨_, c₁, hsign, hpure⟩ := Rule.spans_bind_iff.1 hdots
    obtain ⟨rfl, rfl⟩ := Rule.spans_pure_iff.1 hpure
    exact .another (fails_of_adjacentStrings hstring) (fails_of_last hnumber)
      (.inr (hsign.needed (needs_sign _))) (.inl rfl)
  · obtain ⟨text, c₁, hread, hpure⟩ := Rule.spans_bind_iff.1 h
    obtain ⟨rfl, rfl⟩ := Rule.spans_pure_iff.1 hpure
    exact .word (fails_of_adjacentStrings hstring) (fails_of_last hnumber) hread
  all_goals
    refine .another (fails_of_adjacentStrings hstring) (fails_of_last hnumber)
      (.inl (fails_of_last hword)) ?_
  · obtain ⟨w, c₁, -, hpure⟩ := Rule.spans_bind_iff.1 h
    exact .inr (.inl ⟨w, (Rule.spans_pure_iff.1 hpure).1⟩)
  · obtain ⟨_, c₁, -, helements⟩ := Rule.spans_bind_iff.1 h
    exact (elements_cases helements).imp_right .inr
  · obtain ⟨_, c₁, -, helements⟩ := Rule.spans_bind_iff.1 h
    exact (elements_cases helements).imp_right .inr
  · simp only [Rule.spans_bind_iff] at h
    obtain ⟨_, _, _, _, _, _, hpure⟩ := h
    exact .inl (Rule.spans_pure_iff.1 hpure).1

end Operands

end Grammar

end ServiceAtlas.Python
