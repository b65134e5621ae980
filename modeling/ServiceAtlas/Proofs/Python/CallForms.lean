import ServiceAtlas.Proofs.Python.DecoratedFunctions
import ServiceAtlas.Proofs.Python.LiteralForms

/-!
The calls by which functions are decorated, and the path that an endpoint has from one. The arguments
of a call are read form by form (`Grammar.exists_callForm`), and the path is what the first of them that
has no name is written as, if that is a literal. A generator may stand alone between the brackets of
a call; then the path is taken from the expression that it repeats. Where the line is split before an
argument the path is empty (`CallForm.path`).
-/

namespace ServiceAtlas.Python

open Rule (Spans Runs Extends)

/-! ### Forms -/

/-- How an argument of a call is written. -/
inductive ArgumentForm where
  /-- Behind two stars. -/
  | unpacked
  /-- Behind a star. -/
  | starred
  | named
  /-- A literal, by its parts. -/
  | literal (parts : List String)
  /-- Any other expression. -/
  | computed
  deriving DecidableEq, Repr

namespace ArgumentForm

def isPositional : ArgumentForm → Bool
  | .unpacked | .named => false
  | .starred | .literal _ | .computed => true

/-- What is taken of the argument. -/
def value (source : SourceText) : ArgumentForm → String
  | .literal parts => String.join (parts.map source.piece)
  | _ => ""

end ArgumentForm

/-- What stands between the brackets of a call: arguments, or an expression with the loops that repeat
it. With each goes whether the line is split before it. -/
inductive CallForm where
  | arguments (items : List (Bool × ArgumentForm))
  | generator (split : Bool) (repeated : ArgumentForm)
  deriving DecidableEq, Repr

namespace CallForm

/-- The first argument that is given by position. A generator is one that is computed. -/
def first? : CallForm → Option ArgumentForm
  | .arguments items => (items.map Prod.snd).find? (·.isPositional)
  | .generator _ _ => some .computed

/-- The value of the first argument that is given by position, empty if there is none. -/
def firstValue (source : SourceText) (call : CallForm) : String :=
  (call.first?.map (·.value source)).getD ""

/-- What is taken of an argument if the line may be split before it: of a split line, nothing. -/
def valueBehind (source : SourceText) (split : Bool) (form : ArgumentForm) : String :=
  if split then "" else form.value source

/-- The path that is taken from the call. A split line counts as an argument given by position. -/
def path (source : SourceText) : CallForm → String
  | .arguments items => ((items.find? fun item => item.1 || item.2.isPositional).map
      fun item => valueBehind source item.1 item.2).getD ""
  | .generator split repeated => valueBehind source split repeated

variable (source : SourceText)

theorem path_cons (split : Bool) (form : ArgumentForm) (items : List (Bool × ArgumentForm)) :
    path source (.arguments ((split, form) :: items)) = if split || form.isPositional then
      valueBehind source split form else path source (.arguments items) := by
  cases h : split || form.isPositional <;> simp [path, h]

/-- The path is the value of the first argument that is given by position, unless the line is split
somewhere before it. -/
theorem path_of_first {before after : List (Bool × ArgumentForm)} {split : Bool} {form : ArgumentForm}
    (hbefore : ∀ item ∈ before, item.2.isPositional = false) (hform : form.isPositional = true) :
    path source (.arguments (before ++ (split, form) :: after)) =
      valueBehind source (split || before.any (·.1)) form := by
  induction before with
  | nil => simp [path_cons, hform]
  | cons item before ih =>
    obtain ⟨split', form'⟩ := item
    obtain ⟨hitem, hothers⟩ := List.forall_mem_cons.1 hbefore
    rw [List.cons_append, path_cons, ih hothers, hitem, Bool.or_false, List.any_cons]
    cases split' with
    | true => simp [valueBehind]
    | false => rfl

/-- Without an argument that is given by position there is at most a split line to take. -/
theorem path_eq_empty {items : List (Bool × ArgumentForm)}
    (h : ∀ item ∈ items, item.2.isPositional = false) : path source (.arguments items) = "" := by
  induction items with
  | nil => rfl
  | cons item items ih =>
    obtain ⟨split, form⟩ := item
    obtain ⟨hitem, hitems⟩ := List.forall_mem_cons.1 h
    rw [path_cons, ih hitems, hitem, Bool.or_false]
    cases split <;> rfl

theorem firstValue_of_first {before after : List (Bool × ArgumentForm)} {split : Bool}
    {form : ArgumentForm} (hbefore : ∀ item ∈ before, item.2.isPositional = false)
    (hform : form.isPositional = true) :
    firstValue source (.arguments (before ++ (split, form) :: after)) = form.value source := by
  have hnone : (before.map Prod.snd).find? (·.isPositional) = none := by
    simpa [List.find?_eq_none] using hbefore
  simp [firstValue, first?, hnone, hform]

theorem firstValue_eq_empty {items : List (Bool × ArgumentForm)}
    (h : ∀ item ∈ items, item.2.isPositional = false) :
    firstValue source (.arguments items) = "" := by
  have hnone : (items.map Prod.snd).find? (·.isPositional) = none := by
    simpa [List.find?_eq_none] using h
  simp [firstValue, first?, hnone]

/-- The call is a generator that repeats the literal, or the literal is its first argument given by
position and the line is split before that. -/
def Misleads (call : CallForm) (parts : List String) : Prop :=
  call = .generator false (.literal parts) ∨
    ∃ before split after, call = .arguments (before ++ (split, .literal parts) :: after) ∧
      (∀ item ∈ before, item.2.isPositional = false) ∧ (split || before.any (·.1)) = true

/-- The path is the value of the first argument but for the calls that mislead. -/
theorem path_ne_firstValue_iff (call : CallForm) : call.path source ≠ call.firstValue source ↔
    ∃ parts, call.Misleads parts ∧ String.join (parts.map source.piece) ≠ "" := by
  match call with
  | .generator split repeated =>
    cases split <;> cases repeated <;>
      simp [Misleads, path, firstValue, first?, ArgumentForm.value, valueBehind]
  | .arguments items =>
    constructor
    · intro hne
      cases hfirst : items.find? (·.2.isPositional) with
      | none =>
        have hnone : ∀ item ∈ items, item.2.isPositional = false := by
          simpa [List.find?_eq_none] using hfirst
        exact absurd (by rw [path_eq_empty source hnone, firstValue_eq_empty source hnone]) hne
      | some item =>
        obtain ⟨split, form⟩ := item
        obtain ⟨hform, before, after, rfl, hbefore⟩ := List.find?_eq_some_iff_append.1 hfirst
        have hbefore : ∀ item ∈ before, item.2.isPositional = false := by simpa using hbefore
        rw [path_of_first source hbefore hform, firstValue_of_first source hbefore hform] at hne
        cases hsplit : split || before.any (·.1) with
        | false => exact absurd (by rw [hsplit, valueBehind, if_neg Bool.false_ne_true]) hne
        | true =>
          rw [hsplit, valueBehind, if_pos rfl] at hne
          cases form with
          | literal parts =>
            exact ⟨parts, .inr ⟨before, split, after, rfl, hbefore, hsplit⟩, hne.symm⟩
          | _ => exact absurd rfl hne
    · rintro ⟨parts, heq | ⟨before, split, after, heq, hbefore, hsplit⟩, hparts⟩
      · cases heq
      · cases heq
        rw [path_of_first source hbefore rfl, hsplit, firstValue_of_first source hbefore rfl]
        exact hparts.symm

end CallForm

/-! ### Forms in a text -/

namespace Grammar

variable (g : Grammar)

/-- From `c` to `c'` an argument is written in a form. -/
inductive WritesArgument : Cursor → ArgumentForm → Cursor → Prop
  | unpacked {e : Expr} {c c₁ c' : Cursor} (marked : (sign "**").Spans c () c₁)
      (given : (g.value .bracket).Spans c₁ e c') : WritesArgument c .unpacked c'
  | starred {e : Expr} {c c₁ c' : Cursor} (marked : (sign "*").Spans c () c₁)
      (given : (g.value .bracket).Spans c₁ e c') : WritesArgument c .starred c'
  | named {w : String} {e : Expr} {c c₁ c₂ c' : Cursor}
      (name : (wordExcept operandWords).Spans c w c₁)
      (marked : (mark Follow.bracket.after "=").Spans c₁ () c₂)
      (given : (g.value .bracket).Spans c₂ e c') : WritesArgument c .named c'
  | literal {e : Expr} {parts : List String} {c c' : Cursor} (given : (g.value .bracket).Spans c e c')
      (isLiteral : Literal c parts c') : WritesArgument c (.literal parts) c'
  | computed {e : Expr} {c c' : Cursor} (given : (g.value .bracket).Spans c e c')
      (noLiteral : ¬ ∃ parts, Literal c parts c') : WritesArgument c .computed c'

/-- From `c`, behind the opening bracket of a call, to `c'`, behind the closing one, a call is written
in a form. -/
inductive WritesCall : Cursor → CallForm → Cursor → Prop
  | empty {comma : Option Unit} {c c₁ c₂ c' : Cursor}
      (blanks : (fetch Follow.bracket.more).Spans c () c₁)
      (commas : (sign ",").optional.Spans c₁ comma c₂)
      (closed : (mark Follow.bracket.after ")").Spans c₂ () c') : WritesCall c (.arguments []) c'
  | arguments {items : List (Bool × ArgumentForm)} {c c₁ c' : Cursor}
      (listed : CommaList g.WritesArgument Follow.bracket.more false c items c₁)
      (ended : ListEnds c₁ c') : WritesCall c (.arguments items) c'
  | generator {form : ArgumentForm} {c c₁ c₂ c₃ c' : Cursor}
      (blanks : (fetch Follow.bracket.more).Spans c () c₁) (item : g.WritesArgument c₁ form c₂)
      (isPositional : form.isPositional = true) (loops : (g.clauses .bracket).Spans c₂ () c₃)
      (closed : (mark Follow.bracket.after ")").Spans c₃ () c') :
      WritesCall c (.generator (splitsLine Follow.bracket.more c.rest) form) c'

/-- From `c` to `c'` stand an atom and any number of trailers. -/
def Trailed (f : Follow) (c c' : Cursor) : Prop := ∃ e named c₁ o, (g.atom f).Spans c e c₁ ∧
  Relation.ReflTransGen (Extends (g.trailer f)) (⟨e, named⟩, c₁) (o, c')

/-- From `c` to `c'` stands a decorator that calls an attribute of something by its name. -/
inductive WritesDecorator : Cursor → String → CallForm → Cursor → Prop
  | intro {depth : Nat} {verb : String} {call : CallForm}
      {c c₁ c₂ c₃ c₄ c₅ c₆ c₇ c₈ c₉ c₁₀ c' : Cursor} (marked : (sign "@").Spans c () c₁)
      (unsplit : splitsLine operandNext c₁.rest = false)
      (blanks : (fetch operandNext).Spans c₁ () c₂) (object : (nested depth).Trailed .line c₂ c₃)
      (before : (fetch Follow.line.after).Spans c₃ () c₄) (dotted : (sign ".").Spans c₄ () c₅)
      (behind : (fetch {}).Spans c₅ () c₆) (named : word.Spans c₆ verb c₇)
      (between : (fetch Follow.line.after).Spans c₇ () c₈) (opened : (sign "(").Spans c₈ () c₉)
      (called : (nested depth).WritesCall c₉ call c₁₀) (ended : (newline lineEnd).Spans c₁₀ () c') :
      WritesDecorator c verb call c'

variable {g} {depth : Nat} {c c' : Cursor} (source : SourceText)

/-- What is read of an argument agrees with its form. -/
def KeepsArgument (o : Option Expr) (form : ArgumentForm) : Prop :=
  o.isSome = form.isPositional ∧ ∀ e ∈ o, e.argument.value source = form.value source

theorem exists_argumentForm {o : Option Expr} (hc : Settled c.rest)
    (h : (nested depth).argument.Spans c o c') :
    ∃ form, (nested depth).WritesArgument c form c' ∧ KeepsArgument source o form := by
  simp only [argument, Rule.spans_firstOf_cons_iff, Rule.not_spans_firstOf_nil, and_false,
    or_false] at h
  rcases h with h | ⟨-, h | ⟨-, h | ⟨-, h⟩⟩⟩
  · simp only [Rule.spans_bind_iff] at h
    obtain ⟨_, c₁, hmarked, e, c₂, hgiven, hpure⟩ := h
    obtain ⟨rfl, rfl⟩ := Rule.spans_pure_iff.1 hpure
    exact ⟨.unpacked, .unpacked hmarked hgiven, rfl, by simp⟩
  · simp only [Rule.spans_bind_iff] at h
    obtain ⟨_, c₁, hmarked, e, c₂, hgiven, hpure⟩ := h
    obtain ⟨rfl, rfl⟩ := Rule.spans_pure_iff.1 hpure
    refine ⟨.starred, .starred hmarked hgiven, rfl, ?_⟩
    rintro e' ⟨⟩
    rfl
  · simp only [Rule.spans_bind_iff] at h
    obtain ⟨w, c₁, hname, _, c₂, hmarked, e, c₃, hgiven, hpure⟩ := h
    obtain ⟨rfl, rfl⟩ := Rule.spans_pure_iff.1 hpure
    exact ⟨.named, .named hname hmarked hgiven, rfl, by simp⟩
  · obtain ⟨e, c₁, hgiven, hpure⟩ := Rule.spans_bind_iff.1 h
    obtain ⟨rfl, rfl⟩ := Rule.spans_pure_iff.1 hpure
    rcases value_of_argument source hc hgiven with ⟨parts, hliteral, hvalue⟩ | ⟨hnone, hvalue⟩
    · refine ⟨.literal parts, .literal hgiven hliteral, rfl, ?_⟩
      rintro e' ⟨⟩
      exact hvalue
    · refine ⟨.computed, .computed hgiven hnone, rfl, ?_⟩
      rintro e' ⟨⟩
      exact hvalue

/-- The first argument that has no name is the first form that is given by position, or a split line. -/
theorem value_firstArgument {items : List (Bool × Option Expr)} {forms : List (Bool × ArgumentForm)}
    (h : List.Forall₂ (fun item form => item.1 = form.1 ∧ KeepsArgument source item.2 form.2) items
      forms) : (firstArgument items).value source = (CallForm.arguments forms).path source := by
  induction h with
  | nil => rfl
  | @cons item form items forms hkeeps _ ih =>
    obtain ⟨split, o⟩ := item
    obtain ⟨split', form⟩ := form
    obtain ⟨rfl, hpositional, hvalue⟩ := hkeeps
    rw [CallForm.path_cons]
    cases split with
    | true => rfl
    | false =>
      cases o with
      | none =>
        have hform : form.isPositional = false := hpositional.symm
        have hskip : firstArgument ((false, none) :: items) = firstArgument items := rfl
        rw [hskip, ih, hform]
        rfl
      | some e =>
        have hform : form.isPositional = true := hpositional.symm
        have hfirst : firstArgument ((false, some e) :: items) = e.argument := rfl
        rw [hfirst, hvalue e rfl, hform]
        rfl

/-- The arguments of a call are read form by form. -/
theorem exists_callForm {first : Argument} (h : (nested depth).callArguments.Spans c first c') :
    ∃ call, (nested depth).WritesCall c call c' ∧ first.value source = call.path source := by
  simp only [callArguments, Rule.spans_bind_iff, spans_lineSplit_iff] at h
  obtain ⟨_, c₀, ⟨rfl, rfl⟩, _, c₁, hblanks, h⟩ := h
  rcases Rule.spans_orElse_iff.1 h with h | ⟨-, h⟩
  · obtain ⟨o, c₂, hargument, h⟩ := Rule.spans_bind_iff.1 h
    rcases Rule.spans_orElse_iff.1 h with h | ⟨-, h⟩
    · simp only [Rule.spans_bind_iff] at h
      obtain ⟨_, c₃, hrequire, _, c₄, hloops, _, c₅, hclosed, hpure⟩ := h
      obtain ⟨hsome, rfl⟩ := Rule.spans_require_iff.1 hrequire
      obtain ⟨rfl, rfl⟩ := Rule.spans_pure_iff.1 hpure
      obtain ⟨form, hform, hkeeps⟩ :=
        exists_argumentForm source (settled_of_fetch hblanks) hargument
      have hpositional : form.isPositional = true := hkeeps.1 ▸ hsome
      refine ⟨_, .generator hblanks hform hpositional hloops hclosed, ?_⟩
      have hitems : List.Forall₂ (fun item form => item.1 = form.1 ∧
          KeepsArgument source item.2 form.2) [(splitsLine Follow.bracket.more c₀.rest, o)]
          [(splitsLine Follow.bracket.more c₀.rest, form)] := .cons ⟨rfl, hkeeps⟩ .nil
      rw [value_firstArgument source hitems, CallForm.path_cons, hpositional, Bool.or_true, if_pos rfl,
        CallForm.path]
    · simp only [splitItems, Rule.spans_bind_iff] at h
      obtain ⟨others, _, ⟨_, c₃, hmany, trailing, c₄, hcomma, hmore⟩, _, c₅, hclosed, hpure⟩ := h
      obtain ⟨rfl, rfl⟩ := Rule.spans_pure_iff.1 hmore
      obtain ⟨rfl, rfl⟩ := Rule.spans_pure_iff.1 hpure
      obtain ⟨items, hlisted, hkeeps⟩ :=
        exists_commaList (exists_argumentForm source) false hblanks hargument hmany.many_runs
      obtain ⟨trailing, hcomma⟩ := hcomma.exists_accepts fun _ => Iff.rfl
      exact ⟨.arguments items, .arguments hlisted ⟨trailing, _, hcomma, hclosed⟩,
        value_firstArgument source hkeeps⟩
  · simp only [Rule.spans_bind_iff] at h
    obtain ⟨comma, c₂, hcomma, _, c₃, hclosed, hpure⟩ := h
    obtain ⟨rfl, rfl⟩ := Rule.spans_pure_iff.1 hpure
    exact ⟨.arguments [], .empty hblanks hcomma hclosed, rfl⟩

/-- An operand that is a call of an attribute ends with the name of the attribute and the call. -/
theorem exists_call_of_operand {f : Follow} {o : Operand} {verb : String} {first : Argument}
    (h : (g.operand f).Spans c o c') (ho : o.expr = .call (some verb) first) :
    ∃ c₁ c₂ o₁ o₂, g.Trailed f c c₁ ∧ Trails g f o₁ c₁ (.member verb) c₂ ∧
      Trails g f o₂ c₂ (.call (some verb) first) c' := by
  obtain ⟨e, c₀, named, hatom, hsteps⟩ := operand_steps h
  have hatomic := atomic_of_atom hatom
  -- no atom is a call or an attribute, so there are two trailers at least
  rcases hsteps.cases_tail with heq | ⟨⟨o₂, c₂⟩, hbefore, hlast⟩
  · cases heq
    cases ho
    cases hatomic with
    | another _ _ _ isOther => simp at isOther
  · have hcall := trails_of_trailer hlast.1
    simp only [ho] at hcall
    have hmember : o₂.expr = .member verb := by
      cases hcall with
      | call _ _ _ isVerb => exact isVerb verb rfl
    rcases hbefore.cases_tail with heq | ⟨⟨o₁, c₁⟩, hobject, hmiddle⟩
    · cases heq
      cases hmember
      cases hatomic with
      | another _ _ _ isOther => simp at isOther
    · have hattribute := trails_of_trailer hmiddle.1
      simp only [hmember] at hattribute
      exact ⟨c₁, c₂, o₁, o₂, ⟨e, named, c₀, o₁, hatom, hobject⟩, hattribute, hcall⟩

theorem exists_writesDecorator {verb : String} {first : Argument}
    (h : (nested depth).decorator.Spans c (.call verb first) c') :
    ∃ call, WritesDecorator c verb call c' ∧ first.value source = call.path source := by
  simp only [decorator, Rule.spans_bind_iff, spans_lineSplit_iff] at h
  obtain ⟨_, _, hmarked, split, c₁, ⟨hsplit, rfl⟩, e, c₂, hvalue, _, c₃, hended, hpure⟩ := h
  have he : split = false ∧ e = .call (some verb) first ∧ c' = c₃ := by
    split at hpure
    · obtain ⟨heq, rfl⟩ := Rule.spans_pure_iff.1 hpure
      cases heq
      exact ⟨rfl, rfl, rfl⟩
    · cases (Rule.spans_pure_iff.1 hpure).1
  obtain ⟨rfl, rfl, rfl⟩ := he
  obtain ⟨c₀, hblanks, hlayered⟩ := layered_expression hvalue
  obtain ⟨k, o, hoperand, ho⟩ := hlayered.exists_operand rfl
  obtain ⟨c₄, c₅, o₁, o₂, hobject, hmember, hcall⟩ := exists_call_of_operand hoperand ho.symm
  cases hmember with
  | member hbefore hdotted hbehind hnamed =>
    cases hcall with
    | call hbetween hopened hcalled _ =>
      obtain ⟨call, hform, hpath⟩ := exists_callForm source hcalled
      exact ⟨call, .intro hmarked hsplit.symm hblanks hobject hbefore hdotted hbehind hnamed hbetween
        hopened hform hended, hpath⟩

theorem exists_of_mem_runs {α : Type} {p : PythonRule α} [p.Obeys written] {a : α} {as : List α}
    (h : Runs p c as c') (ha : a ∈ as) :
    ∃ c₁ c₂, p.Spans c₁ a c₂ ∧ c₁.rest <:+ c.rest ∧ c'.rest <:+ c₂.rest := by
  have hsuffix : ∀ {c as c'}, Runs p c as c' → c'.rest <:+ c.rest := by
    intro c as c' h
    induction h with
    | nil => exact List.suffix_refl _
    | cons head _ _ ih => exact ih.trans head.suffix
  induction h with
  | nil => cases ha
  | cons head _ tail ih =>
    rcases List.mem_cons.1 ha with rfl | ha
    · exact ⟨_, _, head, List.suffix_refl _, hsuffix tail⟩
    · obtain ⟨c₁, c₂, hspans, hfrom, hto⟩ := ih ha
      exact ⟨c₁, c₂, hspans, hfrom.trans head.suffix, hto⟩

theorem exists_decorator_of_mem {ds : List Decorator} {d : Decorator}
    (h : (nested depth).decoratorList.Spans c ds c') (hd : d ∈ ds) :
    ∃ c₁ c₂, (nested depth).decorator.Spans c₁ d c₂ ∧ c₁.rest <:+ c.rest ∧ c'.rest <:+ c₂.rest := by
  simp only [decoratorList, Rule.spans_bind_iff] at h
  obtain ⟨first, c₁, hfirst, others, c₂, hothers, _, c₃, hblanks, hpure⟩ := h
  obtain ⟨rfl, rfl⟩ := Rule.spans_pure_iff.1 hpure
  rcases List.mem_cons.1 hd with rfl | hd
  · exact ⟨c, c₁, hfirst, List.suffix_refl _, hblanks.suffix.trans hothers.suffix⟩
  · obtain ⟨c₄, c₅, hspans, hfrom, hto⟩ := exists_of_mem_runs hothers.many_runs hd
    obtain ⟨_, c₆, hnext, hspans⟩ := Rule.spans_bind_iff.1 hspans
    exact ⟨c₆, c₅, hspans, (hnext.suffix.trans hfrom).trans hfirst.suffix, hblanks.suffix.trans hto⟩

end Grammar

/-- One of the decorators of the function is a call of this form. -/
def DecoratedFunction.HasCall {cs : List Char} (f : DecoratedFunction cs) (verb : String)
    (call : CallForm) : Prop :=
  ∃ c c', c.rest <:+ f.start.rest ∧ f.head.rest <:+ c'.rest ∧ Grammar.WritesDecorator c verb call c'

/-- The path of an endpoint is that of the call which its function is decorated by: the value of the
first argument that is given by position, if that is a literal, and empty otherwise. Only where
a generator that repeats a literal is the argument is the path that literal instead, and where the line
is split before the argument the path is empty. -/
theorem endpoint_path_eq_call_path {rules : Rules} {source : SourceText} {facts : Facts}
    (h : extract? rules .python source = some facts) {e : Endpoint} (he : e ∈ facts.endpoints) :
    ∃ f : DecoratedFunction source.chars, ∃ verb call, e.line = f.head.line ∧ f.HasCall verb call ∧
      source.piece verb ∈ rules.python.routeDecorators ∧
      e.method = Text.upper (source.piece verb) ∧ e.path = call.path source ∧
      (e.path ≠ call.firstValue source ↔
        ∃ parts, call.Misleads parts ∧ String.join (parts.map source.piece) ≠ "") := by
  obtain ⟨f, verb, first, hmem, hverb, rfl⟩ := exists_decoratedFunction h he
  obtain ⟨c, c', hdecorator, hfrom, hto⟩ := Grammar.exists_decorator_of_mem f.isDecorated hmem
  obtain ⟨call, hwrites, hpath⟩ := Grammar.exists_writesDecorator source hdecorator
  refine ⟨f, verb, call, rfl, ⟨c, c', hfrom, hto, hwrites⟩, hverb, rfl, hpath, ?_⟩
  rw [← call.path_ne_firstValue_iff source, ← hpath]

theorem endpoint_path_of_adjacent_strings :
    let source := SourceText.ofString ("@app.get(tags=[], *[], '/a' r\"/b\")\n" ++
      "@app.post(name='c', '/c' f'/d')\ndef f():\n    pass\n")
    let e : Endpoint := ⟨"POST", "/c/d", "unknown", [], 3⟩
    extract? Settings.default.rules .python source = some ⟨[⟨"GET", "", "unknown", [], 3⟩, e], []⟩ ∧
    ∃ f : DecoratedFunction source.chars, ∃ verb call, e.line = f.head.line ∧ f.HasCall verb call ∧
      source.piece verb ∈ Settings.default.rules.python.routeDecorators ∧
      e.method = Text.upper (source.piece verb) ∧ e.path = call.path source ∧
      (e.path ≠ call.firstValue source ↔
        ∃ parts, call.Misleads parts ∧ String.join (parts.map source.piece) ≠ "") := by
  intro source e
  have hfacts : extract? Settings.default.rules .python source =
      some ⟨[⟨"GET", "", "unknown", [], 3⟩, e], []⟩ := by decide +kernel
  exact ⟨hfacts, endpoint_path_eq_call_path hfacts (List.mem_cons_of_mem _ (List.mem_singleton_self e))⟩

/-- The argument is a generator, which is computed, and yet the endpoint has a path. -/
theorem generator_gives_path :
    let source := SourceText.ofString "@app.get(\"/a\" for x in y)\ndef f():\n    pass\n"
    extract? Settings.default.rules .python source =
      some ⟨[⟨"GET", "/a", "unknown", [], 2⟩], []⟩ ∧
    (CallForm.generator false (.literal ["/a"])).firstValue source = "" := by
  decide +kernel

end ServiceAtlas.Python
