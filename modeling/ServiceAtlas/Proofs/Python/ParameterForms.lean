import ServiceAtlas.Proofs.Python.DecoratedFunctions
import Mathlib.Data.List.DropRight

/-!
The parameters of a function as they are written, and which of them an endpoint names. A list of
parameters is read one form after the other (`Grammar.exists_forms`), each with whether the line is split
before it. Of the forms before the first star or tuple, those behind the last slash are named
(`positionalNames`), in whatever order and however often the separators stand. Only the forms before
the first split line count for that (`parameterNames_withSplits`).
-/

namespace ServiceAtlas.Python

open Rule (Spans)
open Cursor

/-! ### Forms -/

/-- How a parameter is written. -/
inductive ParameterForm where
  /-- A name, maybe with a type and maybe with a default. -/
  | name (name : String) (typed given : Bool)
  | slash
  | star
  /-- What takes any number of arguments: one star or two before a name, maybe with a type. -/
  | splat (typed : Bool)
  /-- A tuple, by its text, maybe with a default. -/
  | tuple (text : String) (given : Bool)
  deriving DecidableEq, Repr

namespace ParameterForm

/-- Whether the parameter ends those that can be given by position. -/
def ends : ParameterForm → Bool
  | .star | .splat _ | .tuple _ false => true
  | .name .. | .slash | .tuple _ true => false

/-- The signs that the parameter may begin with, none if it begins with a name. -/
def signs : ParameterForm → List String
  | .name .. => []
  | .slash => ["/"]
  | .star => ["*"]
  | .splat _ => ["*", "**"]
  | .tuple .. => ["("]

/-- What the parameter is named by. -/
def name? : ParameterForm → Option String
  | .name w _ _ | .tuple w true => some w
  | _ => none

/-- What is kept of the parameter. -/
def parameter : ParameterForm → Parameter
  | .name w _ _ | .tuple w true => .named w
  | .slash => .slash
  | .star | .splat _ | .tuple _ false => .other

end ParameterForm

/-- The names of the parameters before the first star or tuple without default and behind the last
slash before that. -/
def positionalNames (forms : List ParameterForm) : List String :=
  ((forms.takeWhile (!·.ends)).rtakeWhile (· ≠ .slash)).filterMap ParameterForm.name?

/-- The names after one more parameter. -/
def Parameter.addTo (names : List String) : Parameter → List String
  | .named name => names ++ [name]
  | .slash => []
  | .other => names

theorem parameterNames_eq_foldl (names : List String) (parameters : List Parameter) :
    parameterNames names parameters =
      (parameters.takeWhile (· ≠ .other)).foldl Parameter.addTo names := by
  induction parameters generalizing names with
  | nil => rfl
  | cons p parameters ih => cases p <;> simp [parameterNames, ih, Parameter.addTo]

/-- Without a star, a slash drops the names before it and nothing else does. -/
theorem foldl_addTo_forms {forms : List ParameterForm} (h : ∀ form ∈ forms, form.ends = false) :
    (forms.map ParameterForm.parameter).foldl Parameter.addTo [] =
      (forms.rtakeWhile (· ≠ .slash)).filterMap ParameterForm.name? := by
  -- from the end of the list: its last form is what the loop meets last
  induction forms using List.reverseRecOn with
  | nil => rfl
  | append_singleton forms form ih =>
    obtain ⟨hforms, hform⟩ := List.forall_mem_append.1 h
    rw [List.map_append, List.foldl_append, ih hforms, List.rtakeWhile_concat]
    have hends := hform form (List.mem_singleton_self form)
    match form, hends with
    | .name w typed given, _ => simp [ParameterForm.parameter, Parameter.addTo, ParameterForm.name?]
    | .tuple text true, _ => simp [ParameterForm.parameter, Parameter.addTo, ParameterForm.name?]
    | .slash, _ => simp [ParameterForm.parameter, Parameter.addTo]

theorem parameterNames_forms (forms : List ParameterForm) :
    parameterNames [] (forms.map ParameterForm.parameter) = positionalNames forms := by
  have hends : ((· ≠ .other) : Parameter → Bool) ∘ ParameterForm.parameter = fun form => !form.ends := by
    funext form
    match form with
    | .name .. | .slash | .star | .splat _ | .tuple _ true | .tuple _ false => rfl
  rw [parameterNames_eq_foldl, List.takeWhile_map, hends, positionalNames]
  exact foldl_addTo_forms fun form hform => by simpa using List.mem_takeWhile_imp hform

/-- The forms of the items before the first one that the line is split before. -/
def unsplit {φ : Type} (items : List (Bool × φ)) : List φ :=
  (items.takeWhile (!·.1)).map Prod.snd

theorem takeWhile_withSplits {α : Type} [DecidableEq α] (sep : α) (items : List (Bool × α)) :
    (Grammar.withSplits sep items).takeWhile (· ≠ sep) = (unsplit items).takeWhile (· ≠ sep) := by
  induction items with
  | nil => rfl
  | cons item items ih =>
    obtain ⟨split, a⟩ := item
    cases split with
    | true => simp [Grammar.withSplits, unsplit]
    | false =>
      have hsplits : Grammar.withSplits sep ((false, a) :: items) =
          a :: Grammar.withSplits sep items := rfl
      have hunsplit : unsplit ((false, a) :: items) = a :: unsplit items := by simp [unsplit]
      rw [hsplits, hunsplit, List.takeWhile_cons, List.takeWhile_cons, ih]

/-- A split line ends the names as a star does. -/
theorem parameterNames_withSplits (items : List (Bool × ParameterForm)) :
    parameterNames [] (Grammar.withSplits .other (items.map (Prod.map id ParameterForm.parameter))) =
      positionalNames (unsplit items) := by
  have hforms : unsplit (items.map (Prod.map id ParameterForm.parameter)) =
      (unsplit items).map ParameterForm.parameter := by
    simp [unsplit, List.takeWhile_map, Function.comp_def]
  rw [parameterNames_eq_foldl, takeWhile_withSplits, hforms, ← parameterNames_eq_foldl,
    parameterNames_forms]

/-- If no line is split before the parameters that can be given by position, all of them are named. -/
theorem positionalNames_unsplit {items : List (Bool × ParameterForm)}
    (h : ∀ item ∈ items.takeWhile (!·.2.ends), item.1 = false) :
    positionalNames (unsplit items) = positionalNames (items.map Prod.snd) := by
  have hforms : (unsplit items).takeWhile (!·.ends) = (items.map Prod.snd).takeWhile (!·.ends) := by
    induction items with
    | nil => rfl
    | cons item items ih =>
      obtain ⟨split, form⟩ := item
      cases hends : form.ends with
      | true => cases split <;> simp [unsplit, hends]
      | false =>
        simp only [List.takeWhile_cons, hends, Bool.not_false, if_true, List.forall_mem_cons] at h
        obtain ⟨rfl, h⟩ := h
        simpa [unsplit, hends] using ih h
  rw [positionalNames, hforms, positionalNames]

/-! ### Forms in a text -/

namespace Grammar

variable (g : Grammar)

/-- The type of a parameter. -/
def typeMark : PythonRule Unit := do
  mark Follow.bracket.after ":"
  g.type .bracket

def tuple : PythonRule Expr := do
  sign "("
  g.elements ")"

/-- From `c` to `c'` a parameter is written in a form. -/
inductive WritesParameter : Cursor → ParameterForm → Cursor → Prop
  | name {w : String} {typed given : Bool} {c c₁ c₂ c' : Cursor} (named : word.Spans c w c₁)
      (annotated : g.typeMark.accepts.Spans c₁ typed c₂)
      (defaulted : (g.defaultValue .bracket).accepts.Spans c₂ given c') :
      WritesParameter c (.name w typed given) c'
  | slash {c c' : Cursor} (marked : (sign "/").Spans c () c') : WritesParameter c .slash c'
  | star {c c' : Cursor} (marked : (sign "*").Spans c () c')
      (isBare : ∀ {o c₁ c₂}, (fetch Follow.bracket.after).Spans c' () c₁ →
        (g.operand .bracket).Spans c₁ o c₂ → o.expr.isPlainTarget = false) : WritesParameter c .star c'
  | splat {stars : String} {o : Operand} {typed : Bool} {c c₁ c₂ c₃ c' : Cursor}
      (marked : (signIn ["*", "**"]).Spans c stars c₁)
      (blanks : (fetch Follow.bracket.after).Spans c₁ () c₂) (named : (g.operand .bracket).Spans c₂ o c₃)
      (isTarget : o.expr.isPlainTarget = true)
      (annotated : g.typeMark.accepts.Spans c₃ typed c') : WritesParameter c (.splat typed) c'
  | tuple {e : Expr} {given : Bool} {c c₁ c' : Cursor} (grouped : g.tuple.Spans c e c₁)
      (isTarget : e.isTarget = true)
      (defaulted : (g.defaultValue .bracket).accepts.Spans c₁ given c') :
      WritesParameter c (.tuple (c.textUpTo c₁) given) c'

/-- From `c` to `c'` stands a list of parameters in brackets, each with whether the line is split before
it. The list may be empty, and if it is not, there may be a comma behind the last parameter. -/
inductive WritesParameterList : Cursor → List (Bool × ParameterForm) → Cursor → Prop
  | empty {c c₁ c₂ c' : Cursor} (opened : (sign "(").Spans c () c₁)
      (blanks : (fetch Follow.bracket.after).Spans c₁ () c₂)
      (closed : (mark Follow.bracket.after ")").Spans c₂ () c') : WritesParameterList c [] c'
  | filled {items : List (Bool × ParameterForm)} {c c₁ c₂ c' : Cursor}
      (opened : (sign "(").Spans c () c₁)
      (listed : CommaList g.WritesParameter Follow.bracket.after false c₁ items c₂)
      (ended : ListEnds c₂ c') : WritesParameterList c items c'

variable {g} {c c' : Cursor}

theorem exists_annotated {o : Option Unit}
    (h : (Rule.optional do
      Rule.require true
      mark Follow.bracket.after ":"
      g.type .bracket).Spans c o c') : ∃ typed, g.typeMark.accepts.Spans c typed c' := by
  refine h.exists_accepts fun s => ?_
  simp [typeMark, Rule.spans_bind_iff, Rule.spans_require_iff]

/-- A star behind which no name can be read is one on its own. -/
theorem isBare_of_fails (h : (g.starredParameter true .bracket).Fails c)
    (hstar : (sign "*").Spans c () c') {o : Operand} {c₁ c₂ : Cursor}
    (hblanks : (fetch Follow.bracket.after).Spans c' () c₁)
    (hoperand : (g.operand .bracket).Spans c₁ o c₂) : o.expr.isPlainTarget = false := by
  refine Bool.eq_false_iff.2 fun htarget => ?_
  obtain ⟨hsign, rfl⟩ := spans_sign_iff.1 hstar
  have hstars : (signIn ["*", "**"]).Spans c "*" _ := spans_signIn_iff.2 ⟨by simp, hsign, rfl⟩
  obtain ⟨typed, c₃, htype⟩ := Rule.exists_spans_optional (do
    Rule.require true
    mark Follow.bracket.after ":"
    g.type .bracket) c₂
  have hspans : (g.starredParameter true .bracket).Spans c .other c₃ := by
    simp only [starredParameter, Rule.spans_bind_iff]
    exact ⟨_, _, hstars, _, c₁, hblanks, o, c₂, hoperand, (), c₂,
      Rule.spans_require_iff.2 ⟨htarget, rfl⟩, typed, c₃, htype, Rule.spans_pure_iff.2 ⟨rfl, rfl⟩⟩
  exact h.not_spans hspans

theorem exists_form {p : Parameter} (h : (g.parameter true .bracket).Spans c p c') :
    ∃ form, g.WritesParameter c form c' ∧ p = form.parameter := by
  simp only [parameter, Rule.spans_firstOf_cons_iff, Rule.not_spans_firstOf_nil, and_false,
    or_false] at h
  rcases h with hsplat | ⟨hfails, hstar | ⟨-, hslash | ⟨-, htuple | ⟨-, hname⟩⟩⟩⟩
  · simp only [starredParameter, Rule.spans_bind_iff] at hsplat
    obtain ⟨stars, c₁, hstars, _, c₂, hblanks, o, c₃, hoperand, _, c₄, hrequire, o', c₅, htype,
      hpure⟩ := hsplat
    obtain ⟨htarget, rfl⟩ := Rule.spans_require_iff.1 hrequire
    obtain ⟨rfl, rfl⟩ := Rule.spans_pure_iff.1 hpure
    obtain ⟨typed, hannotated⟩ := exists_annotated htype
    exact ⟨.splat typed, .splat hstars hblanks hoperand htarget hannotated, rfl⟩
  · obtain ⟨_, c₁, hsign, hpure⟩ := Rule.spans_bind_iff.1 hstar
    obtain ⟨rfl, rfl⟩ := Rule.spans_pure_iff.1 hpure
    exact ⟨.star, .star hsign (isBare_of_fails hfails hsign), rfl⟩
  · obtain ⟨_, c₁, hsign, hpure⟩ := Rule.spans_bind_iff.1 hslash
    obtain ⟨rfl, rfl⟩ := Rule.spans_pure_iff.1 hpure
    exact ⟨.slash, .slash hsign, rfl⟩
  · simp only [tupleParameter, Rule.spans_bind_iff] at htuple
    obtain ⟨⟨e, text⟩, c₁, htext, _, c₂, hrequire, given, c₃, hgiven, hpure⟩ := htuple
    obtain ⟨htarget, rfl⟩ := Rule.spans_require_iff.1 hrequire
    obtain ⟨rfl, rfl⟩ := Rule.spans_pure_iff.1 hpure
    obtain ⟨hgrouped, rfl⟩ := spans_withText_iff.1 htext
    refine ⟨.tuple (c.textUpTo _) given, .tuple hgrouped htarget hgiven, ?_⟩
    cases given <;> rfl
  · simp only [Rule.spans_bind_iff] at hname
    obtain ⟨w, c₁, hword, o, c₂, htype, o', c₃, hdefault, hpure⟩ := hname
    obtain ⟨rfl, rfl⟩ := Rule.spans_pure_iff.1 hpure
    obtain ⟨typed, hannotated⟩ := exists_annotated htype
    obtain ⟨given, hgiven⟩ := hdefault.exists_accepts fun _ => Iff.rfl
    exact ⟨.name w typed given, .name hword hannotated hgiven, rfl⟩

/-- A list of parameters is read form by form. -/
theorem exists_forms {ps : List Parameter} (h : g.parameters.Spans c ps c') :
    ∃ items, g.WritesParameterList c items c' ∧
      ps = withSplits .other (items.map (Prod.map id ParameterForm.parameter)) := by
  simp only [parameters, Rule.spans_bind_iff, spans_lineSplit_iff] at h
  obtain ⟨_, _, hopened, _, c₁, ⟨rfl, rfl⟩, _, c₂, hblanks, items, c₃, hitems, _, c₄, hclosed,
    hpure⟩ := h
  obtain ⟨rfl, rfl⟩ := Rule.spans_pure_iff.1 hpure
  rcases Rule.spans_optional_iff.1 hitems with ⟨ps, rfl, hps⟩ | ⟨-, rfl, rfl⟩
  · simp only [splitItems, Rule.spans_bind_iff] at hps
    obtain ⟨p, c₅, hp, others, _, ⟨_, c₆, hothers, o, c₇, htrailing, hmore⟩, hcons⟩ := hps
    obtain ⟨rfl, rfl⟩ := Rule.spans_pure_iff.1 hmore
    obtain ⟨rfl, rfl⟩ := Rule.spans_pure_iff.1 hcons
    obtain ⟨items, hlisted, hkeeps⟩ := exists_commaList (fun _ hread => exists_form hread) false
      hblanks hp hothers.many_runs
    have heq : (splitsLine Follow.bracket.after c₁.rest, p) :: others =
        items.map (Prod.map id ParameterForm.parameter) := by
      rw [← List.forall₂_eq_eq_eq, List.forall₂_map_right_iff]
      exact hkeeps.imp fun _ _ ⟨hsplit, hform⟩ => Prod.ext hsplit hform
    obtain ⟨trailing, hcomma⟩ := htrailing.exists_accepts fun _ => Iff.rfl
    exact ⟨items, .filled hopened hlisted ⟨trailing, _, hcomma, hclosed⟩, by rw [← heq]; rfl⟩
  · exact ⟨[], .empty hopened hblanks hclosed, rfl⟩

/-! ### One way to write a list -/

/-- A parameter begins with a name or with a sign of its own. -/
theorem WritesParameter.opens {form : ParameterForm} (h : g.WritesParameter c form c') :
    form.signs = [] ∧ (∀ ss, ¬ AtSign ss c) ∨ AtSign form.signs c := by
  cases h with
  | name named _ _ => exact .inl ⟨rfl, fun _ => not_atSign_of_word named⟩
  | slash marked => exact .inr (marked.needed (needs_sign _))
  | star marked _ => exact .inr (marked.needed (needs_sign _))
  | splat marked _ _ _ _ => exact .inr (marked.needed (needs_signIn _))
  | tuple grouped _ _ =>
    obtain ⟨_, _, hopened, -⟩ := Rule.spans_bind_iff.1 grouped
    exact .inr (hopened.needed (needs_sign _))

theorem WritesParameter.shared {form form' : ParameterForm} {c₁ : Cursor}
    (h : g.WritesParameter c form c') (h' : g.WritesParameter c form' c₁) :
    form.signs = [] ∧ form'.signs = [] ∨ ∃ s ∈ form.signs, s ∈ form'.signs := by
  rcases h.opens with ⟨hform, hnone⟩ | hsign <;> rcases h'.opens with ⟨hform', hnone'⟩ | hsign'
  · exact .inl ⟨hform, hform'⟩
  · exact absurd hsign' (hnone _)
  · exact absurd hsign (hnone' _)
  · exact .inr (hsign.shared hsign')

/-- A parameter at a place is written in one form. -/
theorem WritesParameter.unique {form form' : ParameterForm} {c₁ : Cursor}
    (h : g.WritesParameter c form c') (h' : g.WritesParameter c form' c₁) :
    form = form' ∧ c' = c₁ := by
  have hshared := h.shared h'
  cases h with
  | name named annotated defaulted =>
    cases h' with
    | name named' annotated' defaulted' =>
      obtain ⟨rfl, rfl⟩ := named.unique named'
      obtain ⟨rfl, rfl⟩ := annotated.unique annotated'
      obtain ⟨rfl, rfl⟩ := defaulted.unique defaulted'
      exact ⟨rfl, rfl⟩
    | _ => simp [ParameterForm.signs] at hshared
  | slash marked =>
    cases h' with
    | slash marked' => exact ⟨rfl, (marked.unique marked').2⟩
    | _ => simp [ParameterForm.signs] at hshared
  | star marked isBare =>
    cases h' with
    | star marked' _ => exact ⟨rfl, (marked.unique marked').2⟩
    | splat marked' blanks named isTarget _ =>
      obtain ⟨hat, rfl⟩ := spans_sign_iff.1 marked
      obtain ⟨-, hat', rfl⟩ := spans_signIn_iff.1 marked'
      cases hat.symm.trans hat'
      exact absurd isTarget (by simp [isBare blanks named])
    | _ => simp [ParameterForm.signs] at hshared
  | splat marked blanks named isTarget annotated =>
    cases h' with
    | splat marked' blanks' named' isTarget' annotated' =>
      obtain ⟨rfl, rfl⟩ := marked.unique marked'
      obtain ⟨-, rfl⟩ := blanks.unique blanks'
      obtain ⟨rfl, rfl⟩ := named.unique named'
      obtain ⟨rfl, rfl⟩ := annotated.unique annotated'
      exact ⟨rfl, rfl⟩
    | star marked' isBare =>
      obtain ⟨hat, rfl⟩ := spans_sign_iff.1 marked'
      obtain ⟨-, hat', rfl⟩ := spans_signIn_iff.1 marked
      cases hat.symm.trans hat'
      exact absurd isTarget (by simp [isBare blanks named])
    | _ => simp [ParameterForm.signs] at hshared
  | tuple grouped isTarget defaulted =>
    cases h' with
    | tuple grouped' isTarget' defaulted' =>
      obtain ⟨rfl, rfl⟩ := grouped.unique grouped'
      obtain ⟨rfl, rfl⟩ := defaulted.unique defaulted'
      exact ⟨rfl, rfl⟩
    | _ => simp [ParameterForm.signs] at hshared

theorem WritesParameter.not_atClose {form : ParameterForm} (h : g.WritesParameter c form c') :
    ¬ AtSign [")"] c := by
  intro hclose
  rcases h.opens with ⟨-, hnone⟩ | hsign
  · exact hnone _ hclose
  · have hshared := hsign.shared hclose
    cases form <;> simp [ParameterForm.signs] at hshared

/-- A list of parameters is written in one way. -/
theorem WritesParameterList.unique {items items' : List (Bool × ParameterForm)}
    (h : g.WritesParameterList c items c') (h' : g.WritesParameterList c items' c') :
    items = items' := by
  -- an empty list is closed where another one has its first parameter
  have hempty : ∀ {c₁ c₂ : Cursor} {items}, (fetch Follow.bracket.after).Spans c₁ () c₂ →
      (mark Follow.bracket.after ")").Spans c₂ () c' →
      ¬ ∃ c₃, CommaList g.WritesParameter Follow.bracket.after false c₁ items c₃ := by
    rintro c₁ c₂ items hblanks hclosed ⟨c₃, hlisted⟩
    obtain ⟨form, c₄, c₅, hfirst, hform⟩ := hlisted.head
    obtain ⟨-, rfl⟩ := hblanks.unique hfirst
    obtain ⟨_, c₆, hblanks', hbracket⟩ := Rule.spans_bind_iff.1 hclosed
    obtain rfl := fetch_of_settled (settled_of_fetch hblanks) hblanks'
    exact hform.not_atClose (hbracket.needed (needs_sign _))
  cases h with
  | empty opened blanks closed =>
    cases h' with
    | empty _ _ _ => rfl
    | filled opened' listed' _ =>
      obtain ⟨-, rfl⟩ := opened.unique opened'
      exact absurd ⟨_, listed'⟩ (hempty blanks closed)
  | filled opened listed ended =>
    cases h' with
    | empty opened' blanks' closed' =>
      obtain ⟨-, rfl⟩ := opened.unique opened'
      exact absurd ⟨_, listed⟩ (hempty blanks' closed')
    | filled opened' listed' ended' =>
      obtain ⟨-, rfl⟩ := opened.unique opened'
      exact listed.unique listed' ended ended' WritesParameter.unique WritesParameter.not_atClose

/-- The names kept of a list of parameters are those of the forms in which it is written. -/
theorem parameterNames_eq_positionalNames {ps : List Parameter} (h : g.parameters.Spans c ps c') :
    ∃ items, (∀ items', g.WritesParameterList c items' c' ↔ items' = items) ∧
      parameterNames [] ps = positionalNames (unsplit items) := by
  obtain ⟨items, hitems, rfl⟩ := exists_forms h
  refine ⟨items, fun items' => ⟨fun h => h.unique hitems, ?_⟩, parameterNames_withSplits items⟩
  rintro rfl
  exact hitems

end Grammar

/-- The parameters of an endpoint are the names of those that can be given by position and by name: of
the forms in which the parameters of its function are written, those before the first star or tuple
and behind the last slash before that. But no parameter counts from the first one on that the line is
split before. -/
theorem endpoint_params_eq_positionalNames {rules : Rules} {source : SourceText} {facts : Facts}
    (h : extract? rules .python source = some facts) {e : Endpoint} (he : e ∈ facts.endpoints) :
    ∃ f : DecoratedFunction source.chars, e.line = f.head.line ∧ ∃ items,
      (∀ items', (Grammar.nested f.depth).WritesParameterList f.opening items' f.closing ↔
        items' = items) ∧
      e.params = (positionalNames (unsplit items)).map source.piece ∧
      ((∀ item ∈ items.takeWhile (!·.2.ends), item.1 = false) →
        e.params = (positionalNames (items.map Prod.snd)).map source.piece) := by
  obtain ⟨f, verb, first, -, -, rfl⟩ := exists_decoratedFunction h he
  obtain ⟨items, hitems, hnames⟩ := Grammar.parameterNames_eq_positionalNames f.isBracketed
  exact ⟨f, rfl, items, hitems, by rw [hnames],
    fun hunsplit => by rw [hnames, positionalNames_unsplit hunsplit]⟩

theorem endpoint_params_of_mixed_list :
    let source := SourceText.ofString ("@app.get('/p')\ndef p(a, /, b: int, c=1, d: str = 'x', " ++
      "(e, f)=g, /, h, i: int = 2, (j, k)=l, *args: T, \\\n m, (n, o), /, **rest):\n    pass\n")
    let e : Endpoint := ⟨"GET", "/p", "unknown", ["h", "i", "(j, k)"], 2⟩
    extract? Settings.default.rules .python source = some ⟨[e], []⟩ ∧
    ∃ f : DecoratedFunction source.chars, e.line = f.head.line ∧ ∃ items,
      (∀ items', (Grammar.nested f.depth).WritesParameterList f.opening items' f.closing ↔
        items' = items) ∧
      e.params = (positionalNames (unsplit items)).map source.piece ∧
      ((∀ item ∈ items.takeWhile (!·.2.ends), item.1 = false) →
        e.params = (positionalNames (items.map Prod.snd)).map source.piece) := by
  intro source e
  have hfacts : extract? Settings.default.rules .python source = some ⟨[e], []⟩ := by decide +kernel
  exact ⟨hfacts, endpoint_params_eq_positionalNames hfacts (List.mem_singleton_self e)⟩

/-- The line is split before a parameter with a name, and yet it is left out. -/
theorem split_line_ends_params :
    let source := SourceText.ofString "@app.get(\"/p\")\ndef f(a, \\\n      b):\n    pass\n"
    extract? Settings.default.rules .python source =
      some ⟨[⟨"GET", "/p", "unknown", ["a"], 2⟩], []⟩ ∧
    positionalNames [.name "a" false false, .name "b" false false] = ["a", "b"] := by
  decide +kernel

end ServiceAtlas.Python
