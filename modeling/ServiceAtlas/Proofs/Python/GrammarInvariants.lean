import ServiceAtlas.Proofs.RuleInversion
import ServiceAtlas.Python.Grammar.Statement

/-!
What all rules of the Python grammar obey. An `Invariant` relates the place where a rule begins, what it
finds and the place where it stops, holds of the tokens, and passes from one reading to the next. The
class `Rule.Obeys` says that it holds of whatever a rule reads; rules have it from the rules that they
are built of. What blocks and decorated definitions do is left to the invariant, and with that all rules
obey it at every depth of nesting (`Grammar.obeys_nested`).
-/

namespace ServiceAtlas.Python

/-- The decorators of what is declared. -/
def Declaration.decorators : Declaration → List Decorator
  | .function decorators _ => decorators
  | .type _ _ => []

/-- A relation between where reading begins, what is found and where reading stops. -/
structure Invariant where
  Holds : Cursor → List (Located Declaration) → Cursor → Prop
  stay : ∀ c, Holds c [] c
  append : ∀ {c c' c'' ds es}, Holds c ds c' → Holds c' es c'' → Holds c (ds ++ es) c''
  advance : ∀ c n, Holds c [] (c.advance n)
  setFormat : ∀ c format, Holds c [] { c with format }
  declare : ∀ {c c' ds d}, Holds c ds c' → d.decorators = [] → Holds c (⟨c.line, d⟩ :: ds) c'

end ServiceAtlas.Python

namespace ServiceAtlas.Rule

open Python

variable {I : Invariant} {α β : Type}

/-- Whatever the rule reads, the invariant holds of it. -/
class Obeys (p : PythonRule α) (I : Invariant) : Prop where
  holds : ∀ {c r}, p.read c = some r → I.Holds c r.found r.rest

variable {p : PythonRule α} {f : α → PythonRule β}

section Combinators

variable {q : Unit → PythonRule α} {ps : List (PythonRule α)} {sep : PythonRule β}

instance (a : α) : (Pure.pure a : PythonRule α).Obeys I :=
  ⟨fun hr => by cases hr; exact I.stay _⟩

instance (a : α) : (Rule.pure a : PythonRule α).Obeys I :=
  ⟨fun hr => by cases hr; exact I.stay _⟩

instance : (Rule.fail : PythonRule α).Obeys I := ⟨fun hr => by cases hr⟩

instance : (Rule.place : PythonRule Cursor).Obeys I := ⟨fun hr => by cases hr; exact I.stay _⟩

instance : p.ahead.Obeys I := by
  refine ⟨fun {c r} hr => ?_⟩
  simp only [Rule.ahead] at hr
  split at hr <;> cases hr
  exact I.stay c

instance : p.absent.Obeys I := by
  refine ⟨fun {c r} hr => ?_⟩
  simp only [Rule.absent] at hr
  split at hr <;> cases hr
  exact I.stay c

/-- The two readings that a sequence is made of. -/
theorem read_bind_eq_some {s : Cursor} {r : Reading Cursor Declaration β}
    (h : (p >>= f).read s = some r) : ∃ t u, p.read s = some t ∧ (f t.value).read t.rest = some u ∧
      r = ⟨u.value, t.found ++ u.found, u.rest⟩ := by
  change (Rule.bind p f).read s = some r at h
  simp only [Rule.bind] at h
  split at h
  · cases h
  · rename_i t ht
    split at h
    · cases h
    · rename_i u hu
      cases h
      exact ⟨t, u, ht, hu, rfl⟩

instance obeys_bind [p.Obeys I] [∀ a, (f a).Obeys I] : (p >>= f).Obeys I := by
  refine ⟨fun {c r} hr => ?_⟩
  obtain ⟨t, u, ht, hu, rfl⟩ := read_bind_eq_some hr
  exact I.append (Obeys.holds ht) (Obeys.holds hu)

instance [p.Obeys I] [(q ()).Obeys I] : (Rule.orElse p q).Obeys I := by
  refine ⟨fun {c r} hr => ?_⟩
  simp only [Rule.orElse] at hr
  split at hr
  · rename_i t ht
    exact Obeys.holds (ht.trans hr)
  · exact Obeys.holds hr

instance {b : Prop} [Decidable b] {q : PythonRule α} [p.Obeys I] [q.Obeys I] :
    (if b then p else q).Obeys I := by
  split <;> infer_instance

instance (b : Bool) : (Rule.require b : PythonRule Unit).Obeys I := by
  unfold Rule.require
  infer_instance

instance {p : Unit → PythonRule α} [h : (p ()).Obeys I] : (Rule.delay p).Obeys I := ⟨h.holds⟩

instance [p.Obeys I] : p.optional.Obeys I := by
  unfold Rule.optional
  infer_instance

instance [p.Obeys I] : p.accepts.Obeys I := by
  unfold Rule.accepts
  infer_instance

instance [p.Obeys I] : p.skip.Obeys I := by
  unfold Rule.skip
  infer_instance

instance : (Rule.firstOf [] : PythonRule α).Obeys I := by
  unfold Rule.firstOf
  infer_instance

instance [p.Obeys I] [(Rule.firstOf ps).Obeys I] : (Rule.firstOf (p :: ps)).Obeys I := by
  unfold Rule.firstOf
  infer_instance

instance {step : α → PythonRule α} [∀ a, (step a).Obeys I] (a : α) :
    (Rule.extend step a).Obeys I := by
  refine ⟨fun {c r} hr => ?_⟩
  cases hr
  fun_induction extendFrom step a c with
  | case1 a c hnone => exact I.stay c
  | case2 a c r hr hlt t ih => exact I.append (Obeys.holds hr) ih
  | case3 a c r hr hlt => exact I.stay c

instance [p.Obeys I] : (Rule.many p).Obeys I := by
  unfold Rule.many
  infer_instance

instance [p.Obeys I] : (Rule.many1 p).Obeys I := by
  unfold Rule.many1
  infer_instance

instance [p.Obeys I] [sep.Obeys I] : (Rule.sepBy1 p sep).Obeys I := by
  unfold Rule.sepBy1
  infer_instance

end Combinators

/-! ### Declarations -/

section Declare

variable {p : PythonRule (Option Declaration)}

/-- What the rule gives is no function with decorators. -/
class Undecorated (p : PythonRule (Option Declaration)) : Prop where
  decorators_eq : ∀ {c d c'}, p.Spans c (some d) c' → d.decorators = []

instance (name : String) (bases : List String) :
    (Pure.pure (some (.type name bases)) : PythonRule (Option Declaration)).Undecorated where
  decorators_eq h := by
    obtain ⟨heq, -⟩ := spans_pure_iff.1 h
    cases heq
    rfl

instance (parameters : List Parameter) : (Pure.pure (some (.function [] parameters)) :
    PythonRule (Option Declaration)).Undecorated where
  decorators_eq h := by
    obtain ⟨heq, -⟩ := spans_pure_iff.1 h
    cases heq
    rfl

instance {p : PythonRule α} {f : α → PythonRule (Option Declaration)} [∀ a, (f a).Undecorated] :
    (p >>= f).Undecorated where
  decorators_eq h := by
    obtain ⟨a, c', -, hf⟩ := spans_bind_iff.1 h
    exact Undecorated.decorators_eq hf

/-- What is declared comes first, on the line on which the rule begins. -/
theorem read_declare_eq_some {c : Cursor} {r : Reading Cursor Declaration Unit}
    (h : p.declare.read c = some r) : ∃ t, p.read c = some t ∧ r.rest = t.rest ∧
      (t.value = none ∧ r.found = t.found ∨
        ∃ d, t.value = some d ∧ r.found = ⟨c.line, d⟩ :: t.found) := by
  simp only [Rule.declare] at h
  split at h
  · cases h
  · rename_i t ht
    split at h
    · rename_i hnone
      cases h
      exact ⟨t, ht, rfl, .inl ⟨hnone, rfl⟩⟩
    · rename_i d hd
      cases h
      exact ⟨t, ht, rfl, .inr ⟨d, hd, rfl⟩⟩

instance [p.Obeys I] [p.Undecorated] : p.declare.Obeys I := by
  refine ⟨fun {c r} hr => ?_⟩
  obtain ⟨t, ht, hrest, hfound⟩ := read_declare_eq_some hr
  have hkept : I.Holds c t.found t.rest := Obeys.holds ht
  rw [hrest]
  rcases hfound with ⟨-, hfound⟩ | ⟨d, hd, hfound⟩
  · exact hfound ▸ hkept
  · have hspans : p.Spans c (some d) t.rest := ⟨t.found, hd ▸ ht⟩
    exact hfound ▸ I.declare hkept (Undecorated.decorators_eq hspans)

end Declare

end ServiceAtlas.Rule

namespace ServiceAtlas.Python

variable {I : Invariant} {α : Type}

/-! ### Tokens -/

instance (scan : List Char → Option (α × Nat)) : (take scan).Obeys I := by
  refine ⟨fun {c r} hr => ?_⟩
  simp only [take] at hr
  split at hr <;> cases hr
  exact I.advance c _

instance (e : Expect) : (fetch e).Obeys I := by
  refine ⟨fun {c r} hr => ?_⟩
  simp only [fetch] at hr
  split at hr <;> cases hr
  exact I.advance c _

/-- What a token of layout does to the levels, if it is taken. -/
theorem layout_read {e : Expect} {accept : LayoutToken → List Nat → Option (List Nat)} {c : Cursor}
    {r : Reading Cursor Declaration Unit} (h : (layout e accept).read c = some r) :
    ∃ token levels, c.ahead e = .layout token ∧ accept token c.levels = some levels ∧ r.found = [] ∧
      r.rest = { c with levels } := by
  simp only [layout] at h
  split at h
  · cases h
  · rename_i token htoken
    split at h
    · cases h
    · rename_i levels hlevels
      cases h
      exact ⟨token, levels, htoken, hlevels, rfl, rfl⟩

instance (e : Expect) : (newline e).Obeys I := by
  refine ⟨fun {c r} hr => ?_⟩
  obtain ⟨token, levels, -, haccept, hfound, hrest⟩ := layout_read hr
  cases token <;> cases haccept
  rw [hfound, hrest]
  exact I.stay c

instance (format : Bool) : (setFormat format).Obeys I :=
  ⟨fun hr => by cases hr; exact I.setFormat _ _⟩

instance : atEnd.Obeys I := by
  refine ⟨fun {c r} hr => ?_⟩
  simp only [atEnd] at hr
  split at hr <;> cases hr
  exact I.stay c

instance (refused : List String) : (wordExcept refused).Obeys I := inferInstanceAs ((take _).Obeys I)

instance : word.Obeys I := inferInstanceAs ((wordExcept []).Obeys I)

instance (words : List String) : (wordIn words).Obeys I := inferInstanceAs ((take _).Obeys I)

instance (w : String) : (keyword w).Obeys I := inferInstanceAs ((wordIn [w]).skip.Obeys I)

instance (ss : List String) : (signIn ss).Obeys I := inferInstanceAs ((take _).Obeys I)

instance (s : String) : (sign s).Obeys I := inferInstanceAs ((signIn [s]).skip.Obeys I)

instance : dot.Obeys I := inferInstanceAs ((take _).Obeys I)

instance : number.Obeys I := inferInstanceAs ((take _).Obeys I)

instance {p : PythonRule α} [p.Obeys I] : (withText p).Obeys I := by
  unfold withText
  infer_instance

instance (e : Expect) : (lineSplit e).Obeys I := by
  unfold lineSplit
  infer_instance

/-- A block obeys the invariant if what stands in it does. -/
class Invariant.Blocks (I : Invariant) : Prop where
  obeys_block : ∀ (opening closing : Expect) (item : PythonRule Unit), item.Obeys I →
    (Grammar.block opening closing item).Obeys I

namespace Grammar

/-- The nonterminals obey the invariant. -/
class Obeys (g : Grammar) (I : Invariant) : Prop where
  expression : ∀ plain f, (g.expression plain f).Obeys I
  primary : ∀ f, (g.primary f).Obeys I
  unary : ∀ f, (g.unary f).Obeys I
  unit : ∀ plain f, (g.unit plain f).Obeys I
  interpolation : g.interpolation.Obeys I
  type : ∀ f, (g.type f).Obeys I
  pattern : g.pattern.Obeys I
  assignment : g.assignment.Obeys I
  statement : g.statement.Obeys I

attribute [instance] Obeys.expression Obeys.primary Obeys.unary Obeys.unit Obeys.interpolation
  Obeys.type Obeys.pattern Obeys.assignment Obeys.statement

variable {g : Grammar} [g.Obeys I] [I.Blocks]

instance (opening closing : Expect) (item : PythonRule Unit) [h : item.Obeys I] :
    (block opening closing item).Obeys I := Invariant.Blocks.obeys_block opening closing item h

/-! ### Lists and strings -/

instance (f : Follow) : (g.value f).Obeys I := by
  unfold value
  infer_instance

instance (e : Expect) (s : String) : (mark e s).Obeys I := by
  unfold mark
  infer_instance

instance (e : Expect) (w : String) : (key e w).Obeys I := by
  unfold key
  infer_instance

instance (f : Follow) (item : PythonRule α) [item.Obeys I] : (moreItems f item).Obeys I := by
  unfold moreItems
  infer_instance

instance (f : Follow) (item : PythonRule α) [item.Obeys I] : (commaItems f item).Obeys I := by
  unfold commaItems
  infer_instance

instance (e : Expect) (item : PythonRule α) [item.Obeys I] : (splitItems e item).Obeys I := by
  unfold splitItems
  infer_instance

instance (f : Follow) : (g.expressions f).Obeys I := by
  refine @Rule.obeys_bind _ _ _ _ _ inferInstance fun items => ?_
  dsimp only
  split <;> infer_instance

instance (f : Follow) : (g.yield_ f).Obeys I := by
  unfold yield_
  infer_instance

instance : doubledBrace.Obeys I := inferInstanceAs ((take _).Obeys I)

instance (d : Delimiter) (s : StringState) : (g.stringPiece d s).Obeys I := by
  have hcontent : (do
      let (piece, text) ← withText (take fun cs =>
        (contentFrom? d false cs).map fun (piece, rest) => (piece, cs.length - rest.length))
      match piece with
      | .content => return s.add text
      | .stop => return { s with done := true } : PythonRule StringState).Obeys I := by
    refine @Rule.obeys_bind _ _ _ _ _ inferInstance fun x => ?_
    dsimp only
    split <;> infer_instance
  unfold stringPiece
  infer_instance

instance : g.stringLiteral.Obeys I := by
  unfold stringLiteral
  infer_instance

instance : colon.Obeys I := inferInstanceAs ((take _).Obeys I)

instance : conversion.Obeys I := inferInstanceAs ((take _).Obeys I)

instance : formatText.Obeys I := inferInstanceAs ((take _).Obeys I)

instance : equalsSign.Obeys I := inferInstanceAs ((take _).Obeys I)

-- What the search for an instance counts doubles with every step of a sequence.
set_option synthInstance.maxSize 4000 in
instance : g.interpolationRule.Obeys I := by
  unfold interpolationRule
  infer_instance

/-! ### Brackets -/

instance : g.targets.Obeys I := by
  unfold targets
  infer_instance

set_option synthInstance.maxSize 4000 in
instance (f : Follow) : (g.forClause f).Obeys I := by
  unfold forClause
  infer_instance

instance (f : Follow) : (g.ifClause f).Obeys I := by
  unfold ifClause
  infer_instance

instance (f : Follow) : (g.clauses f).Obeys I := by
  unfold clauses
  infer_instance

instance : g.element.Obeys I := by
  unfold element
  infer_instance

instance (closing : String) : (g.elements closing).Obeys I := by
  unfold elements
  infer_instance

instance (f : Follow) : (g.pairValue f).Obeys I := by
  unfold pairValue
  infer_instance

instance : g.doubleSplat.Obeys I := by
  unfold doubleSplat
  infer_instance

instance : g.dictionaryItem.Obeys I := by
  unfold dictionaryItem
  infer_instance

set_option synthInstance.maxSize 4000 in
instance : g.braced.Obeys I := by
  unfold braced
  infer_instance

instance : g.argument.Obeys I := by
  unfold argument
  infer_instance

instance : g.arguments.Obeys I := by
  unfold arguments
  infer_instance

set_option synthInstance.maxSize 4000 in
instance : g.callArguments.Obeys I := by
  unfold callArguments
  infer_instance

set_option synthInstance.maxSize 4000 in
instance : g.slice.Obeys I := by
  unfold slice
  infer_instance

instance : g.index.Obeys I := by
  unfold index
  infer_instance

/-! ### Expressions -/

instance (f : Follow) : (g.atom f).Obeys I := by
  unfold atom
  infer_instance

instance (f : Follow) (o : Operand) : (g.trailer f o).Obeys I := by
  unfold trailer
  infer_instance

instance (f : Follow) : (g.operand f).Obeys I := by
  unfold operand
  infer_instance

set_option synthInstance.maxSize 4000 in
instance (f : Follow) : (g.unaryRule f).Obeys I := by
  unfold unaryRule
  infer_instance

instance (f : Follow) : (g.primaryRule f).Obeys I := by
  unfold primaryRule
  infer_instance

instance : comparator.Obeys I := by
  unfold comparator
  infer_instance

instance (f : Follow) : (g.comparison f).Obeys I := by
  unfold comparison
  infer_instance

set_option synthInstance.maxSize 4000 in
instance (typed : Bool) (f : Follow) : (g.starredParameter typed f).Obeys I := by
  unfold starredParameter
  infer_instance

instance (f : Follow) : (g.defaultValue f).Obeys I := by
  unfold defaultValue
  infer_instance

instance (f : Follow) : (g.tupleParameter f).Obeys I := by
  unfold tupleParameter
  infer_instance

instance (typed : Bool) (f : Follow) : (g.parameter typed f).Obeys I := by
  unfold parameter
  infer_instance

instance : g.parameters.Obeys I := by
  unfold parameters
  infer_instance

set_option synthInstance.maxSize 4000 in
instance (plain : Bool) (f : Follow) : (g.lambda plain f).Obeys I := by
  unfold lambda
  infer_instance

instance (plain : Bool) (f : Follow) : (g.unitRule plain f).Obeys I := by
  unfold unitRule
  infer_instance

set_option synthInstance.maxSize 4000 in
instance (plain : Bool) (f : Follow) : (g.continuation plain f).Obeys I := by
  unfold continuation
  infer_instance

instance (plain : Bool) (f : Follow) : (g.expressionRule plain f).Obeys I := by
  unfold expressionRule
  infer_instance

/-! ### Types -/

instance : g.typeParameters.Obeys I := by
  unfold typeParameters
  infer_instance

instance : starredName.Obeys I := by
  unfold starredName
  infer_instance

instance (f : Follow) : (g.plainType f).Obeys I := by
  unfold plainType
  infer_instance

instance (f : Follow) : (g.typeRule f).Obeys I := by
  unfold typeRule
  infer_instance

/-! ### Simple statements -/

set_option synthInstance.maxSize 4000 in
instance : g.assignmentRule.Obeys I := by
  unfold assignmentRule
  infer_instance

instance (e : Expect) : (dottedName e).Obeys I := by
  unfold dottedName
  infer_instance

set_option synthInstance.maxSize 4000 in
instance (f : Follow) : (importedNames f).Obeys I := by
  unfold importedNames imported
  infer_instance

set_option synthInstance.maxSize 4000 in
instance : fromStatement.Obeys I := by
  unfold fromStatement relativeName
  infer_instance

instance : g.printStatement.Obeys I := by
  unfold printStatement
  infer_instance

set_option synthInstance.maxSize 4000 in
instance : g.execStatement.Obeys I := by
  unfold execStatement
  infer_instance

instance : g.aliasStatement.Obeys I := by
  unfold aliasStatement
  infer_instance

instance : g.raiseStatement.Obeys I := by
  unfold raiseStatement
  infer_instance

set_option synthInstance.maxSize 4000 in
instance : g.keywordStatement.Obeys I := by
  unfold keywordStatement importStatement names
  infer_instance

instance (p : PythonRule Unit) [p.Obeys I] : (ended p).Obeys I := by
  unfold ended statementEnd
  infer_instance

instance : g.simpleStatement.Obeys I := by
  unfold simpleStatement
  infer_instance

instance : g.simpleStatements.Obeys I := by
  unfold simpleStatements
  infer_instance

/-! ### Compound statements -/

instance : g.suite.Obeys I := by
  unfold suite
  infer_instance

instance : g.elseClause.Obeys I := by
  unfold elseClause
  infer_instance

set_option synthInstance.maxSize 4000 in
instance : g.ifStatement.Obeys I := by
  unfold ifStatement
  infer_instance

set_option synthInstance.maxSize 4000 in
instance : g.forStatement.Obeys I := by
  unfold forStatement
  infer_instance

instance : g.whileStatement.Obeys I := by
  unfold whileStatement
  infer_instance

instance (e : Expect) : (g.exceptClause e).Obeys I := by
  unfold exceptClause
  infer_instance

instance (e : Expect) : (g.exceptGroup e).Obeys I := by
  unfold exceptGroup
  infer_instance

instance (e : Expect) : (g.finallyClause e).Obeys I := by
  unfold finallyClause
  infer_instance

set_option synthInstance.maxSize 4000 in
instance : g.tryStatement.Obeys I := by
  unfold tryStatement
  infer_instance

instance : g.withStatement.Obeys I := by
  unfold withStatement
  infer_instance

instance (closing : String) : (g.patternItems closing).Obeys I := by
  unfold patternItems
  infer_instance

instance : signedNumber.Obeys I := by
  unfold signedNumber
  infer_instance

instance : g.keyPattern.Obeys I := by
  unfold keyPattern
  infer_instance

instance : g.simplePattern.Obeys I := by
  unfold simplePattern
  infer_instance

set_option synthInstance.maxSize 4000 in
instance : g.patternRule.Obeys I := by
  unfold patternRule
  infer_instance

instance : g.caseClause.Obeys I := by
  unfold caseClause
  infer_instance

set_option synthInstance.maxSize 4000 in
instance : g.matchStatement.Obeys I := by
  unfold matchStatement
  infer_instance

instance : g.asyncStatement.Obeys I := by
  unfold asyncStatement
  infer_instance

/-! ### Definitions -/

instance : g.returnType.Obeys I := by
  unfold returnType
  infer_instance

instance : g.decorator.Obeys I := by
  unfold decorator
  refine @Rule.obeys_bind _ _ _ _ _ inferInstance fun _ => @Rule.obeys_bind _ _ _ _ _ inferInstance
    fun split => @Rule.obeys_bind _ _ _ _ _ inferInstance fun e =>
      @Rule.obeys_bind _ _ _ _ _ inferInstance fun _ => ?_
  split <;> infer_instance

set_option synthInstance.maxSize 4000 in
instance : g.classDefinition.Obeys I := by
  unfold classDefinition
  infer_instance

set_option synthInstance.maxSize 4000 in
instance : (g.function []).Obeys I := by
  unfold function
  infer_instance

instance [g.decorated.Obeys I] : g.statementRule.Obeys I := by
  unfold statementRule
  infer_instance

/-! ### The knot -/

/-- What decorated definitions obey if the nonterminals in them do, all rules obey at every depth. -/
theorem obeys_nested
    (hdecorated : ∀ depth, (nested depth).Obeys I → (nested depth).decorated.Obeys I) (depth : Nat) :
    (nested depth).Obeys I := by
  induction depth with
  | zero =>
    have hfail : ∀ {α : Type}, (Rule.fail : PythonRule α).Obeys I := inferInstance
    exact ⟨fun _ _ => hfail, fun _ => hfail, fun _ => hfail, fun _ _ => hfail, hfail, fun _ => hfail,
      hfail, hfail, hfail⟩
  | succ depth ih =>
    have hdefinition := hdecorated depth ih
    exact {
      expression plain f :=
        inferInstanceAs ((Rule.delay fun _ => (nested depth).expressionRule plain f).Obeys I)
      primary f := inferInstanceAs ((Rule.delay fun _ => (nested depth).primaryRule f).Obeys I)
      unary f := inferInstanceAs ((Rule.delay fun _ => (nested depth).unaryRule f).Obeys I)
      unit plain f := inferInstanceAs ((Rule.delay fun _ => (nested depth).unitRule plain f).Obeys I)
      interpolation := inferInstanceAs ((Rule.delay fun _ => (nested depth).interpolationRule).Obeys I)
      type f := inferInstanceAs ((Rule.delay fun _ => (nested depth).typeRule f).Obeys I)
      pattern := inferInstanceAs ((Rule.delay fun _ => (nested depth).patternRule).Obeys I)
      assignment := inferInstanceAs ((Rule.delay fun _ => (nested depth).assignmentRule).Obeys I)
      statement := inferInstanceAs ((Rule.delay fun _ => (nested depth).statementRule).Obeys I) }

instance : g.source.Obeys I := by
  unfold source
  infer_instance

end Grammar

end ServiceAtlas.Python
