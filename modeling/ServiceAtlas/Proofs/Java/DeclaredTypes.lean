import ServiceAtlas.Java.Grammar.Statement
import ServiceAtlas.Proofs.Java.TokensTaken

/-!
The rules of the Java grammar, told by the tokens that they take. A type is read from the tokens of a
`WrittenType` and gives the text of its names (`Grammar.takesAt_bareTypeRule`), so the types that a
method is noted with stand where they are written (`Grammar.takesAt_method`). All other rules pass on
what they find, at every depth of nesting (`Grammar.keeps_nested`).
-/

namespace ServiceAtlas.Java.Grammar

open Rule (TakesAt)

/-- What the nonterminals take: the first tokens of an annotation and the whole of a type are known,
of the others only that what they find stands among the tokens taken. -/
class Keeps (g : Grammar) : Prop where
  expression : ∀ label, (g.expression label).Keeps
  operand : ∀ label, (g.operand label).Keeps
  recordPattern : g.recordPattern.Keeps
  annotationNode : ∀ s, g.annotationNode.TakesAt s fun ts _ => IsAnnotation ts
  elementValue : g.elementValue.Keeps
  arrayInitializer : g.arrayInitializer.Keeps
  bareType : ∀ s, g.bareType.TakesAt s fun ts text =>
    ∃ ty : WrittenType, ts = ty.tokens ∧ ty.name.text = text
  block : g.block.Keeps
  statement : g.statement.Keeps
  member : ∀ kind, (g.member kind).Keeps
  switchBlock : g.switchBlock.Keeps

attribute [instance] Keeps.expression Keeps.operand Keeps.recordPattern Keeps.elementValue
  Keeps.arrayInitializer Keeps.block Keeps.statement Keeps.member Keeps.switchBlock

variable {g : Grammar} [g.Keeps] {s : Cursor}

instance : g.annotationNode.Keeps := Rule.keeps_of_takesAt Keeps.annotationNode

instance : g.bareType.Keeps := Rule.keeps_of_takesAt Keeps.bareType

/-! ### Types -/

instance : g.annotations.Keeps := by
  unfold annotations
  infer_instance

instance : g.type.Keeps := by
  unfold type
  infer_instance

theorem takesAt_annotations : g.annotations.TakesAt s fun ts _ => Series IsAnnotation ts :=
  Rule.takesAt_many_series Keeps.annotationNode

theorem takesAt_typeArguments : g.typeArguments.TakesAt s fun ts _ => IsTypeArguments ts := by
  have hinside : (commaList g.typeArgument).Keeps := by
    unfold typeArgument
    infer_instance
  refine TakesAt.bind (R := fun ts _ => IsTypeArguments ts) ?_ fun _ s' ts _ hts =>
    Rule.takesAt_pure (by rwa [List.append_nil])
  refine (takesAt_sign "<").bind ?_
  rintro - s₁ left - ⟨l, rfl, hl⟩
  refine (hinside.takesAt s₁).bind fun _ s₂ inner _ _ => ?_
  refine (takesAt_sign ">").bind ?_
  rintro - s₃ right - ⟨r, rfl, hr⟩
  exact Rule.takesAt_pure (.inr ⟨l, inner, r, by simp, hl, hr⟩)

theorem takesAt_dimensions : g.dimensions.TakesAt s fun ts _ => Series IsDimension ts := by
  refine (Rule.takesAt_many_series (P := IsDimension) fun s => ?_).bind fun _ s' ts _ hts =>
    Rule.takesAt_pure (by rwa [List.append_nil])
  refine takesAt_annotations.bind fun _ s₁ annotations _ hannotations => ?_
  refine (takesAt_sign "[").bind ?_
  rintro - s₂ left - ⟨l, rfl, hl⟩
  refine (takesAt_sign "]").mono ?_
  rintro right - ⟨r, rfl, hr⟩
  exact ⟨annotations, l, r, rfl, hannotations, hl, hr⟩

theorem takesAt_typeSegment : typeSegment.TakesAt s fun ts _ => ∃ t, ts = [t] ∧ t.kind = .word := by
  refine (takesAt_wordExcept _).bind ?_
  rintro - s' ts - ⟨t, rfl, ht, -⟩
  exact Rule.takesAt_pure ⟨t, rfl, ht⟩

theorem takesAt_classType : g.classType.TakesAt s fun ts v =>
    ∃ n : TypeName, ts = n.tokens ∧ n.text = v.1 := by
  refine Rule.takesAt_place.bind ?_
  rintro start s₀ - hs₀ ⟨rfl, rfl⟩
  refine takesAt_typeSegment.bind ?_
  rintro - s₁ - hs₁ ⟨first, rfl, hfirst⟩
  refine Rule.takesAt_place.bind ?_
  rintro stop s₂ - hs₂ ⟨rfl, rfl⟩
  refine (takesAt_typeArguments.accepts (.inl rfl)).bind fun generic s₃ args hs₃ hargs => ?_
  have hfront : start.tokens = first :: args ++ s₃.tokens := by
    simpa [hs₁, hs₂, hs₃] using hs₀
  -- each round takes the arguments so far as those of the name before the dot
  refine (Rule.takesAt_extend (R := fun us v => ∃ n : TypeName, n.first = first ∧
    first :: args ++ us = n.tokens ∧ n.text = v.1)
    ⟨⟨first, [], args, hfirst, hargs⟩, rfl, by simp [TypeName.tokens], ?_⟩ ?_).mono ?_
  · have hstart : start.tokens = [first] ++ stop.tokens := by simpa [hs₁] using hs₀
    exact (Cursor.textUpTo_eq hstart).symm
  · rintro v s₄ us hs₄ ⟨n, rfl, htaken, -⟩
    refine (takesAt_sign ".").bind ?_
    rintro - s₅ - hs₅ ⟨dot, rfl, hdot⟩
    refine takesAt_annotations.bind fun _ s₆ annotations hs₆ hannotations => ?_
    refine takesAt_typeSegment.bind ?_
    rintro - s₇ - hs₇ ⟨name, rfl, hname⟩
    refine Rule.takesAt_place.bind ?_
    rintro stop' s₈ - hs₈ ⟨rfl, rfl⟩
    refine (takesAt_typeArguments.accepts (.inl rfl)).bind fun generic' s₉ more hs₉ hmore => ?_
    let next : InnerName :=
      ⟨n.arguments, dot, annotations, name, n.isTypeArguments, hdot, hannotations, hname⟩
    have hnext : ∀ after, n.first :: (n.inner ++ [next]).flatMap InnerName.tokens ++ after =
        n.first :: args ++ us ++ (dot :: annotations ++ name :: after) := by
      intro after
      rw [htaken]
      simp [next, InnerName.tokens, TypeName.tokens]
    have htext : start.textUpTo stop' =
        textOf (n.first :: (n.inner ++ [next]).flatMap InnerName.tokens) := by
      refine Cursor.textUpTo_eq ?_
      rw [hnext, hfront, hs₄, hs₅, hs₆, hs₇]
      simp
    refine Rule.takesAt_pure
      ⟨⟨n.first, n.inner ++ [next], more, n.isWord, hmore⟩, rfl, ?_, htext.symm⟩
    rw [TypeName.tokens, hnext]
    simp
  · rintro us v ⟨n, -, htaken, htext⟩
    exact ⟨n, by simpa using htaken, htext⟩

theorem takesAt_simpleType : g.simpleType.TakesAt s fun ts text =>
    ∃ n : TypeName, ts = n.tokens ∧ n.text = text := by
  refine TakesAt.orElse ((takesAt_keywordIn primitives).mono ?_)
    (takesAt_classType.bind fun v s' ts _ hts => Rule.takesAt_pure (by rwa [List.append_nil]))
  rintro - text ⟨t, rfl, ht, rfl⟩
  exact ⟨⟨t, [], [], ht, .inl rfl⟩, rfl, by simp [TypeName.text]⟩

theorem takesAt_bareTypeRule : g.bareTypeRule.TakesAt s fun ts text =>
    ∃ ty : WrittenType, ts = ty.tokens ∧ ty.name.text = text := by
  refine takesAt_simpleType.bind ?_
  rintro - s₁ - - ⟨n, rfl, rfl⟩
  refine takesAt_dimensions.bind fun _ s₂ dimensions _ hdimensions => Rule.takesAt_pure ?_
  exact ⟨⟨n, dimensions, hdimensions⟩, by simp [WrittenType.tokens], rfl⟩

instance : g.typeArguments.Keeps := Rule.keeps_of_takesAt fun _ => takesAt_typeArguments

instance : g.dimensions.Keeps := Rule.keeps_of_takesAt fun _ => takesAt_dimensions

instance : g.classType.Keeps := Rule.keeps_of_takesAt fun _ => takesAt_classType

instance : g.simpleType.Keeps := Rule.keeps_of_takesAt fun _ => takesAt_simpleType

instance : g.typeParameters.Keeps := by
  unfold typeParameters
  infer_instance

/-! ### Annotations -/

instance : dottedName.Keeps := by
  unfold dottedName
  infer_instance

instance {α : Type} {p : JavaRule α} [p.Keeps] : (braced p).Keeps := by
  unfold braced
  infer_instance

instance {p : JavaRule Unit} [p.Keeps] : (braces p).Keeps := by
  unfold braces
  infer_instance

instance : g.elementValueRule.Keeps := by
  unfold elementValueRule
  infer_instance

instance : g.argumentsInside.Keeps := by
  unfold argumentsInside namedValue
  have hmatch : ∀ shape : Shape, (match shape with
      | .literal l => pure (Arguments.literal l)
      | _ => pure Arguments.other : JavaRule Arguments).Keeps := by
    intro shape
    cases shape <;> infer_instance
  infer_instance

theorem takesAt_annotationRule : g.annotationRule.TakesAt s fun ts _ => IsAnnotation ts := by
  refine TakesAt.bind (takesAt_withText (R := fun ts _ => IsAnnotation ts) fun s => ?_)
    fun _ s' ts _ hts => Rule.takesAt_pure (by rwa [List.append_nil])
  refine (takesAt_sign "@").bind ?_
  rintro - s₁ - - ⟨t, rfl, ht⟩
  exact (Rule.Keeps.takesAt s₁).mono fun us _ _ => ⟨t, rfl, ht⟩

/-! ### Expressions -/

instance : g.value.Keeps := by
  unfold value
  infer_instance

instance : g.parenthesizedValue.Keeps := by
  unfold parenthesizedValue
  infer_instance

instance (kind : BodyKind) : (g.body kind).Keeps := by
  unfold body
  infer_instance

instance : g.arguments.Keeps := by
  unfold arguments
  infer_instance

instance : g.stringLiteral.Keeps := by
  unfold stringLiteral template
  infer_instance

instance : g.literal.Keeps := by
  unfold literal
  infer_instance

instance : g.creationType.Keeps := by
  unfold creationType
  infer_instance

instance : g.creationArguments.Keeps := by
  unfold creationArguments
  infer_instance

instance : g.creation.Keeps := by
  unfold creation dimensionSize
  infer_instance

instance : modifierWord.Keeps := by
  refine @Rule.keeps_bind _ _ _ _ inferInstance fun w => ?_
  split <;> infer_instance

instance : g.modifiersIfAny.Keeps := by
  unfold modifiersIfAny modifiers nonSealed
  infer_instance

instance : g.declaratorName.Keeps := by
  unfold declaratorName
  infer_instance

instance : g.initializer.Keeps := by
  unfold initializer
  infer_instance

instance : g.declarator.Keeps := by
  unfold declarator
  infer_instance

instance : g.receiver.Keeps := by
  unfold receiver
  infer_instance

/-- A parameter, whose type stands in front of its name or of the dots. -/
theorem takesAt_parameter : g.parameter.TakesAt s NamesType := by
  have hname : ∀ s, (Rule.orElse (do sign "..."; g.declarator) fun _ => g.declaratorName).TakesAt s
      fun ts _ => ∃ next after, ts = next :: after ∧ (next.kind = .word ∨ next.IsSign "...") := by
    intro s
    refine TakesAt.orElse ((takesAt_sign "...").bind ?_) ((takesAt_wordExcept []).bind ?_)
    · rintro - s₁ - - ⟨t, rfl, ht⟩
      exact (Rule.Keeps.takesAt s₁).mono fun us _ _ => ⟨t, us, rfl, .inr ht⟩
    · rintro - s₁ - - ⟨t, rfl, ht, -⟩
      exact (Rule.Keeps.takesAt s₁).mono fun us _ _ => ⟨t, us, rfl, .inl ht⟩
  refine (Rule.Keeps.takesAt s).bind fun _ s₁ before _ _ => (Keeps.bareType s₁).bind ?_
  rintro - s₂ - - ⟨ty, rfl, rfl⟩
  refine (hname s₂).bind ?_
  rintro - s₃ - - ⟨next, after, rfl, hnext⟩
  exact Rule.takesAt_pure ⟨ty, ⟨before, next, after, by simp, hnext⟩, rfl⟩

theorem takesAt_parameters : g.parameters.TakesAt s fun ts types =>
    ∀ text ∈ types, NamesType ts text := by
  have hstable : ∀ ts us (types : List String), (∀ text ∈ types, NamesType us text) →
      ∀ text ∈ types, NamesType (ts ++ us) text :=
    fun ts us types h text htext => (h text htext).append_left ts
  have hlist : ∀ s, (commaList g.parameter).TakesAt s fun ts types =>
      ∀ text ∈ types, NamesType ts text := fun s =>
    Rule.takesAt_sepBy (fun before ts after text h => (h.append_left before).append_right after)
      Rule.Keeps.takesAt fun _ => takesAt_parameter
  refine Rule.takesAt_bind_of_stable hstable fun _ s₁ => ?_
  refine TakesAt.bind (R := fun ts types => ∀ text ∈ types, NamesType ts text) ?_
    fun types s₂ ts _ htypes => (Rule.Keeps.takesAt s₂).bind fun _ s₃ right _ _ =>
      Rule.takesAt_pure fun text htext => (htypes text htext).append_right _
  refine Rule.takesAt_bind_of_stable hstable fun own s₂ => ?_
  split
  · refine Rule.takesAt_bind_of_stable hstable fun more s₃ => ?_
    split
    · exact hlist s₃
    · exact Rule.takesAt_pure (by simp)
  · exact hlist s₂

instance : g.parameters.Keeps := Rule.keeps_of_takesAt fun _ => takesAt_parameters

instance : g.lambda.Keeps := by
  unfold lambda lambdaBody
  infer_instance

instance : g.reference.Keeps := by
  unfold reference
  infer_instance

instance : g.typeReference.Keeps := by
  unfold typeReference classLiteral
  infer_instance

instance : g.primitiveReference.Keeps := by
  unfold primitiveReference classLiteral
  infer_instance

instance : g.base.Keeps := by
  unfold base
  infer_instance

-- What the search for an instance counts doubles with every step of a sequence.
set_option synthInstance.maxSize 4000 in
instance (p : Primary) : (g.afterDot p).Keeps := by
  unfold afterDot objectCreation
  infer_instance

instance (p : Primary) : (g.access p).Keeps := by
  unfold access
  infer_instance

instance : g.primary.Keeps := by
  unfold primary
  infer_instance

instance : g.switchExpression.Keeps := by
  unfold switchExpression
  infer_instance

instance (label : Bool) : (g.operandRule label).Keeps := by
  unfold operandRule castOperand
  infer_instance

instance : g.recordPatternRule.Keeps := by
  unfold recordPatternRule recordType
  infer_instance

set_option synthInstance.maxSize 4000 in
instance (label : Bool) (shape : Shape) : (g.continuation label shape).Keeps := by
  unfold continuation instanceTest binaryOperator closingOperator assignOperator
  infer_instance

instance (label : Bool) : (g.expressionRule label).Keeps := by
  unfold expressionRule
  infer_instance

instance : g.arrayInitializerRule.Keeps := by
  unfold arrayInitializerRule
  infer_instance

/-! ### Methods -/

instance : g.blockRule.Keeps := by
  unfold blockRule
  infer_instance

instance : g.throwsClause.Keeps := by
  unfold throwsClause
  infer_instance

theorem takesAt_method : g.method.TakesAt s fun ts v =>
    ∀ text ∈ v.1 :: v.2, NamesType ts text := by
  refine (Rule.Keeps.takesAt s).bind fun _ s₁ before _ _ => (Keeps.bareType s₁).bind ?_
  rintro - s₂ - - ⟨ty, rfl, rfl⟩
  refine (takesAt_wordExcept []).bind ?_
  rintro - s₃ - - ⟨name, rfl, hname, -⟩
  refine takesAt_parameters.bind fun types s₄ inside _ htypes => ?_
  refine (Rule.Keeps.takesAt s₄).bind fun _ s₅ dimensions _ _ => ?_
  refine (Rule.Keeps.takesAt s₅).bind fun _ s₆ throws _ _ => ?_
  refine (Rule.Keeps.takesAt s₆).bind fun _ s₇ body _ _ => Rule.takesAt_pure ?_
  refine List.forall_mem_cons.2 ⟨?_, fun text htext => ?_⟩
  · exact ⟨ty, ⟨before, name, inside ++ dimensions ++ throws ++ body, by simp, .inl hname⟩, rfl⟩
  · have hbehind := (htypes text htext).append_left (before ++ ty.tokens ++ [name])
    have hamong := hbehind.append_right (dimensions ++ throws ++ body)
    simpa using hamong

instance : g.method.Keeps := Rule.keeps_of_takesAt fun _ => takesAt_method

instance declares_method (annotations : List Annotation) : (do
    let (returnType, types) ← g.method
    return some (.method annotations returnType types) :
      JavaRule (Option Declaration)).Declares := by
  refine ⟨fun s => takesAt_method.bind ?_⟩
  rintro ⟨returnType, types⟩ s₁ ts - htypes
  refine Rule.takesAt_pure fun d hd => ?_
  cases hd
  simpa [Declaration.StandsIn] using htypes

instance : g.variableDeclaration.Keeps := by
  unfold variableDeclaration declarators
  infer_instance

/-! ### Types and members -/

instance (w : String) : (g.typeList w).Keeps := by
  unfold typeList
  infer_instance

set_option synthInstance.maxSize 4000 in
instance : g.classDeclaration.Keeps := by
  unfold classDeclaration
  infer_instance

set_option synthInstance.maxSize 4000 in
instance : g.recordDeclaration.Keeps := by
  unfold recordDeclaration
  infer_instance

instance : g.constructorCall.Keeps := by
  unfold constructorCall
  infer_instance

set_option synthInstance.maxSize 4000 in
instance : g.constructor.Keeps := by
  unfold constructor
  infer_instance

set_option synthInstance.maxSize 4000 in
instance (kind : BodyKind) (annotations : List Annotation) :
    (g.plainMember kind annotations).Declares := by
  unfold plainMember annotationElement compactConstructor
  cases kind <;> infer_instance

set_option synthInstance.maxSize 4000 in
instance (records : Bool) (annotations : List Annotation) :
    (g.typeDeclaration records annotations).Declares := by
  unfold typeDeclaration enumConstant
  infer_instance

instance (kind : BodyKind) : (g.memberRule kind).Keeps := by
  unfold memberRule
  dsimp only
  infer_instance

/-! ### Statements -/

set_option synthInstance.maxSize 4000 in
instance : g.forLoop.Keeps := by
  unfold forLoop forEachHeader forHeader
  infer_instance

set_option synthInstance.maxSize 4000 in
instance : g.tryStatement.Keeps := by
  unfold tryStatement finallyClause catchClause resource
  infer_instance

instance : g.throwStatement.Keeps := by
  unfold throwStatement
  infer_instance

instance : g.expressionStatement.Keeps := by
  unfold expressionStatement
  infer_instance

set_option synthInstance.maxSize 4000 in
instance : g.keywordStatement.Keeps := by
  unfold keywordStatement conditional whileLoop doLoop jump assertion returnStatement yieldStatement
    synchronizedStatement importDeclaration
  infer_instance

instance : directive.Keeps := by
  unfold directive toModules
  refine @Rule.keeps_bind _ _ _ _ inferInstance fun w => ?_
  dsimp only
  split <;> infer_instance

instance : g.unitDeclaration.Keeps := by
  unfold unitDeclaration moduleDeclaration packageDeclaration
  infer_instance

set_option synthInstance.maxSize 4000 in
instance (top : Bool) : (g.declarationStatement top).Keeps := by
  unfold declarationStatement
  infer_instance

instance (top : Bool) : (g.statementAt top).Keeps := by
  unfold statementAt labelled
  infer_instance

/-! ### Switches -/

instance : g.caseLabel.Keeps := by
  unfold caseLabel typePattern labelEnd guard
  infer_instance

instance : g.switchLabel.Keeps := by
  unfold switchLabel
  infer_instance

instance : g.switchGroup.Keeps := by
  unfold switchGroup
  infer_instance

instance : g.switchRule.Keeps := by
  unfold switchRule
  infer_instance

instance : g.switchBlockRule.Keeps := by
  unfold switchBlockRule
  infer_instance

/-! ### The knot -/

instance (g : Unit → Grammar) [(g ()).Keeps] : (unfold g).Keeps where
  expression label := inferInstanceAs (Rule.delay fun _ => (g ()).expressionRule label).Keeps
  operand label := inferInstanceAs (Rule.delay fun _ => (g ()).operandRule label).Keeps
  recordPattern := inferInstanceAs (Rule.delay fun _ => (g ()).recordPatternRule).Keeps
  annotationNode s := takesAt_annotationRule (g := g ()) (s := s)
  elementValue := inferInstanceAs (Rule.delay fun _ => (g ()).elementValueRule).Keeps
  arrayInitializer := inferInstanceAs (Rule.delay fun _ => (g ()).arrayInitializerRule).Keeps
  bareType s := takesAt_bareTypeRule (g := g ()) (s := s)
  block := inferInstanceAs (Rule.delay fun _ => (g ()).blockRule).Keeps
  statement := inferInstanceAs (Rule.delay fun _ => (g ()).statementAt false).Keeps
  member kind := inferInstanceAs (Rule.delay fun _ => (g ()).memberRule kind).Keeps
  switchBlock := inferInstanceAs (Rule.delay fun _ => (g ()).switchBlockRule).Keeps

instance : nothing.Keeps := by
  have hfail : ∀ {α : Type} {R : List Token → α → Prop} (s : Cursor),
      (Rule.fail : JavaRule α).TakesAt s R := fun s r hr => by cases hr
  exact ⟨fun _ => ⟨hfail⟩, fun _ => ⟨hfail⟩, ⟨hfail⟩, hfail, ⟨hfail⟩, ⟨hfail⟩, hfail, ⟨hfail⟩, ⟨hfail⟩,
    fun _ => ⟨hfail⟩, ⟨hfail⟩⟩

instance keeps_nested (depth : Nat) : (nested depth).Keeps := by
  induction depth with
  | zero => exact inferInstanceAs nothing.Keeps
  | succ depth ih => exact inferInstanceAs (unfold fun _ => nested depth).Keeps

instance : g.source.Keeps := by
  unfold source
  infer_instance

end ServiceAtlas.Java.Grammar
