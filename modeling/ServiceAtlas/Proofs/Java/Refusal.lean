import ServiceAtlas.Java.Grammar.Statement
import ServiceAtlas.Proofs.RuleReading

/-!
Where the rules of the Java grammar cannot be read, by the token that stands next. What a
nonterminal needs is the same at every depth of nesting (`Grammar.guarded_nested`), and the rules
built over it inherit their needs from it.
-/

namespace ServiceAtlas.Java

open Rule (Needs)

namespace Cursor

/-- One of the signs stands next. -/
def AtSign (ss : List String) (c : Cursor) : Prop :=
  ∃ t ∈ c.tokens.head?, t.kind = .sign ∧ t.text ∈ ss

/-- A word with the property stands next. -/
def AtWord (P : String → Prop) (c : Cursor) : Prop :=
  ∃ t ∈ c.tokens.head?, t.kind = .word ∧ P t.text

/-- Something stands next that is not the end of an item or a body. -/
def Opens (c : Cursor) : Prop :=
  ∃ t ∈ c.tokens.head?, ¬ (t.kind = .sign ∧ t.text ∈ [",", ")", "\x7d"])

variable {c : Cursor} {ss ss' : List String} {P Q : String → Prop}

theorem AtSign.mono (h : c.AtSign ss) (hss : ss ⊆ ss') : c.AtSign ss' := by
  obtain ⟨t, ht, hkind, htext⟩ := h
  exact ⟨t, ht, hkind, hss htext⟩

theorem AtWord.mono (h : c.AtWord P) (hPQ : ∀ w, P w → Q w) : c.AtWord Q := by
  obtain ⟨t, ht, hkind, htext⟩ := h
  exact ⟨t, ht, hkind, hPQ _ htext⟩

theorem AtSign.opens (h : c.AtSign ss) (hss : ∀ s ∈ ss, s ∉ [",", ")", "\x7d"]) : c.Opens := by
  obtain ⟨t, ht, -, htext⟩ := h
  exact ⟨t, ht, fun h => hss _ htext h.2⟩

theorem AtWord.opens (h : c.AtWord P) : c.Opens := by
  obtain ⟨t, ht, hkind, -⟩ := h
  exact ⟨t, ht, fun h => by rw [hkind] at h; cases h.1⟩

end Cursor

open Cursor

/-! ### Single tokens -/

theorem needs_tokenIf {test : Token → Bool} {F : Cursor → Prop}
    (h : ∀ c : Cursor, ∀ t ∈ c.tokens.head?, test t = true → F c) : (tokenIf test).Needs F := by
  rintro ⟨line, tokens⟩ hF
  cases tokens with
  | nil => rfl
  | cons t ts =>
    have ht : test t = false := Bool.eq_false_iff.2 fun ht => hF (h _ t rfl ht)
    simp [Rule.Fails, tokenIf, ht]

theorem needs_sign (s : String) : (sign s).Needs (AtSign [s]) := by
  refine Needs.skip (needs_tokenIf fun c t ht h => ?_)
  simp only [Bool.and_eq_true, beq_iff_eq] at h
  exact ⟨t, ht, h.1, List.mem_singleton.2 h.2⟩

theorem needs_signIn (ss : List String) : (signIn ss).Needs (AtSign ss) := by
  refine Needs.bind (needs_tokenIf fun c t ht h => ?_)
  simp only [Bool.and_eq_true, beq_iff_eq, List.contains_eq_mem, decide_eq_true_eq] at h
  exact ⟨t, ht, h⟩

theorem needs_tightSign (s : String) : (tightSign s).Needs (AtSign [s]) := by
  refine Needs.skip (needs_tokenIf fun c t ht h => ?_)
  simp only [Bool.and_eq_true, beq_iff_eq] at h
  exact ⟨t, ht, h.1.1, List.mem_singleton.2 h.1.2⟩

theorem needs_keyword (w : String) : (keyword w).Needs (AtWord (· = w)) := by
  refine Needs.skip (needs_tokenIf fun c t ht h => ?_)
  simp only [Bool.and_eq_true, beq_iff_eq] at h
  exact ⟨t, ht, h⟩

theorem needs_keywordIn (ws : List String) : (keywordIn ws).Needs (AtWord (· ∈ ws)) := by
  refine Needs.bind (needs_tokenIf fun c t ht h => ?_)
  simp only [Bool.and_eq_true, beq_iff_eq, List.contains_eq_mem, decide_eq_true_eq] at h
  exact ⟨t, ht, h⟩

theorem needs_wordExcept (ws : List String) : (wordExcept ws).Needs (AtWord (· ∉ ws)) := by
  refine Needs.bind (needs_tokenIf fun c t ht h => ?_)
  simp only [Bool.and_eq_true, beq_iff_eq, List.contains_eq_mem, Bool.not_eq_true',
    decide_eq_false_iff_not] at h
  exact ⟨t, ht, h⟩

/-- A token that is no sign opens something. -/
theorem needs_ofKind {kind : TokenKind} (hkind : kind ≠ .sign) : (ofKind kind).Needs Opens := by
  refine Needs.bind (needs_tokenIf fun c t ht h => ⟨t, ht, fun h' => hkind ?_⟩)
  rw [← beq_iff_eq.1 h, h'.1]

theorem sign_needs_opens {s : String} (hs : s ∉ [",", ")", "\x7d"]) : (sign s).Needs Opens :=
  (needs_sign s).mono fun _ h => h.opens (by simpa using hs)

theorem keyword_needs_opens (w : String) : (keyword w).Needs Opens :=
  (needs_keyword w).mono fun _ h => h.opens

theorem keywordIn_needs_opens (ws : List String) : (keywordIn ws).Needs Opens :=
  (needs_keywordIn ws).mono fun _ h => h.opens

theorem wordExcept_needs_opens (ws : List String) : (wordExcept ws).Needs Opens :=
  (needs_wordExcept ws).mono fun _ h => h.opens

theorem withText_needs {α : Type} {p : JavaRule α} {F : Cursor → Prop} (h : p.Needs F) :
    (withText p).Needs F :=
  Rule.needs_place_bind fun _ => .bind h

namespace Grammar

/-- What the nonterminals need that other rules begin with. -/
structure Guarded (g : Grammar) : Prop where
  annotationNode : g.annotationNode.Needs (AtSign ["@"])
  block : g.block.Needs (AtSign ["\x7b"])
  bareType : g.bareType.Needs (AtWord fun _ => True)
  expression : ∀ label, (g.expression label).Needs Opens
  operand : ∀ label, (g.operand label).Needs Opens

variable {g : Grammar}

/-! ### Types and annotations -/

theorem typeArguments_needs : g.typeArguments.Needs (AtSign ["<"]) :=
  .skip (.between (needs_sign "<"))

theorem typeParameters_needs : g.typeParameters.Needs (AtSign ["<"]) :=
  .skip (.between (needs_sign "<"))

theorem typeSegment_needs : typeSegment.Needs (AtWord (· ∉ notInType ++ primitives)) :=
  .bind (needs_wordExcept _)

theorem classType_needs : g.classType.Needs (AtWord (· ∉ notInType ++ primitives)) :=
  Rule.needs_place_bind fun _ => .bind typeSegment_needs

theorem simpleType_needs : g.simpleType.Needs (AtWord fun _ => True) :=
  .orElse ((needs_keywordIn _).mono fun _ h => h.mono fun _ _ => trivial)
    (.bind (classType_needs.mono fun _ h => h.mono fun _ _ => trivial))

theorem bareTypeRule_needs : g.bareTypeRule.Needs (AtWord fun _ => True) := .bind simpleType_needs

theorem annotationRule_needs : g.annotationRule.Needs (AtSign ["@"]) :=
  .bind (Rule.needs_place_bind fun _ => .bind (.bind (needs_sign "@")))

theorem parameters_needs : g.parameters.Needs (AtSign ["("]) := .between (needs_sign "(")

/-! ### Expressions -/

theorem stringLiteral_needs : g.stringLiteral.Needs Opens :=
  .bind (withText_needs (.orElse (.skip (needs_ofKind (by decide)))
    (.bind (needs_ofKind (by decide)))))

theorem literal_needs : g.literal.Needs Opens :=
  .firstOf (.bind stringLiteral_needs) <|
  .firstOf (.bind (needs_ofKind (by decide))) <|
  .firstOf (.bind (needs_ofKind (by decide))) <|
  .firstOf (.bind (keywordIn_needs_opens _)) Rule.needs_firstOf_nil

theorem parenthesized_needs_opens {α : Type} {p : JavaRule α} : (parenthesized p).Needs Opens :=
  .between (sign_needs_opens (by decide))

theorem base_needs : g.base.Needs Opens :=
  .firstOf (.bind literal_needs) <|
  .firstOf (.bind (keyword_needs_opens "this")) <|
  .firstOf (.bind (keyword_needs_opens "super")) <|
  .firstOf (.bind (.bind (keywordIn_needs_opens primitives))) <|
  .firstOf (.bind (keyword_needs_opens "new")) <|
  .firstOf (.bind parenthesized_needs_opens) <|
  .firstOf (.bind (.bind (classType_needs.mono fun _ h => h.opens))) <|
  .firstOf (.bind (wordExcept_needs_opens operandWords)) Rule.needs_firstOf_nil

theorem primary_needs : g.primary.Needs Opens := .bind base_needs

theorem access_needs (p : Primary) : (g.access p).Needs Opens := by
  refine .firstOf ?_ (.firstOf ?_ (.firstOf ?_ Rule.needs_firstOf_nil))
  · exact .bind (sign_needs_opens (by decide))
  · exact Rule.needs_require_bind (.bind (sign_needs_opens (by decide)))
  · exact .bind (.bind (sign_needs_opens (by decide)))

theorem continuation_needs (label : Bool) (s : Shape) : (g.continuation label s).Needs Opens := by
  refine .firstOf ?_ (.firstOf ?_ (.firstOf ?_ (.firstOf ?_ (.firstOf ?_ Rule.needs_firstOf_nil))))
  · exact .bind ((needs_signIn _).mono fun _ h => h.opens (by decide))
  · exact .bind (.bind (keyword_needs_opens "instanceof"))
  · exact .bind (.orElse (.bind (sign_needs_opens (by decide)))
      (.skip ((needs_signIn _).mono fun _ h => h.opens (by decide))))
  · exact .bind (sign_needs_opens (by decide))
  · exact Rule.needs_require_bind
      (.bind (.skip ((needs_signIn _).mono fun _ h => h.opens (by decide))))

theorem lambda_needs :
    g.lambda.Needs fun c => c.AtWord (fun _ => True) ∨ c.AtSign ["("] := by
  refine .bind (.firstOf ?_ (.firstOf ?_ (.firstOf ?_ Rule.needs_firstOf_nil)))
  · exact .skip ((needs_wordExcept _).mono fun _ h => .inl (h.mono fun _ _ => trivial))
  · exact .skip (.between ((needs_sign "(").mono fun _ h => .inr h))
  · exact .skip (parameters_needs.mono fun _ h => .inr h)

theorem operandRule_needs (label : Bool) : (g.operandRule label).Needs Opens := by
  refine .firstOf ?_ (.firstOf ?_ (.firstOf ?_ (.firstOf ?_ (.firstOf ?_ Rule.needs_firstOf_nil))))
  · exact .bind ((needs_signIn _).mono fun _ h => h.opens (by decide))
  · refine Rule.needs_require_bind (.bind (lambda_needs.mono ?_))
    rintro c (h | h)
    · exact h.opens
    · exact h.opens (by decide)
  · exact .bind parenthesized_needs_opens
  · exact .bind (.bind (keyword_needs_opens "switch"))
  · exact .bind primary_needs

theorem expressionRule_needs {label : Bool} (h : (g.operand label).Needs Opens) :
    (g.expressionRule label).Needs Opens := .bind h

theorem blockRule_needs : g.blockRule.Needs (AtSign ["\x7b"]) := .between (needs_sign "\x7b")

/-- The needs are the same at every depth; at depth zero nothing can be read at all. -/
theorem guarded_nested (depth : Nat) : (nested depth).Guarded := by
  induction depth with
  | zero =>
    exact ⟨fun _ _ => rfl, fun _ _ => rfl, fun _ _ => rfl, fun _ _ _ => rfl, fun _ _ _ => rfl⟩
  | succ depth ih =>
    exact {
      annotationNode := annotationRule_needs (g := nested depth)
      block := blockRule_needs (g := nested depth)
      bareType := bareTypeRule_needs (g := nested depth)
      expression := fun label => expressionRule_needs (ih.operand label)
      operand := operandRule_needs (g := nested depth) }

variable (hg : g.Guarded)
include hg

/-! ### Declarations -/

theorem modifiers_needs :
    g.modifiers.Needs fun c => c.AtSign ["@"] ∨ c.AtWord (· ∈ "non" :: modifierWords) := by
  refine .bind (.bind (.firstOf ?_ (.firstOf ?_ (.firstOf ?_ Rule.needs_firstOf_nil))))
  · exact .bind (hg.annotationNode.mono fun _ h => .inl h)
  · exact .bind (.bind ((needs_keywordIn _).mono fun _ h => .inr (h.mono fun _ => .tail _)))
  · refine .bind (.bind ((needs_keyword _).mono fun _ h => .inr (h.mono ?_)))
    rintro _ rfl
    exact .head _

omit hg in
theorem typeDeclaration_needs (records : Bool) (annotations : List Annotation) :
    (g.typeDeclaration records annotations).Needs fun c =>
      c.AtWord (· ∈ "record" :: typeWords) ∨ c.AtSign ["@interface"] := by
  have hword : ∀ w ∈ "record" :: typeWords, (keyword w).Needs fun c =>
      c.AtWord (· ∈ "record" :: typeWords) ∨ c.AtSign ["@interface"] := by
    intro w hw
    exact (needs_keyword w).mono fun _ h => .inl (h.mono fun _ h => h ▸ hw)
  refine .firstOf ?_ (.firstOf ?_ (.firstOf ?_ (.firstOf ?_ (.firstOf ?_ Rule.needs_firstOf_nil))))
  · exact .bind (.bind (hword "class" (by decide)))
  · exact Rule.needs_require_bind (.bind (.bind (hword "record" (by decide))))
  · exact .bind (hword "interface" (by decide))
  · exact .bind ((needs_sign "@interface").mono fun _ h => .inr h)
  · exact .bind (hword "enum" (by decide))

theorem method_needs : g.method.Needs Opens :=
  .optional_bind (.bind (typeParameters_needs.mono fun _ h => h.opens (by decide)))
    (.bind (hg.bareType.mono fun _ h => h.opens))

theorem variableDeclaration_needs : g.variableDeclaration.Needs Opens :=
  .bind (hg.bareType.mono fun _ h => h.opens)

theorem plainMember_needs (annotations : List Annotation) :
    (g.plainMember .classBody annotations).Needs Opens := by
  refine .firstOf ?_ (.firstOf ?_ (.firstOf ?_ (.firstOf ?_ Rule.needs_firstOf_nil)))
  · exact .bind (.bind (wordExcept_needs_opens memberWords))
  · exact .bind (.optional_bind (typeParameters_needs.mono fun _ h => h.opens (by decide))
      (.bind (wordExcept_needs_opens memberWords)))
  · exact .bind (method_needs hg)
  · exact .bind (variableDeclaration_needs hg)

omit hg in
theorem reads_modifiersIfAny_nil {c : Cursor} (h : g.modifiers.Fails c) :
    g.modifiersIfAny.Reads c [] [] c :=
  Rule.Reads.next (Rule.Fails.optional h) (Rule.reads_pure [] c)

theorem modifiersIfAny_bind_needs {α : Type} {f : List Annotation → JavaRule α}
    (hf : (f []).Needs Opens) : (g.modifiersIfAny >>= f).Needs Opens := by
  intro c hc
  refine Rule.Reads.bind_fails (reads_modifiersIfAny_nil (modifiers_needs hg c ?_)) (hf c hc)
  rintro (h | h)
  · exact hc (h.opens (by decide))
  · exact hc h.opens

omit hg in
theorem typeDeclaration_needs_opens (records : Bool) (annotations : List Annotation) :
    (g.typeDeclaration records annotations).Needs Opens := by
  refine (typeDeclaration_needs records annotations).mono ?_
  rintro c (h | h)
  · exact h.opens
  · exact h.opens (by decide)

theorem memberRule_needs : (g.memberRule .classBody).Needs Opens := by
  refine .firstOf ?_ (.firstOf ?_ (.firstOf ?_ Rule.needs_firstOf_nil))
  · exact sign_needs_opens (by decide)
  · refine Rule.needs_require_bind (.optional_bind (keyword_needs_opens "static") ?_)
    exact hg.block.mono fun _ h => h.opens (by decide)
  · refine .declare (modifiersIfAny_bind_needs hg (.orElse (typeDeclaration_needs_opens _ _) ?_))
    exact Rule.needs_absent_bind _ (Rule.needs_absent_bind _ (plainMember_needs hg []))

/-! ### Statements -/

omit hg in
theorem moduleDeclaration_needs : moduleDeclaration.Needs (AtWord (· ∈ ["open", "module"])) := by
  refine .optional_bind (.bind ((needs_keyword "open").mono fun _ h => h.mono ?_))
    (.bind ((needs_keyword "module").mono fun _ h => h.mono ?_))
  · rintro _ rfl; decide
  · rintro _ rfl; decide

omit hg in
/-- A module or a package, after its annotations. -/
theorem unit_needs : (Rule.orElse moduleDeclaration fun _ => packageDeclaration).Needs
    (AtWord (· ∈ ["open", "module", "package"])) := by
  refine .orElse (moduleDeclaration_needs.mono fun _ h => h.mono ?_)
    (.bind ((needs_keyword "package").mono fun _ h => h.mono ?_))
  · intro w hw
    exact List.mem_append_left ["package"] hw
  · rintro _ rfl; decide

/-- The words that begin a statement of their own kind. -/
def openingWords : List String :=
  ["if", "while", "do", "for", "try", "break", "continue", "throw", "assert", "return", "yield",
   "synchronized", "switch", "import"]

theorem keywordStatement_needs :
    g.keywordStatement.Needs fun c => c.AtSign [";", "\x7b"] ∨ c.AtWord (· ∈ openingWords) := by
  have hword : ∀ w ∈ openingWords, (keyword w).Needs fun c =>
      c.AtSign [";", "\x7b"] ∨ c.AtWord (· ∈ openingWords) := by
    intro w hw
    exact (needs_keyword w).mono fun _ h => .inr (h.mono fun _ h => h ▸ hw)
  refine .firstOf ((needs_sign ";").mono fun _ h => .inl (h.mono (by simp))) ?_
  refine .firstOf (hg.block.mono fun _ h => .inl (h.mono (by simp))) ?_
  refine .firstOf (.bind (hword "if" (by decide))) ?_
  refine .firstOf (.bind (hword "while" (by decide))) ?_
  refine .firstOf (.bind (hword "do" (by decide))) ?_
  refine .firstOf (.bind (hword "for" (by decide))) ?_
  refine .firstOf (.bind (hword "try" (by decide))) ?_
  refine .firstOf (.bind ((needs_keywordIn _).mono fun _ h => .inr (h.mono (by decide)))) ?_
  refine .firstOf (.bind (hword "throw" (by decide))) ?_
  refine .firstOf (.bind (hword "assert" (by decide))) ?_
  refine .firstOf (.bind (hword "return" (by decide))) ?_
  refine .firstOf (.bind (hword "yield" (by decide))) ?_
  refine .firstOf (.bind (hword "synchronized" (by decide))) ?_
  refine .firstOf (.bind (hword "switch" (by decide))) ?_
  exact .firstOf (.bind (hword "import" (by decide))) Rule.needs_firstOf_nil

theorem declarationStatement_needs (top : Bool) : (g.declarationStatement top).Needs Opens := by
  refine .declare (Rule.needs_place_bind fun _ => modifiersIfAny_bind_needs hg ?_)
  refine Rule.needs_place_bind fun _ => .firstOf (typeDeclaration_needs_opens _ _) ?_
  refine .firstOf ?_ (.firstOf ?_ Rule.needs_firstOf_nil)
  · refine Rule.needs_absent_bind _ (Rule.needs_absent_bind _ (Rule.needs_absent_bind _ ?_))
    exact Rule.needs_require_bind (.bind (method_needs hg))
  · refine Rule.needs_absent_bind _ (Rule.needs_absent_bind _ (Rule.needs_absent_bind _ ?_))
    exact .bind (variableDeclaration_needs hg)

theorem statementAt_needs (top : Bool) : (g.statementAt top).Needs Opens := by
  refine .firstOf ?_ (.firstOf ?_ (.firstOf ?_ (.firstOf ?_ (.firstOf ?_ Rule.needs_firstOf_nil))))
  · refine (keywordStatement_needs hg).mono ?_
    rintro c (h | h)
    · exact h.opens (by decide)
    · exact h.opens
  · exact .bind (wordExcept_needs_opens _)
  · exact .many_bind (hg.annotationNode.mono fun _ h => h.opens (by decide))
      (unit_needs.mono fun _ h => h.opens)
  · exact declarationStatement_needs hg top
  · exact Rule.needs_absent_bind _ (.bind (.skip (hg.expression false)))

omit hg

theorem statement_needs (depth : Nat) : (nested depth).statement.Needs Opens := by
  cases depth with
  | zero => exact fun _ _ => rfl
  | succ depth => exact statementAt_needs (guarded_nested depth) false

theorem member_needs (depth : Nat) : ((nested depth).member .classBody).Needs Opens := by
  cases depth with
  | zero => exact fun _ _ => rfl
  | succ depth => exact memberRule_needs (guarded_nested depth)

end Grammar

end ServiceAtlas.Java
