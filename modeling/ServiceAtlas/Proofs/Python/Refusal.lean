import ServiceAtlas.Proofs.Python.TokenReading

/-!
Where the rules of the Python grammar cannot be read. A statement of a kind of its own needs its
first word or sign, and nothing but a decorated definition is read at the sign of a decorator or at the
end of the source (`Grammar.undecorated_need`): the nonterminals need another token there at every
depth of nesting (`Grammar.guarded_nested`).
-/

namespace ServiceAtlas.Python

open Rule (Needs Fails Reads)
open Cursor

/-! ### Ends and decorators -/

/-- The source goes on, and not with the sign of a decorator. -/
def Cursor.AtPlain (c : Cursor) : Prop := c.rest ≠ [] ∧ c.rest.head? ≠ some '@'

theorem not_atPlain {c : Cursor} (h : ¬ c.AtPlain) : c.rest = [] ∨ ∃ cs, c.rest = '@' :: cs := by
  cases hc : c.rest with
  | nil => exact .inl rfl
  | cons d cs =>
    refine .inr ⟨cs, ?_⟩
    simpa [AtPlain, hc] using h

theorem fetch_needs_plain {α : Type} {e : Expect} {f : Unit → PythonRule α}
    (h : (f ()).Needs AtPlain) : (fetch e >>= f).Needs AtPlain := by
  intro c hc
  have hfetch : (fetch e).Fails c ∨ (fetch e).Reads c () [] c := by
    rcases not_atPlain hc with hnil | ⟨cs, hat⟩
    · exact fetch_nil e hnil
    · exact .inr (fetch_solid e (by rw [hat]; exact ⟨by decide, by decide, by decide⟩))
  rcases hfetch with hfetch | hfetch
  · exact Fails.bind hfetch
  · exact Reads.bind_fails hfetch (h c hc)

/-- No word begins like a decorator. -/
theorem Cursor.AtWord.atPlain {P : String → Prop} {c : Cursor} (h : c.AtWord P) (hP : ¬ P "") :
    c.AtPlain := by
  refine Classical.byContradiction fun hc => hP ?_
  rcases not_atPlain hc with hnil | ⟨cs, hat⟩
  · rwa [AtWord, hnil] at h
  · rwa [AtWord, hat] at h

/-- Only two signs begin like a decorator. -/
theorem Cursor.AtSign.atPlain {ss : List String} {c : Cursor} (h : c.AtSign ss)
    (hss : "@" ∉ ss ∧ "@=" ∉ ss) : c.AtPlain := by
  obtain ⟨s, hs, hsign⟩ := h
  refine Classical.byContradiction fun hc => ?_
  rcases not_atPlain hc with hnil | ⟨cs, hat⟩
  · rw [hnil] at hsign
    cases hsign
  · have hheads : ∀ s ∈ signs, s = "@" ∨ s = "@=" ∨ s.toList.head?.any (· != '@') := by decide
    rw [hat, signAt?] at hsign
    obtain ⟨rest, hrest⟩ : s.toList <+: '@' :: cs := by simpa using List.find?_some hsign
    rcases hheads s (List.mem_of_find?_eq_some hsign) with rfl | rfl | hhead
    · exact hss.1 hs
    · exact hss.2 hs
    · cases htext : s.toList with
      | nil => simp [htext] at hhead
      | cons x xs =>
        rw [htext, List.cons_append] at hrest
        simp [htext, (List.cons.inj hrest).1] at hhead

theorem sign_needs_plain {s : String} (hs : "@" ≠ s ∧ "@=" ≠ s) : (sign s).Needs AtPlain :=
  (needs_sign s).mono fun _ h => h.atPlain (by simpa using hs)

theorem signIn_needs_plain {ss : List String} (hss : "@" ∉ ss ∧ "@=" ∉ ss) :
    (signIn ss).Needs AtPlain :=
  (needs_signIn ss).mono fun _ h => h.atPlain hss

theorem keyword_needs_plain {w : String} (hw : "" ≠ w) : (keyword w).Needs AtPlain :=
  (needs_keyword w).mono fun _ h => h.atPlain hw

theorem wordIn_needs_plain {ws : List String} (hws : "" ∉ ws) : (wordIn ws).Needs AtPlain :=
  (needs_wordIn ws).mono fun _ h => h.atPlain hws

theorem wordExcept_needs_plain (ws : List String) : (wordExcept ws).Needs AtPlain :=
  (needs_wordExcept ws).mono fun _ h => h.atPlain (by simp)

theorem number_needs_plain : number.Needs AtPlain := by
  refine needs_number.mono ?_
  rintro c ⟨d, hd, hdigit⟩
  refine ⟨fun hnil => by simp [hnil] at hd, fun hat => ?_⟩
  obtain rfl : '@' = d := Option.some.inj (hat.symm.trans hd)
  rcases hdigit with h | h <;> cases h

namespace Grammar

variable {g : Grammar}

theorem stringLiteral_needs_plain : g.stringLiteral.Needs AtPlain := by
  refine .bind (needs_take fun c hc => ?_)
  rcases not_atPlain hc with hnil | ⟨cs, hat⟩
  · rw [hnil]
    rfl
  · rw [hat]
    rfl

/-- The nonterminals that other rules begin with need a token other than the sign of a decorator. -/
structure Guarded (g : Grammar) : Prop where
  expression : ∀ plain f, (g.expression plain f).Needs AtPlain
  primary : ∀ f, (g.primary f).Needs AtPlain
  unary : ∀ f, (g.unary f).Needs AtPlain
  unit : ∀ plain f, (g.unit plain f).Needs AtPlain
  assignment : g.assignment.Needs AtPlain

theorem operand_needs_plain (f : Follow) : (g.operand f).Needs AtPlain :=
  .bind (.firstOf (.bind stringLiteral_needs_plain)
    (.firstOf (.bind number_needs_plain)
      (.firstOf (.bind (sign_needs_plain (by decide)))
        (.firstOf (.bind (wordIn_needs_plain (by decide)))
          (.firstOf (.bind (wordExcept_needs_plain _))
            (.firstOf (.bind (sign_needs_plain (by decide)))
              (.firstOf (.bind (sign_needs_plain (by decide)))
                (.firstOf (.bind (sign_needs_plain (by decide))) Rule.needs_firstOf_nil))))))))

theorem unaryRule_needs_plain (f : Follow) : (g.unaryRule f).Needs AtPlain :=
  fetch_needs_plain (.firstOf (.bind (signIn_needs_plain (by decide)))
    (.firstOf (.bind (keyword_needs_plain (by decide)))
      (.firstOf (.bind (sign_needs_plain (by decide)))
        (.firstOf (.bind (operand_needs_plain f)) Rule.needs_firstOf_nil))))

theorem yield_needs_plain (f : Follow) : (g.yield_ f).Needs AtPlain :=
  .bind (keyword_needs_plain (by decide))

namespace Guarded

variable (hg : g.Guarded)
include hg

theorem unitRule (plain : Bool) (f : Follow) : (g.unitRule plain f).Needs AtPlain :=
  fetch_needs_plain (.firstOf (.bind (keyword_needs_plain (by decide)))
    (.firstOf (.bind (.bind (keyword_needs_plain (by decide))))
      (.firstOf (.bind (wordExcept_needs_plain _))
        (.firstOf (.bind (hg.primary f)) Rule.needs_firstOf_nil))))

theorem primaryRule (f : Follow) : (g.primaryRule f).Needs AtPlain := .bind (hg.unary f)

theorem expressionRule (plain : Bool) (f : Follow) : (g.expressionRule plain f).Needs AtPlain :=
  .bind (hg.unit plain f)

theorem expressions (f : Follow) : (g.expressions f).Needs AtPlain :=
  .bind (fetch_needs_plain (.bind (hg.expression false f)))

theorem assignmentRule : g.assignmentRule.Needs AtPlain :=
  fetch_needs_plain (.orElse (yield_needs_plain _) (.bind (hg.expressions _)))

end Guarded

theorem Guarded.unfold {g : Unit → Grammar} (hg : (g ()).Guarded) : (unfold g).Guarded where
  expression plain f :=
    show (Rule.delay fun _ => (g ()).expressionRule plain f).Needs AtPlain from
      .delay (hg.expressionRule plain f)
  primary f :=
    show (Rule.delay fun _ => (g ()).primaryRule f).Needs AtPlain from .delay (hg.primaryRule f)
  unary f :=
    show (Rule.delay fun _ => (g ()).unaryRule f).Needs AtPlain from .delay (unaryRule_needs_plain f)
  unit plain f :=
    show (Rule.delay fun _ => (g ()).unitRule plain f).Needs AtPlain from
      .delay (hg.unitRule plain f)
  assignment :=
    show (Rule.delay fun _ => (g ()).assignmentRule).Needs AtPlain from .delay hg.assignmentRule

theorem guarded_nested (depth : Nat) : (nested depth).Guarded := by
  induction depth with
  | zero => exact ⟨fun _ _ _ _ => rfl, fun _ _ _ => rfl, fun _ _ _ => rfl, fun _ _ _ _ => rfl,
      fun _ _ => rfl⟩
  | succ depth ih => exact .unfold ih

/-! ### Statements -/

/-- The statements that may have a body but define nothing. -/
def compounds (g : Grammar) : List (PythonRule Unit) :=
  [g.ifStatement, g.forStatement, g.whileStatement, g.tryStatement, g.withStatement,
   g.asyncStatement, g.matchStatement]

/-- The statements that are not decorated. -/
def undecorated (g : Grammar) : List (PythonRule Unit) :=
  g.function [] :: g.classDefinition :: (g.compounds ++ [g.simpleStatements])

theorem statementRule_eq : g.statementRule =
    (fetch statementNext >>= fun _ => Rule.firstOf (g.decorated :: g.undecorated)) := rfl

theorem decorated_needs : g.decorated.Needs (AtSign ["@"]) := .bind (.bind (needs_sign "@"))

theorem function_needs (ds : List Decorator) :
    (g.function ds).Needs (AtWord (· ∈ ["async", "def"])) :=
  .declare (.optional_bind
    (.bind ((needs_keyword "async").mono fun _ h => h.mono fun _ => by simp +contextual))
    (.bind ((needs_keyword "def").mono fun _ h => h.mono fun _ => by simp +contextual)))

theorem classDefinition_needs : g.classDefinition.Needs (AtWord (· = "class")) :=
  .declare (.bind (needs_keyword "class"))

def compoundWords : List String := ["if", "for", "while", "try", "with", "async", "match"]

theorem keyword_needs_among {w : String} {ws : List String} (hw : w ∈ ws) :
    (keyword w).Needs (AtWord (· ∈ ws)) :=
  (needs_keyword w).mono fun _ h => h.mono fun _ heq => heq ▸ hw

theorem compounds_need : ∀ p ∈ g.compounds, p.Needs (AtWord (· ∈ compoundWords)) := by
  simp only [compounds, List.forall_mem_cons]
  refine ⟨.bind ?_, .bind ?_, .bind ?_, .bind ?_, .bind ?_, .bind ?_, .bind ?_, by simp⟩
  all_goals exact keyword_needs_among (by decide)

/-- The words that begin a simple statement of a kind of its own. -/
def simpleWords : List String :=
  ["import", "from", "assert", "return", "del", "raise", "pass", "break", "continue", "global",
   "nonlocal"]

theorem keywordStatement_needs : g.keywordStatement.Needs (AtWord (· ∈ simpleWords)) := by
  have hwords : ∀ {ws : List String}, ws ⊆ simpleWords →
      (wordIn ws).Needs (AtWord (· ∈ simpleWords)) := fun hws =>
    (needs_wordIn _).mono fun _ h => h.mono fun _ hw => hws hw
  refine Rule.needs_firstOf ?_
  simp only [List.forall_mem_cons]
  refine ⟨.bind ?_, .bind ?_, .bind ?_, .bind ?_, .bind ?_, .bind ?_, .skip ?_, .bind ?_, by simp⟩
  case refine_7 => exact hwords (by decide)
  case refine_8 => exact hwords (by decide)
  all_goals exact keyword_needs_among (by decide)

theorem Guarded.simpleStatement (hg : g.Guarded) : g.simpleStatement.Needs AtPlain := by
  have hended : (Rule.firstOf [ended g.aliasStatement, ended g.assignment, ended g.printStatement,
      ended g.execStatement]).Needs AtPlain :=
    .firstOf (.bind (.bind (keyword_needs_plain (by decide))))
      (.firstOf (.bind hg.assignment)
        (.firstOf (.bind (.bind (keyword_needs_plain (by decide))))
          (.firstOf (.bind (.bind (keyword_needs_plain (by decide)))) Rule.needs_firstOf_nil)))
  exact .firstOf (keywordStatement_needs.mono fun _ h => h.atPlain (by decide))
    (.firstOf (Rule.needs_absent_bind _ hended) Rule.needs_firstOf_nil)

/-- No undecorated statement is read at the sign of a decorator or at the end of the source. -/
theorem Guarded.undecorated_need (hg : g.Guarded) : ∀ p ∈ g.undecorated, p.Needs AtPlain := by
  simp only [undecorated, List.forall_mem_cons, List.forall_mem_append]
  refine ⟨(function_needs []).mono fun _ h => h.atPlain (by decide),
    classDefinition_needs.mono fun _ h => h.atPlain (by decide), fun p hp => ?_,
    .bind hg.simpleStatement, by simp⟩
  exact (compounds_need p hp).mono fun _ h => h.atPlain (by decide)

/-- Nothing that a statement can be is read at the end of the source. -/
theorem Guarded.alternatives (hg : g.Guarded) :
    (Rule.firstOf (g.decorated :: g.undecorated)).Needs AtText :=
  .firstOf (decorated_needs.mono fun _ => AtSign.atText)
    (Rule.needs_firstOf fun p hp => (hg.undecorated_need p hp).mono fun _ h => h.1)

/-- A word that begins a statement with a body begins no simple one. -/
theorem fails_simpleStatements {c : Cursor} {w : String} (hc : AtWord (· = w) c)
    (hw : w ∈ statementWords ∧ w ∉ simpleWords) : g.simpleStatements.Fails c := by
  have hword : String.ofList (wordAt c.rest) = w := hc
  have hkeyword : g.keywordStatement.Fails c := by
    refine keywordStatement_needs c fun h => hw.2 ?_
    rwa [AtWord, hword] at h
  have hreads : (wordIn statementWords).Reads c w [] (c.advance (wordAt c.rest).length) := by
    simp [Reads, wordIn, take, hword, hw.1]
  exact .bind (.firstOf hkeyword (.firstOf (.bind hreads.absent) Rule.fails_firstOf_nil))

theorem statement_unfold (g : Unit → Grammar) :
    (unfold g).statement = Rule.delay fun _ => (g ()).statementRule := rfl

theorem statement_nested (depth : Nat) :
    (nested (depth + 1)).statement = Rule.delay fun _ => (nested depth).statementRule := by
  rw [nested, statement_unfold]

theorem read_statement (depth : Nat) (c : Cursor) : (nested (depth + 1)).statement.read c =
    (fetch statementNext >>= fun _ => Rule.firstOf
      ((nested depth).decorated :: (nested depth).undecorated)).read c := by
  rw [statement_nested]
  rfl

end Grammar

end ServiceAtlas.Python
