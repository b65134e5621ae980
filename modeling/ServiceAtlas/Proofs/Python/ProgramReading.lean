import ServiceAtlas.Proofs.Python.ExpressionReading
import ServiceAtlas.Proofs.Python.Refusal

/-!
How the grammar reads the definitions of a printed program, one statement after the other. A body is
read at its own indentation and left again at the break behind its last line, which may be the break
behind the last line of many bodies at once.
-/

namespace ServiceAtlas.Python

open Rule (Reads Fails)
open Cursor

def Function.decorator (f : Function) : Decorator :=
  .call f.verb.text (.strings (f.pieces.map fun p => some p.text))

def Function.declaration (f : Function) : Declaration :=
  .function [f.decorator] (f.parameters.map fun w => .named w.text)

namespace Grammar

variable {g : Grammar} {n : Nat} {levels : List Nat} {rest : List Char}

/-! ### Parameters -/

/-- The text goes on behind a parameter. -/
inductive EndsItem : List Char → Prop
  | comma (cs : List Char) : EndsItem (',' :: cs)
  | close (cs : List Char) : EndsItem (')' :: cs)

namespace EndsItem

theorem endsWord (h : EndsItem rest) : EndsWord rest := by
  cases h <;> (simp; decide)

theorem solid (h : EndsItem rest) : Solid rest := by
  cases h <;> exact ⟨by decide, by decide, by decide⟩

theorem not_atSign (h : EndsItem rest) {ss : List String} (hss : "," ∉ ss ∧ ")" ∉ ss) :
    ¬ AtSign ss ⟨n, rest, levels, false⟩ := by
  cases h with
  | comma =>
    rw [atSign_iff signAt?_comma]
    exact hss.1
  | close => exact not_atSign_close hss.2

end EndsItem

theorem endsItem_moreNames (ws : List Name) : EndsItem (moreNames ws ++ ')' :: rest) := by
  cases ws with
  | nil => exact .close rest
  | cons w ws => exact .comma _

theorem tupleParameter_needs (f : Follow) : (g.tupleParameter f).Needs (AtSign ["("]) :=
  .bind (Rule.needs_place_bind fun _ => .bind (.bind (needs_sign "(")))

theorem reads_parameter {typed : Bool} (w : Name) (hrest : EndsItem rest) :
    (g.parameter typed .bracket).Reads ⟨n, w.text.toList ++ rest, levels, false⟩ (.named w.text) []
      ⟨n, rest, levels, false⟩ := by
  have hsign : ∀ ss, ¬ AtSign ss ⟨n, w.text.toList ++ rest, levels, false⟩ := fun ss =>
    not_atSign_word w.isWord
  refine Fails.firstOf_reads (.bind (needs_signIn _ _ (hsign _))) ?_
  refine Fails.firstOf_reads (.bind (needs_sign _ _ (hsign _))) ?_
  refine Fails.firstOf_reads (.bind (needs_sign _ _ (hsign _))) ?_
  refine Fails.firstOf_reads (tupleParameter_needs _ _ (hsign _)) (Reads.firstOf ?_)
  have hmark : ∀ {s : String}, "," ≠ s → ")" ≠ s →
      (mark Follow.bracket.after s).Fails ⟨n, rest, levels, false⟩ := fun h h' =>
    fails_mark hrest.solid (hrest.not_atSign (by simpa using ⟨h, h'⟩))
  have htype : ∀ q : PythonRule Unit, (Rule.require typed >>= fun _ =>
      mark Follow.bracket.after ":" >>= fun _ => q).Fails ⟨n, rest, levels, false⟩ := by
    intro q
    cases typed with
    | false => exact .bind (Rule.fails_require rfl)
    | true =>
      exact Reads.bind_fails (Rule.reads_require rfl) (.bind (hmark (by decide) (by decide)))
  exact Reads.next (reads_word w.isWord hrest.endsWord) (Reads.next (Fails.optional (htype _))
    (Reads.next (Fails.optional (.bind (hmark (by decide) (by decide)))) (Rule.reads_pure _ _)))

theorem withSplits_unsplit {α : Type} (sep : α) (items : List α) :
    withSplits sep (items.map fun a => (false, a)) = items := by
  induction items with
  | nil => rfl
  | cons a items ih =>
    rw [withSplits] at ih
    simp [withSplits, ih]

theorem reads_moreNames (ws : List Name) :
    (splitItems Follow.bracket.after (g.parameter true .bracket)).Reads
      ⟨n, moreNames ws ++ ')' :: rest, levels, false⟩
      (ws.map fun w => (false, .named w.text)) [] ⟨n, ')' :: rest, levels, false⟩ := by
  refine Reads.next ?_ (Reads.next (Fails.optional (fails_mark_close (by decide)))
    (Rule.reads_pure _ _))
  induction ws with
  | nil =>
    exact Fails.many (Reads.bind_fails (reads_lineSplit_solid (solid_close rest))
      (.bind (fails_mark_close (by decide))))
  | cons w ws ih =>
    have hsolid : Solid (w.text.toList ++ (moreNames ws ++ ')' :: rest)) := IsWord.solid w.isWord
    have hcomma := (EndsItem.comma (' ' :: (w.text.toList ++ (moreNames ws ++ ')' :: rest)))).solid
    rw [moreNames, List.flatMap_cons, ← moreNames, List.append_assoc, List.cons_append,
      List.cons_append]
    refine Reads.many (Reads.next (reads_lineSplit_solid hcomma) (Reads.next
      (reads_mark rfl hcomma (by decide) signAt?_comma) (Reads.next (reads_lineSplit_space hsolid)
        (Reads.next (reads_fetch_space hsolid) (Reads.next
          (reads_parameter w (endsItem_moreNames ws)) (Rule.reads_pure (_, _) _)))))) ?_ ih
    simp only [Place.size, List.length_cons, List.length_append]
    omega

theorem reads_parameters (ws : List Name) :
    g.parameters.Reads ⟨n, '(' :: (nameList ws ++ ')' :: rest), levels, false⟩
      (ws.map fun w => .named w.text) [] ⟨n, rest, levels, false⟩ := by
  have hopen : ∀ cs, (sign "(").Reads ⟨n, '(' :: cs, levels, false⟩ () [] ⟨n, cs, levels, false⟩ :=
    fun cs => reads_sign rfl (by decide) signAt?_open
  cases ws with
  | nil =>
    have hparameter : (g.parameter true .bracket).Fails ⟨n, ')' :: rest, levels, false⟩ :=
      .firstOf (.bind (needs_signIn _ _ (not_atSign_close (by decide))))
        (.firstOf (.bind (needs_sign _ _ (not_atSign_close (by decide))))
          (.firstOf (.bind (needs_sign _ _ (not_atSign_close (by decide))))
            (.firstOf (tupleParameter_needs _ _ (not_atSign_close (by decide)))
              (.firstOf (.bind (needs_wordExcept _ _ (not_atWord_close (by simp))))
                Rule.fails_firstOf_nil))))
    exact Reads.next (hopen _) (Reads.next (reads_lineSplit_solid (solid_close rest))
      (Reads.next (reads_fetch_solid (solid_close rest)) (Reads.next
        (Fails.optional (.bind hparameter))
        (Reads.next reads_mark_close (Rule.reads_pure _ _)))))
  | cons w ws =>
    have hitems : withSplits Parameter.other ((false, .named w.text) ::
        ws.map fun w => (false, .named w.text)) = (w :: ws).map fun w => .named w.text := by
      rw [← withSplits_unsplit .other ((w :: ws).map _)]
      simp [Function.comp_def]
    rw [nameList, List.append_assoc, ← hitems]
    refine Reads.next (hopen _) (Reads.next (reads_lineSplit_solid (IsWord.solid w.isWord))
      (Reads.next (reads_fetch_solid (IsWord.solid w.isWord)) ?_))
    refine Reads.next (Reads.optional (Reads.next (reads_parameter w (endsItem_moreNames ws))
      (Reads.next (reads_moreNames ws) (Rule.reads_pure _ _)))) ?_
    exact Reads.next reads_mark_close (Rule.reads_pure _ _)

/-! ### Suites -/

theorem solid_colon (cs : List Char) : Solid (':' :: cs) := ⟨by decide, by decide, by decide⟩

/-- Behind a colon at the end of a line, a block is opened if the next line is further in, and nothing
else can be read. -/
theorem read_suite {width : Nat} {cs : List Char} (hcs : Break width cs)
    (hlevel : levels.headD 0 < width) : g.suite.read ⟨n, ':' :: cs, levels, false⟩ =
      (Rule.many g.statement >>= fun _ => dedent statementNext).read
        ⟨n, cs, openBlock width levels, false⟩ := by
  have htoken : layoutToken? suiteNext levels false cs = some (.indent width) :=
    hcs.layoutToken?_indent rfl hlevel
  have hnewline : (newline suiteNext).Fails ⟨n, cs, levels, false⟩ := by
    simp [Fails, newline, layout, Cursor.ahead, ahead_of_layout htoken]
  calc g.suite.read ⟨n, ':' :: cs, levels, false⟩
    _ = (Rule.firstOf [block suiteNext statementNext g.statement, newline suiteNext, do
          fetch suiteNext
          g.simpleStatements]).read ⟨n, cs, levels, false⟩ :=
      Reads.read_bind (reads_mark rfl (solid_colon cs) (by decide) hcs.signAt?_colon)
    _ = (block suiteNext statementNext g.statement).read ⟨n, cs, levels, false⟩ :=
      Rule.read_orElse_of_fails (hnewline.firstOf (.firstOf (.bind (fails_fetch htoken))
        Rule.fails_firstOf_nil))
    _ = _ := Reads.read_bind (hcs.reads_indent hlevel)

/-- The statement of an empty body. -/
theorem reads_pass {j width : Nat} (depth : Nat) (hrest : Break j rest) :
    (nested (depth + 1)).statement.Reads
      ⟨n, lineStart width ++ ("pass".toList ++ rest), width :: levels, false⟩ () []
      ⟨n + 1, rest, width :: levels, false⟩ := by
  have hends : EndsWord rest := by cases hrest <;> simp [lineStart] <;> decide
  have hpass : IsWord "pass".toList := by decide
  have hword : ∀ {P : String → Prop}, ¬ P "pass" →
      ¬ AtWord P ⟨n + 1, "pass".toList ++ rest, width :: levels, false⟩ := by
    intro P hP
    rwa [atWord_word hpass hends]
  have hkeyword : (nested depth).keywordStatement.Reads
      ⟨n + 1, "pass".toList ++ rest, width :: levels, false⟩ () []
      ⟨n + 1, rest, width :: levels, false⟩ := by
    refine Fails.firstOf_reads (.bind (needs_keyword _ _ (hword (by decide)))) ?_
    refine Fails.firstOf_reads (.bind (needs_keyword _ _ (hword (by decide)))) ?_
    refine Fails.firstOf_reads (.bind (needs_keyword _ _ (hword (by decide)))) ?_
    refine Fails.firstOf_reads (.bind (needs_keyword _ _ (hword (by decide)))) ?_
    refine Fails.firstOf_reads (.bind (needs_keyword _ _ (hword (by decide)))) ?_
    refine Fails.firstOf_reads (.bind (needs_keyword _ _ (hword (by decide)))) ?_
    exact Reads.firstOf (Reads.skip (reads_wordIn hpass hends (by decide)))
  have hsemicolon : (mark lineEnd ";").Fails ⟨n + 1, rest, width :: levels, false⟩ :=
    .bind hrest.fails_fetch_newline
  have hsimple : (nested depth).simpleStatements.Reads
      ⟨n + 1, "pass".toList ++ rest, width :: levels, false⟩ () []
      ⟨n + 1, rest, width :: levels, false⟩ :=
    Reads.next (Reads.firstOf hkeyword) (Reads.next (Fails.many (.bind hsemicolon))
      (Reads.next (Fails.accepts hsemicolon) hrest.reads_newline))
  rw [statement_nested]
  refine Reads.delay ?_
  rw [statementRule_eq]
  refine Reads.next (reads_fetch_line rfl hpass.solid) ?_
  refine Fails.firstOf_reads (decorated_needs _ (not_atSign_word hpass)) ?_
  refine Fails.firstOf_reads (function_needs [] _ (hword (by decide))) ?_
  refine Fails.firstOf_reads (classDefinition_needs _ (hword (by decide))) ?_
  exact Reads.firstOf_append (fun p hp => compounds_need p hp _ (hword (by decide)))
    (Reads.firstOf hsimple)

/-! ### Definitions -/

/-- What is left to read of a definition once the place behind its head is reached. -/
def suiteOf (g : Grammar) (d : Declaration) : PythonRule Unit :=
  Rule.declare (g.suite >>= fun _ => Pure.pure (some d))

section Definition

variable {j depth : Nat} {cs : List Char}

theorem fails_typeParameters {e : Expect} :
    (fetch e >>= fun _ => g.typeParameters).Fails ⟨n, '(' :: cs, levels, false⟩ := by
  refine Reads.bind_fails (reads_fetch_solid (solid_open cs)) (.bind (needs_sign _ _ ?_))
  rw [atSign_iff signAt?_open]
  decide

theorem read_classDefinition (name base : Name) :
    (nested (depth + 4)).classDefinition.read ⟨n, "class".toList ++ ' ' ::
      (name.text.toList ++ '(' :: (base.text.toList ++ ')' :: ':' :: cs)), levels, false⟩ =
      ((nested (depth + 4)).suiteOf (.type name.text [base.text])).read
        ⟨n, ':' :: cs, levels, false⟩ := by
  refine Rule.read_declare_congr ?_ rfl
  refine (Reads.read_bind (reads_keyword (by decide) (by simp; decide))).trans ?_
  refine (Reads.read_bind (reads_fetch_space (IsWord.solid name.isWord))).trans ?_
  refine (Reads.read_bind (reads_word name.isWord (by simp; decide))).trans ?_
  refine (Reads.read_bind (Fails.optional fails_typeParameters)).trans ?_
  have hbases : (do
      mark {} "("
      (nested (depth + 4)).arguments).Reads
      ⟨n, '(' :: (base.text.toList ++ ')' :: ':' :: cs), levels, false⟩ [some (.name base.text)] []
      ⟨n, ':' :: cs, levels, false⟩ :=
    Reads.next (reads_mark rfl (solid_open _) (by decide) signAt?_open) (reads_arguments base)
  exact Reads.read_bind hbases.optional

theorem read_function (decorators : List Decorator) (name : Name) (parameters : List Name)
    (hcs : Break j cs) :
    (g.function decorators).read ⟨n, "def".toList ++ ' ' ::
      (name.text.toList ++ '(' :: (nameList parameters ++ ')' :: ':' :: cs)), levels, false⟩ =
      (g.suiteOf (.function decorators (parameters.map fun w => .named w.text))).read
        ⟨n, ':' :: cs, levels, false⟩ := by
  have hdef : IsWord "def".toList := by decide
  refine Rule.read_declare_congr ?_ rfl
  refine (Reads.read_bind (Fails.optional (.bind (needs_keyword _ _ ?_)))).trans ?_
  · rw [atWord_word hdef (by simp; decide)]
    decide
  refine (Reads.read_bind (reads_keyword hdef (by simp; decide))).trans ?_
  refine (Reads.read_bind (reads_fetch_space (IsWord.solid name.isWord))).trans ?_
  refine (Reads.read_bind (reads_word name.isWord (by simp; decide))).trans ?_
  refine (Reads.read_bind (Fails.optional fails_typeParameters)).trans ?_
  refine (Reads.read_bind (reads_fetch_solid (solid_open _))).trans ?_
  refine (Reads.read_bind (reads_parameters parameters)).trans ?_
  refine Reads.read_bind (Fails.optional (.bind (fails_mark (solid_colon cs) ?_)))
  rw [atSign_iff hcs.signAt?_colon]
  decide

end Definition

/-! ### Statements -/

/-- What stands before a statement: nothing at the very front, else the end of the line before. -/
inductive Lead (width : Nat) : List Char → Prop
  | front : Lead width []
  | line : Lead width (lineStart width)

theorem Lead.reads_fetch {width : Nat} {lead cs : List Char} (h : Lead width lead)
    (hcs : Solid cs) :
    (fetch statementNext).Reads ⟨n, lead ++ cs, width :: levels, false⟩ () []
      ⟨n + Text.newlines lead, cs, width :: levels, false⟩ := by
  cases h with
  | front => exact reads_fetch_solid hcs
  | line =>
    rw [newlines_lineStart]
    exact reads_fetch_line rfl hcs

/-- A statement that is `width` in and begins with `head` is a definition of `d`: reading it is reading
what stands from the colon at the end of the head on. -/
structure Heads (depth width : Nat) (head : List Char) (d : Declaration) : Prop where
  long : 1 < head.length
  solid : ∀ cs, Solid (head ++ cs)
  read : ∀ {n j levels lead cs}, Lead width lead → Break j cs →
    (nested (depth + 1)).statement.read ⟨n, lead ++ (head ++ cs), width :: levels, false⟩ =
      ((nested depth).suiteOf d).read
        ⟨n + Text.newlines lead + Text.newlines head, ':' :: cs, width :: levels, false⟩

theorem heads_class (depth width : Nat) (name base : Name) :
    Heads (depth + 4) width (Program.classChars name base) (.type name.text [base.text]) := by
  have htext : ∀ cs, Program.classChars name base ++ cs = "class".toList ++ ' ' ::
      (name.text.toList ++ '(' :: (base.text.toList ++ ')' :: ':' :: cs)) := by
    simp [Program.classChars]
  have hclass : IsWord "class".toList := by decide
  refine ⟨by simp [Program.classChars], fun cs => htext cs ▸ hclass.solid, ?_⟩
  intro n j levels lead cs hlead _
  have hword : ∀ {P : String → Prop}, AtWord P ⟨n + Text.newlines lead, "class".toList ++ ' ' ::
      (name.text.toList ++ '(' :: (base.text.toList ++ ')' :: ':' :: cs)), width :: levels,
      false⟩ ↔ P "class" := atWord_word hclass (by simp; decide)
  rw [htext, read_statement, newlines_of_printable (isPrintable_classChars name base),
    Nat.add_zero, ← read_classDefinition]
  refine (Reads.read_bind (hlead.reads_fetch hclass.solid)).trans ?_
  refine (Fails.read_orElse (decorated_needs _ (not_atSign_word hclass))).trans ?_
  refine (Fails.read_orElse (function_needs [] _ (mt hword.1 (by decide)))).trans ?_
  refine Rule.read_orElse_of_fails (Rule.fails_firstOf fun p hp => ?_)
  rcases List.mem_append.1 hp with hp | hp
  · exact compounds_need p hp _ (mt hword.1 (by decide))
  · rw [List.mem_singleton.1 hp]
    exact fails_simpleStatements (hword.2 rfl) (by decide)

theorem newlines_functionHead (width : Nat) (f : Function) :
    Text.newlines ('@' :: f.callChars ++ (lineStart width ++ f.headerChars)) = 1 := by
  have hprintable : ∀ c ∈ '@' :: f.callChars, IsPrintable c :=
    List.forall_mem_cons.2 ⟨by decide, f.isPrintable_callChars⟩
  rw [newlines_append, newlines_append, newlines_of_printable hprintable, newlines_lineStart,
    newlines_of_printable f.isPrintable_headerChars]

theorem heads_function (depth width : Nat) (f : Function) :
    Heads (depth + 8) width ('@' :: f.callChars ++ (lineStart width ++ f.headerChars))
      f.declaration := by
  have htext : ∀ cs, f.headerChars ++ cs = "def".toList ++ ' ' :: (f.name.text.toList ++ '(' ::
      (nameList f.parameters ++ ')' :: ':' :: cs)) := by
    simp [Function.headerChars]
  have hdef : IsWord "def".toList := by decide
  have hlong : 1 < ('@' :: f.callChars ++ (lineStart width ++ f.headerChars)).length := by
    simp only [lineStart, List.length_append, List.length_cons]
    omega
  refine ⟨hlong, fun cs => ⟨by decide, by decide, by decide⟩, ?_⟩
  intro n j levels lead cs hlead hcs
  have hsolid : Solid (f.headerChars ++ cs) := htext cs ▸ hdef.solid
  have hcall : Solid (f.callChars ++ (lineStart width ++ (f.headerChars ++ cs))) := by
    rw [Function.callChars, List.append_assoc]
    exact IsWord.solid f.object.isWord
  have hat : signAt? ('@' :: (f.callChars ++ (lineStart width ++ (f.headerChars ++ cs)))) =
      some "@" := by
    rw [Function.callChars, List.append_assoc]
    exact IsWord.signAt?_at f.object.isWord
  have hdecorator : (nested (depth + 8)).decorator.Reads
      ⟨n + Text.newlines lead, '@' :: (f.callChars ++ (lineStart width ++ (f.headerChars ++ cs))),
        width :: levels, false⟩ f.decorator []
      ⟨n + Text.newlines lead, lineStart width ++ (f.headerChars ++ cs), width :: levels, false⟩ :=
    Reads.next (reads_sign rfl (by decide) hat) (Reads.next (reads_lineSplit_solid hcall)
      (Reads.next (reads_call f (.line width hsolid))
        (Reads.next (Break.line width hsolid).reads_newline (Rule.reads_pure _ _))))
  have hfetch : (fetch {}).Reads
      ⟨n + Text.newlines lead, lineStart width ++ (f.headerChars ++ cs), width :: levels, false⟩
      () []
      ⟨n + Text.newlines lead + 1, f.headerChars ++ cs, width :: levels, false⟩ :=
    reads_fetch_line rfl hsolid
  have hmore : (nested (depth + 8)).decorator.Fails
      ⟨n + Text.newlines lead + 1, f.headerChars ++ cs, width :: levels, false⟩ := by
    rw [htext]
    exact .bind (needs_sign _ _ (not_atSign_word hdef))
  have hclass : (nested (depth + 8)).classDefinition.Fails
      ⟨n + Text.newlines lead + 1, f.headerChars ++ cs, width :: levels, false⟩ := by
    rw [htext]
    refine classDefinition_needs _ ?_
    rw [atWord_word hdef (by simp; decide)]
    decide
  have hchars : lead ++ (('@' :: f.callChars ++ (lineStart width ++ f.headerChars)) ++ cs) =
      lead ++ '@' :: (f.callChars ++ (lineStart width ++ (f.headerChars ++ cs))) := by simp
  rw [hchars, newlines_functionHead, read_statement]
  have hfirst : Solid ('@' :: (f.callChars ++ (lineStart width ++ (f.headerChars ++ cs)))) :=
    ⟨by decide, by decide, by decide⟩
  refine (Reads.read_bind (hlead.reads_fetch hfirst)).trans ?_
  -- the other statements could not be read here, should the definition fail
  refine (Rule.read_orElse_of_fails (Rule.fails_firstOf fun p hp => ?_)).trans ?_
  · exact (guarded_nested (depth + 8)).undecorated_need p hp _ (by simp [AtPlain])
  refine (Reads.read_bind hdecorator).trans ?_
  refine (Reads.read_bind (Fails.many (Reads.bind_fails hfetch hmore))).trans ?_
  refine (Reads.read_bind hfetch).trans ((Rule.read_orElse_of_fails hclass).trans ?_)
  rw [htext]
  exact read_function [f.decorator] f.name f.parameters hcs

/-- No further statement of the block can be read behind its last line. -/
theorem fails_statement {j width depth : Nat} (hrest : Break j rest) (hj : j < width) :
    (nested depth).statement.Fails ⟨n, rest, width :: levels, false⟩ := by
  cases depth with
  | zero => rfl
  | succ depth =>
    rw [statement_nested]
    exact .delay (.bind (hrest.fails_fetch_dedent hj))

end Grammar

/-! ### Programs -/

namespace Program

open Grammar

/-- The declarations in document order if the program begins on line `n`. -/
def outline (n : Nat) : Program → List (Located Declaration)
  | .done => []
  | .type name base body rest =>
    ⟨n, .type name.text [base.text]⟩ ::
      (body.outline (n + 1) ++ rest.outline (n + 1 + (suiteLines body.lines).length))
  | .function f body rest =>
    ⟨n + 1, f.declaration⟩ ::
      (body.outline (n + 2) ++ rest.outline (n + 2 + (suiteLines body.lines).length))

/-- The program begins with a definition of `d` that has this head and this body. -/
structure Defines (depth width : Nat) (head : List Char) (d : Declaration) (p body rest : Program) :
    Prop extends Heads depth width head d where
  chars_eq : ∀ lead, p.chars width lead = lead ++ (head ++ (suiteChars (width + 4)
    (body.chars (width + 4) (lineStart (width + 4))) ++ rest.chars width (lineStart width)))
  outline_eq : ∀ n, p.outline n = ⟨n + Text.newlines head, d⟩ ::
    (body.outline (n + Text.newlines head + 1) ++
      rest.outline (n + Text.newlines head + 1 + (suiteLines body.lines).length))
  height_eq : p.height = max (body.height + 1) rest.height

theorem defines_type (depth width : Nat) (name base : Name) (body rest : Program) :
    Defines (depth + 8) width (classChars name base) (.type name.text [base.text])
      (.type name base body rest) body rest where
  toHeads := heads_class (depth + 4) width name base
  chars_eq lead := rfl
  outline_eq n := by
    rw [newlines_of_printable (isPrintable_classChars name base)]
    rfl
  height_eq := rfl

theorem defines_function (depth width : Nat) (f : Function) (body rest : Program) :
    Defines (depth + 8) width ('@' :: f.callChars ++ (lineStart width ++ f.headerChars))
      f.declaration (.function f body rest) body rest where
  toHeads := heads_function depth width f
  chars_eq lead := by simp [chars]
  outline_eq n := by
    rw [newlines_functionHead]
    rfl
  height_eq := rfl

/-- A program is empty or begins with a definition. -/
theorem definitionInduction {motive : Program → Prop} (done : motive .done)
    (definition : ∀ p body rest : Program,
      (∀ depth width, ∃ head d, Defines (depth + 8) width head d p body rest) →
      motive body → motive rest → motive p)
    (p : Program) : motive p := by
  induction p with
  | done => exact done
  | type name base body rest ihb ihr =>
    exact definition _ body rest (fun depth width => ⟨_, _, defines_type depth width ..⟩) ihb ihr
  | function f body rest ihb ihr =>
    exact definition _ body rest (fun depth width => ⟨_, _, defines_function depth width ..⟩) ihb ihr

/-- The block that is open at `width` is read statement by statement up to `close`. -/
def ReadsBlock (depth width : Nat) (levels : List Nat) (p : Program) (n : Nat)
    (lead close : List Char) : Prop :=
  ∃ us, (Rule.many (nested depth).statement).Reads
    ⟨n, p.chars width lead ++ close, width :: levels, false⟩ us (p.outline (n + Text.newlines lead))
    ⟨n + Text.newlines (p.chars width lead), close, width :: levels, false⟩

variable {depth width j n : Nat} {levels : List Nat} {lead close : List Char}

/-- A body is read as a block of its own; an empty one is its only statement. -/
theorem reads_body (body : Program)
    (hopen : openBlock (width + 4) (width :: levels) = (width + 4) :: width :: levels)
    (hclose : Break j close) (hj : j ≤ width)
    (hbody : ReadsBlock (depth + 1) (width + 4) (width :: levels) body n
      (lineStart (width + 4)) close) :
    (nested (depth + 1)).suite.Reads
      ⟨n, ':' :: (suiteChars (width + 4) (body.chars (width + 4) (lineStart (width + 4))) ++ close),
        width :: levels, false⟩ () (body.outline (n + 1))
      ⟨n + (suiteLines body.lines).length, close, width :: levels, false⟩ := by
  have hdedent : (dedent statementNext).Reads
      ⟨n + (suiteLines body.lines).length, close, (width + 4) :: width :: levels, false⟩ () []
      ⟨n + (suiteLines body.lines).length, close, width :: levels, false⟩ :=
    hclose.reads_dedent (Nat.lt_of_le_of_lt hj (Nat.lt_add_of_pos_right (by decide)))
  refine (read_suite body.break_suiteChars (by simp)).trans ?_
  rw [hopen]
  -- An empty body is printed as a statement all the same, so it is not read as an empty block.
  by_cases hp : body = .done
  · subst hp
    have hpass : (nested (depth + 1)).statement.Reads
        ⟨n, lineStart (width + 4) ++ ("pass".toList ++ close),
          (width + 4) :: width :: levels, false⟩ () []
        ⟨n + 1, close, (width + 4) :: width :: levels, false⟩ := reads_pass depth hclose
    rw [chars, suiteChars, List.append_assoc]
    refine Reads.last (Reads.many hpass ?_ (Fails.many (fails_statement hclose (by omega)))) hdedent
    simp only [Place.size, lineStart, List.length_append, List.length_cons]
    omega
  · obtain ⟨us, hbody⟩ := hbody
    rw [newlines_lineStart, ← body.suiteChars_chars hp, newlines_suiteChars] at hbody
    exact Reads.last hbody hdedent

section Definition

variable {head : List Char} {d : Declaration} {p body rest : Program}

/-- A definition is read if its body is, which goes on up to the next line that is no further in. -/
theorem Defines.reads_statement {cs : List Char}
    (hp : Defines (depth + 8) width head d p body rest) (hlead : Lead width lead)
    (hopen : openBlock (width + 4) (width :: levels) = (width + 4) :: width :: levels)
    (hcs : Break j cs) (hj : j ≤ width)
    (hbody : ∀ k, ReadsBlock (depth + 8) (width + 4) (width :: levels) body k
      (lineStart (width + 4)) cs) :
    (nested (depth + 9)).statement.Reads
      ⟨n, lead ++ (head ++ (suiteChars (width + 4) (body.chars (width + 4) (lineStart (width + 4))) ++
        cs)), width :: levels, false⟩ ()
      (⟨n + Text.newlines lead + Text.newlines head, d⟩ ::
        body.outline (n + Text.newlines lead + Text.newlines head + 1))
      ⟨n + Text.newlines lead + Text.newlines head + (suiteLines body.lines).length, cs,
        width :: levels, false⟩ := by
  have hsuite := reads_body body hopen hcs hj (hbody (n + Text.newlines lead + Text.newlines head))
  exact (hp.read hlead body.break_suiteChars).trans
    (Reads.declare (Reads.last hsuite (Rule.reads_pure (some d) _)))

/-- A definition is read with its body and then the rest of the block. -/
theorem Defines.readsBlock (hp : Defines (depth + 8) width head d p body rest)
    (hlead : Lead width lead)
    (hopen : openBlock (width + 4) (width :: levels) = (width + 4) :: width :: levels)
    (hclose : Break j close) (hj : j ≤ width)
    (hbody : ∀ k, ReadsBlock (depth + 8) (width + 4) (width :: levels) body k
      (lineStart (width + 4)) (rest.chars width (lineStart width) ++ close))
    (hrest : ∀ k, ReadsBlock (depth + 9) width levels rest k (lineStart width) close) :
    ReadsBlock (depth + 9) width levels p n lead close := by
  obtain ⟨i, hi, hbreak⟩ := rest.break_chars hclose hj
  have hstatement := hp.reads_statement (n := n) hlead hopen hbreak hi hbody
  obtain ⟨us, hrest⟩ :=
    hrest (n + Text.newlines lead + Text.newlines head + (suiteLines body.lines).length)
  have hlong := hp.long
  have h := Reads.many hstatement
    (by simp only [Place.size, List.length_append]; omega) hrest
  have hlast : n + Text.newlines (p.chars width lead) =
      n + Text.newlines lead + Text.newlines head + (suiteLines body.lines).length +
        Text.newlines (rest.chars width (lineStart width)) := by
    simp only [hp.chars_eq, newlines_append, newlines_suiteChars]
    omega
  refine ⟨() :: us, ?_⟩
  rw [newlines_lineStart] at h
  rw [hlast, hp.chars_eq, hp.outline_eq, Nat.add_right_comm _ 1]
  simpa only [List.append_assoc, List.cons_append] using h

end Definition

/-- The blocks of a printed program are four further in than those around them, so that indentations are
small as long as all open blocks are remembered. -/
theorem openBlock_printed (hlevels : levels.length + 1 ≤ maxBlocks)
    (hwidth : width = 4 * levels.length) :
    openBlock (width + 4) (width :: levels) = (width + 4) :: width :: levels := by
  refine openBlock_of_le hlevels ?_
  simp only [maxBlocks, UInt16.size] at hlevels ⊢
  omega

/-- A block is read if enough depth is left for what is nested in it, if all the blocks in it can be
remembered, and if no statement of it can be read behind it. -/
theorem readsBlock (p : Program) (hdepth : p.height + 8 ≤ depth)
    (hfits : levels.length + p.height ≤ maxBlocks) (hwidth : width = 4 * levels.length)
    (hlead : Lead width lead) (hclose : Break j close) (hj : j ≤ width)
    (hstop : ∀ m, (nested depth).statement.Fails ⟨m, close, width :: levels, false⟩) :
    ReadsBlock depth width levels p n lead close := by
  -- What closes a body is the rest of the block around it, so `close` changes on the way down.
  induction p using definitionInduction generalizing depth width j levels n lead close with
  | done => exact ⟨[], Fails.many (hstop n)⟩
  | definition p body rest hp ihb ihr =>
    obtain ⟨head, d, hp⟩ := hp (depth - 9) width
    have hheight := hp.height_eq
    obtain ⟨depth, rfl⟩ : ∃ d, depth = d + 9 := ⟨depth - 9, by omega⟩
    obtain ⟨i, hi, hnext⟩ := rest.break_chars hclose hj
    refine hp.readsBlock hlead (openBlock_printed (by omega) hwidth) hclose hj (fun k => ?_)
      (fun k => ?_)
    · exact ihb (by omega) (by rw [List.length_cons]; omega) (by rw [List.length_cons]; omega) .line
        hnext (by omega) fun m => fails_statement hnext (by omega)
    · exact ihr (by omega) (by omega) hwidth .line hclose hj hstop

theorem height_le_length (p : Program) (width : Nat) (lead : List Char) :
    p.height ≤ (p.chars width lead).length := by
  have hsuite : ∀ k cs, cs.length ≤ (suiteChars k cs).length := by
    rintro k (_ | ⟨c, cs⟩)
    · exact Nat.zero_le _
    · exact Nat.le_refl _
  induction p generalizing width lead with
  | done => exact Nat.le_refl 0
  | type name base body rest ihb ihr =>
    have hbody := Nat.le_trans (ihb (width + 4) (lineStart (width + 4))) (hsuite (width + 4) _)
    have hrest := ihr width (lineStart width)
    simp only [height, chars, classChars, List.length_append, List.length_cons]
    omega
  | function f body rest ihb ihr =>
    have hbody := Nat.le_trans (ihb (width + 4) (lineStart (width + 4))) (hsuite (width + 4) _)
    have hrest := ihr width (lineStart width)
    simp only [height, chars, List.length_append, List.length_cons]
    omega

theorem height_le_depthFor (p : Program) : p.height + 8 ≤ depthFor p.text.toList := by
  have hheight := p.height_le_length 0 []
  rw [← p.chars_append_trail, depthFor, List.length_append]
  omega

theorem reads_fetch_trail (p : Program) :
    (fetch statementNext).Reads ⟨n, p.trail, [0], false⟩ () []
      ⟨n + Text.newlines p.trail, [], [0], false⟩ := by
  cases p with
  | done => exact reads_fetch_nil
  | type => exact reads_fetch_final
  | function => exact reads_fetch_final

/-- No statement can be read behind the last line of the source. -/
theorem fails_statement_trail (p : Program) (depth : Nat) :
    (nested depth).statement.Fails ⟨n, p.trail, [0], false⟩ := by
  cases depth with
  | zero => rfl
  | succ depth =>
    rw [statement_nested]
    refine Fails.delay (Reads.bind_fails p.reads_fetch_trail ?_)
    exact (guarded_nested depth).alternatives _ (by simp [AtText])

theorem readsBlock_trail (p : Program) (hdepth : p.height + 8 ≤ depth)
    (hfits : p.height ≤ maxBlocks) : ReadsBlock depth 0 [] p n [] p.trail := by
  have hstop := fun m => p.fails_statement_trail (n := m) depth
  cases p with
  | done => exact ⟨[], Fails.many (hstop n)⟩
  | type => exact readsBlock _ hdepth (by simpa) rfl .front .final (Nat.le_refl 0) hstop
  | function => exact readsBlock _ hdepth (by simpa) rfl .front .final (Nat.le_refl 0) hstop

theorem mem_text (p : Program) : ∀ c ∈ p.text.toList, c = '\n' ∨ IsPrintable c := by
  intro c hc
  rw [text, toList_textOfLines] at hc
  obtain ⟨l, hl, hc⟩ := List.mem_flatMap.1 hc
  rcases List.mem_append.1 hc with hc | hc
  · exact .inr (p.isPrintable_lines l hl c hc)
  · exact .inl (List.mem_singleton.1 hc)

/-- The outline of a printed program is that of the program, if all blocks of it can be remembered. -/
theorem outline?_text_of_le (p : Program) (hfits : p.height ≤ maxBlocks) :
    outline? p.text.toList = some (p.outline 1) := by
  have hdepth := p.height_le_depthFor
  obtain ⟨us, hblock⟩ := p.readsBlock_trail (n := 1) hdepth hfits
  rw [p.chars_append_trail] at hblock
  have hsource : (nested (depthFor p.text.toList)).source.Reads ⟨1, p.text.toList, [0], false⟩ ()
      (p.outline 1) ⟨_, [], [0], false⟩ :=
    Reads.last hblock (Reads.next p.reads_fetch_trail rfl)
  simp only [outline?, skipMark_of_printable p.mem_text, show Rule.read _ _ = _ from hsource]

end Program

end ServiceAtlas.Python
