import ServiceAtlas.Proofs.Java.DeclarationReading

/-!
The grammar reads the tokens of a printed program and finds its declarations in document order
(`Program.outline?_text`). The induction is on the program: the members of a class are read one
level of nesting deeper, and what follows the class at the same level.
-/

namespace ServiceAtlas.Java

open Rule (Reads Fails)
open Cursor

/-! ### Lines -/

@[simp] theorem lineAfter_name (n : Nat) (lead : List Char) (w : Name) :
    lineAfter n (wordToken lead w.text) = n + Text.newlines lead :=
  congrArg (n + Text.newlines lead + ·)
    (newlines_of_printable (isPrintable_of_isWord (by decide) w.isWord))

@[simp] theorem lineAfter_path (n : Nat) (lead : List Char) (p : PathText) :
    lineAfter n (pathToken lead p) = n + Text.newlines lead :=
  congrArg (n + Text.newlines lead + ·) (newlines_of_printable p.printable_quoted)

@[simp] theorem lineAfter_sign (n : Nat) (lead : List Char) {s : String}
    (hs : s ∈ ["@", "(", ")", ",", "\x7b", "\x7d"]) :
    lineAfter n (signToken lead s) = n + Text.newlines lead := by
  have h : ∀ s ∈ ["@", "(", ")", ",", "\x7b", "\x7d"], Text.newlines s.toList = 0 := by decide
  exact congrArg (n + Text.newlines lead + ·) (h s hs)

@[simp] theorem linesAfter_nil (n : Nat) : linesAfter n [] = n := rfl

@[simp] theorem linesAfter_cons (n : Nat) (t : Token) (ts : List Token) :
    linesAfter n (t :: ts) = linesAfter (lineAfter n t) ts := rfl

@[simp] theorem newlines_nil : Text.newlines [] = 0 := rfl

@[simp] theorem newlines_space : Text.newlines [' '] = 0 := rfl

@[simp] theorem newlines_newline : Text.newlines ['\n'] = 1 := rfl

theorem linesAfter_moreTokens {α : Type} {item : List Char → α → List Token}
    (h : ∀ n lead a, Text.newlines lead = 0 → linesAfter n (item lead a) = n) (n : Nat)
    (as : List α) :
    linesAfter n (moreTokens item as) = n := by
  induction as with
  | nil => rfl
  | cons a as ih =>
    rw [moreTokens, List.flatMap_cons, linesAfter_append, ← moreTokens, linesAfter_cons,
      lineAfter_sign n [] (by simp), newlines_nil, Nat.add_zero, h n [' '] a rfl, ih]

theorem linesAfter_commaTokens {α : Type} {item : List Char → α → List Token}
    (h : ∀ n lead a, Text.newlines lead = 0 → linesAfter n (item lead a) = n) (n : Nat)
    (as : List α) :
    linesAfter n (commaTokens item as) = n := by
  cases as with
  | nil => rfl
  | cons a as => rw [commaTokens, linesAfter_append, h n [] a rfl, linesAfter_moreTokens h]

namespace Method

theorem linesAfter_argumentTokens (n : Nat) (m : Method) : linesAfter n m.argumentTokens = n := by
  have hpaths : ∀ n, linesAfter n (commaTokens (fun lead p => [pathToken lead p]) m.paths) = n :=
    fun n => linesAfter_commaTokens (fun n lead p h => by simp [h]) n m.paths
  unfold argumentTokens
  cases m.morePaths with
  | nil => simp
  | cons q qs => simp [linesAfter_append, hpaths]

theorem linesAfter_tokens (n : Nat) (lead : List Char) (m : Method) :
    linesAfter n (m.tokens lead) = n + Text.newlines lead + 1 := by
  have hparameters : ∀ n, linesAfter n (commaTokens parameterTokens m.parameters) = n :=
    fun n => linesAfter_commaTokens (fun n lead p h => by simp [parameterTokens, h]) n m.parameters
  simp [tokens, tagTokens, headerTokens, linesAfter_append, linesAfter_argumentTokens, hparameters]

end Method

namespace Program

theorem linesAfter_openTokens (n : Nat) (lead : List Char) (tag : Option Name) (name : Name) :
    linesAfter n (openTokens lead tag name) = n + Text.newlines lead + (tagLines tag).length := by
  have hclass : ∀ n lead, lineAfter n (wordToken lead "class") = n + Text.newlines lead :=
    fun n lead => congrArg (n + Text.newlines lead + ·)
      (by decide : Text.newlines "class".toList = 0)
  cases tag <;> simp [openTokens, classTokens, tagLines, hclass]

theorem linesAfter_tokens (n : Nat) (p : Program) :
    linesAfter n (p.tokens ['\n']) = n + p.lines.length := by
  induction p generalizing n with
  | done => rfl
  | type tag name members rest ihm ihr =>
    simp [tokens, lines, linesAfter_append, linesAfter_openTokens, ihm, ihr]
    omega
  | method m rest ih =>
    simp [tokens, lines, linesAfter_append, Method.linesAfter_tokens, ih]
    omega

end Program

/-! ### Classes -/

namespace Grammar

/-- A class up to its closing brace, if its members can be read. -/
theorem reads_typeDeclaration (g : Grammar) (records : Bool) (annotations : List Annotation)
    (name : Name) (n : Nat) (lead : List Char) {ms ts : List Token} {us : List Unit}
    {ds : List (Located Declaration)} {m : Nat}
    (hbody : (Rule.many (g.member .classBody)).Reads
      ⟨linesAfter n (Program.classTokens lead name), ms ++ signToken ['\n'] "\x7d" :: ts⟩ us ds
      ⟨m, signToken ['\n'] "\x7d" :: ts⟩) :
    (g.typeDeclaration records annotations).Reads
      ⟨n, Program.classTokens lead name ++ (ms ++ signToken ['\n'] "\x7d" :: ts)⟩
      (some (.type annotations name.text)) ds ⟨lineAfter m (signToken ['\n'] "\x7d"), ts⟩ := by
  have hnone : ∀ w k ts, (g.typeList w).Reads ⟨k, signToken [' '] "\x7b" :: ts⟩ () []
      ⟨k, signToken [' '] "\x7b" :: ts⟩ := fun w k ts =>
    Reads.skip (Fails.optional (Fails.bind (needs_keyword w _ (by simp))))
  refine Reads.firstOf (Reads.last ?_ (Rule.reads_pure _ _))
  refine Reads.next (reads_keyword n lead _ "class") ?_
  refine Reads.next (reads_word _ [' '] _ name.text) ?_
  refine Reads.next (Fails.optional (typeParameters_needs _ (by simp))) ?_
  refine Reads.next (Fails.optional (Fails.bind (needs_keyword "extends" _ (by simp)))) ?_
  refine Reads.next (hnone "implements" _ _) (Reads.next (hnone "permits" _ _) ?_)
  have hbraces := Reads.between (reads_sign _ [' '] _ "\x7b") (Reads.skip hbody)
    (reads_sign m ['\n'] ts "\x7d")
  exact Reads.last hbraces (Rule.reads_pure _ _)

theorem reads_member {depth : Nat} {kind : BodyKind} {c c' : Cursor}
    {ds : List (Located Declaration)}
    (h : ((nested depth).memberRule kind).Reads c () ds c') :
    ((nested (depth + 1)).member kind).Reads c () ds c' := h

/-- A declaration is a member where neither a block nor a semicolon stands. -/
theorem reads_memberRule {g : Grammar} (hg : g.Guarded) {c c' : Cursor} {d : Declaration}
    {as : List Annotation} {ds : List (Located Declaration)} {c₁ : Cursor}
    (hsign : ¬ c.AtSign [";", "\x7b"]) (hword : ¬ c.AtWord (· = "static"))
    (hmodifiers : g.modifiersIfAny.Reads c as [] c₁)
    (h : (Rule.orElse (g.typeDeclaration true as) fun _ =>
      Rule.absent (declares "record") >>= fun _ => Rule.absent (keywordIn typeWords) >>= fun _ =>
        g.plainMember .classBody as).Reads c₁ (some d) ds c') :
    (g.memberRule .classBody).Reads c () (⟨Place.line c, d⟩ :: ds) c' := by
  refine Fails.firstOf_reads (needs_sign ";" c fun h => hsign (h.mono (by simp))) ?_
  refine Fails.firstOf_reads (Reads.bind_fails (Rule.reads_require rfl) (Reads.bind_fails
    (Fails.optional (needs_keyword "static" c hword)) (hg.block c ?_))) ?_
  · exact fun h => hsign (h.mono (by simp))
  · exact Reads.firstOf (Reads.declare (Reads.next hmodifiers h))

/-- A declaration is a statement where no statement of another kind begins. -/
theorem reads_statementAt {g : Grammar} (hg : g.Guarded) {c c₁ c' : Cursor} {d : Declaration}
    {as as' : List Annotation} {ds : List (Located Declaration)}
    (hsign : ¬ c.AtSign [";", "\x7b"]) (hword : ¬ c.AtWord (· ∈ openingWords))
    (hlabel : g.labelled.Fails c) (hannotations : g.annotations.Reads c as' [] c₁)
    (hunit : ¬ c₁.AtWord (· ∈ ["open", "module", "package"]))
    (hmodifiers : g.modifiersIfAny.Reads c as [] c₁)
    (h : ∀ ps, (Rule.firstOf (g.typeDeclaration true as ::
      (do
        Rule.absent (declares "record")
        Rule.absent (declares "module")
        Rule.absent (keywordIn typeWords)
        Rule.require true
        let (returnType, types) ← g.method
        return some (.method as returnType types)) :: ps)).Reads c₁ (some d) ds c') :
    (g.statementAt true).Reads c () (⟨Place.line c, d⟩ :: ds) c' := by
  refine Fails.firstOf_reads (keywordStatement_needs hg c fun h => h.elim hsign hword) ?_
  refine Fails.firstOf_reads hlabel ?_
  refine Fails.firstOf_reads (Reads.bind_fails hannotations (unit_needs c₁ hunit)) ?_
  refine Reads.firstOf (Reads.declare (Reads.next (Rule.reads_place c) (Reads.next hmodifiers ?_)))
  exact Reads.next (Rule.reads_place c₁) (h _)

end Grammar

/-! ### Methods among members and statements -/

namespace Method

open Grammar

def declaration (m : Method) : Declaration :=
  .method [m.tagNode] m.returnType.text (m.parameters.map fun p => p.1.text)

variable (m : Method) (n : Nat) (ts : List Token)

/-- The return type declares no type. -/
theorem fails_typeDeclaration (g : Grammar) (as : List Annotation) :
    (g.typeDeclaration true as).Fails ⟨n, m.headerTokens ++ ts⟩ := by
  have hword : m.returnType.text ∉ "record" :: typeWords := m.returnType.not_mem (by decide)
  exact typeDeclaration_needs true as _ (by simpa [headerTokens] using hword)

theorem reads_absent_declares {w : String} (hw : w ∈ reservedWords) :
    (Rule.absent (declares w)).Reads ⟨n, m.headerTokens ++ ts⟩ () [] ⟨n, m.headerTokens ++ ts⟩ := by
  have hne : m.returnType.text ≠ w := m.returnType.ne_reserved hw
  exact Fails.absent (Fails.ahead
    (Fails.bind (needs_keyword w _ (by simpa [headerTokens] using hne))))

theorem reads_absent_typeWords :
    (Rule.absent (keywordIn typeWords)).Reads ⟨n, m.headerTokens ++ ts⟩ () []
      ⟨n, m.headerTokens ++ ts⟩ := by
  have hword : m.returnType.text ∉ typeWords := m.returnType.not_mem (by decide)
  exact Fails.absent (needs_keywordIn _ _ (by simpa [headerTokens] using hword))

theorem reads_plainMember (depth : Nat) :
    ((nested (depth + 1)).plainMember .classBody [m.tagNode]).Reads ⟨n, m.headerTokens ++ ts⟩
      (some m.declaration) [] ⟨linesAfter n m.headerTokens, ts⟩ := by
  have hg := guarded_nested (depth + 1)
  have hname : m.returnType.text ∉ memberWords := m.returnType.not_mem (by decide)
  -- A constructor would be named by the return type, with parameters or a block right behind it.
  refine Fails.firstOf_reads (Fails.bind (Reads.bind_fails (reads_wordExcept n ['\n'] _ hname)
    (hg.block _ (by simp)))) ?_
  refine Fails.firstOf_reads (Fails.bind (Reads.bind_fails
    (Fails.optional (typeParameters_needs _ (by simp [headerTokens])))
    (Reads.bind_fails (reads_wordExcept n ['\n'] _ hname)
      (Fails.bind (parameters_needs _ (by simp)))))) ?_
  exact Reads.firstOf (Reads.next (reads_method depth m n ts) (Rule.reads_pure _ _))

theorem reads_modifiersIfAny (depth : Nat) (lead : List Char) :
    (nested (depth + 4)).modifiersIfAny.Reads ⟨n, m.tokens lead ++ ts⟩ [m.tagNode] []
      ⟨linesAfter n (m.tagTokens lead), m.headerTokens ++ ts⟩ := by
  have hword : m.returnType.text ∉ modifierWords := m.returnType.not_mem (by decide)
  have htag := reads_annotationNode (reads_annotationRule depth m n lead (m.headerTokens ++ ts))
  rw [tokens, List.append_assoc]
  exact reads_modifiersIfAny_one (guarded_nested _) hword m.name.text _ ['\n'] [' '] _ htag

theorem reads_annotations (depth : Nat) (lead : List Char) :
    (nested (depth + 4)).annotations.Reads ⟨n, m.tokens lead ++ ts⟩ [m.tagNode] []
      ⟨linesAfter n (m.tagTokens lead), m.headerTokens ++ ts⟩ := by
  have hg := guarded_nested (depth + 4)
  have htag := reads_annotationNode (reads_annotationRule depth m n lead (m.headerTokens ++ ts))
  rw [tokens, List.append_assoc]
  refine Reads.many htag ?_ (Fails.many (hg.annotationNode _ (by simp [headerTokens])))
  simp [Place.size, tagTokens]
  omega

/-- The line of a method is that of its annotation. -/
theorem line_tokens (lead : List Char) :
    Place.line (⟨n, m.tokens lead ++ ts⟩ : Cursor) = n + Text.newlines lead := rfl

theorem linesAfter_headerTokens (lead : List Char) :
    linesAfter (linesAfter n (m.tagTokens lead)) m.headerTokens = linesAfter n (m.tokens lead) :=
  (linesAfter_append n _ _).symm

theorem reads_member (depth : Nat) (lead : List Char) :
    ((nested (depth + 5)).member .classBody).Reads ⟨n, m.tokens lead ++ ts⟩ ()
      [⟨n + Text.newlines lead, m.declaration⟩] ⟨linesAfter n (m.tokens lead), ts⟩ := by
  rw [← m.line_tokens n ts lead, ← linesAfter_headerTokens]
  refine Grammar.reads_member (reads_memberRule (guarded_nested (depth + 4))
    (by simp [tokens, tagTokens]) (by simp [tokens, tagTokens])
    (m.reads_modifiersIfAny n ts depth lead) ?_)
  refine Fails.orElse_reads (m.fails_typeDeclaration _ ts _ _) ?_
  refine Reads.next (m.reads_absent_declares _ ts (by decide)) ?_
  exact Reads.next (m.reads_absent_typeWords _ ts) (m.reads_plainMember _ ts (depth + 3))

theorem reads_statement (depth : Nat) (lead : List Char) :
    ((nested (depth + 4)).statementAt true).Reads ⟨n, m.tokens lead ++ ts⟩ ()
      [⟨n + Text.newlines lead, m.declaration⟩] ⟨linesAfter n (m.tokens lead), ts⟩ := by
  have hunit : m.returnType.text ∉ ["open", "module", "package"] := m.returnType.not_mem (by decide)
  rw [← m.line_tokens n ts lead, ← linesAfter_headerTokens]
  refine reads_statementAt (guarded_nested (depth + 4)) (by simp [tokens, tagTokens])
    (by simp [tokens, tagTokens]) (Fails.bind (needs_wordExcept _ _ (by simp [tokens, tagTokens])))
    (m.reads_annotations n ts depth lead) (by simpa [headerTokens] using hunit)
    (m.reads_modifiersIfAny n ts depth lead) fun ps => ?_
  refine Fails.firstOf_reads (m.fails_typeDeclaration _ ts _ _) (Reads.firstOf ?_)
  refine Reads.next (m.reads_absent_declares _ ts (by decide)) ?_
  refine Reads.next (m.reads_absent_declares _ ts (by decide)) ?_
  refine Reads.next (m.reads_absent_typeWords _ ts) (Reads.next (Rule.reads_require rfl) ?_)
  exact Reads.next (reads_method (depth + 3) m _ ts) (Rule.reads_pure _ _)

end Method

/-! ### Classes among members and statements -/

/-- The annotation of a class. -/
def Name.tagNode (a : Name) : Annotation := ⟨"@" ++ a.text, a.text, .none⟩

namespace Program

open Grammar

/-- What stands before the word `class` is read as the modifiers and as the annotations of the
class. -/
theorem reads_open (depth n : Nat) (lead : List Char) (tag : Option Name) (name : Name)
    (ts : List Token) :
    ∃ k lead', linesAfter k (classTokens lead' name) = linesAfter n (openTokens lead tag name) ∧
      (nested (depth + 1)).modifiersIfAny.Reads ⟨n, openTokens lead tag name ++ ts⟩
        (tag.toList.map Name.tagNode) [] ⟨k, classTokens lead' name ++ ts⟩ ∧
      (nested (depth + 1)).annotations.Reads ⟨n, openTokens lead tag name ++ ts⟩
        (tag.toList.map Name.tagNode) [] ⟨k, classTokens lead' name ++ ts⟩ := by
  have hg := guarded_nested (depth + 1)
  have hclass : "class" ∉ modifierWords := by decide
  cases tag with
  | none =>
    refine ⟨n, lead, rfl, ?_, ?_⟩
    · exact reads_modifiersIfAny_none hg hclass name.text n lead [' '] _
    · exact reads_annotations_nil hg (by simp [openTokens, classTokens])
  | some a =>
    have htag := reads_annotationNode (reads_tag (nested depth) a n lead
      (classTokens ['\n'] name ++ ts) (by simp [classTokens]))
    refine ⟨linesAfter n [signToken lead "@", wordToken [] a.text], ['\n'],
      (linesAfter_append n _ _).symm, ?_, ?_⟩
    · exact reads_modifiersIfAny_one hg hclass name.text _ ['\n'] [' '] _ htag
    · refine Reads.many htag ?_ (Fails.many (hg.annotationNode _ (by simp [classTokens])))
      simp [Place.size, classTokens]

/-- The line of a class is that of its annotation, if it has one. -/
theorem line_openTokens (n : Nat) (lead : List Char) (tag : Option Name) (name : Name)
    (ts : List Token) :
    Place.line (⟨n, openTokens lead tag name ++ ts⟩ : Cursor) = n + Text.newlines lead := by
  cases tag <;> rfl

section Class

variable {depth n : Nat} {lead : List Char} {tag : Option Name} {name : Name} {ms ts : List Token}
  {us : List Unit} {ds : List (Located Declaration)} {m : Nat}
  (hbody : (Rule.many ((nested (depth + 1)).member .classBody)).Reads
    ⟨linesAfter n (openTokens lead tag name), ms ++ signToken ['\n'] "\x7d" :: ts⟩ us ds
    ⟨m, signToken ['\n'] "\x7d" :: ts⟩)
include hbody

theorem reads_type_member :
    ((nested (depth + 2)).member .classBody).Reads
      ⟨n, openTokens lead tag name ++ (ms ++ signToken ['\n'] "\x7d" :: ts)⟩ ()
      (⟨n + Text.newlines lead, .type (tag.toList.map Name.tagNode) name.text⟩ :: ds)
      ⟨lineAfter m (signToken ['\n'] "\x7d"), ts⟩ := by
  obtain ⟨k, lead', hlines, hmodifiers, -⟩ :=
    reads_open depth n lead tag name (ms ++ signToken ['\n'] "\x7d" :: ts)
  rw [← hlines] at hbody
  rw [← line_openTokens n lead tag name (ms ++ signToken ['\n'] "\x7d" :: ts)]
  refine reads_member (reads_memberRule (guarded_nested (depth + 1)) ?_ ?_ hmodifiers
    (Reads.orElse (reads_typeDeclaration _ true _ name k lead' hbody)))
  · cases tag <;> simp [openTokens, classTokens]
  · cases tag <;> simp [openTokens, classTokens]

theorem reads_type_statement :
    ((nested (depth + 1)).statementAt true).Reads
      ⟨n, openTokens lead tag name ++ (ms ++ signToken ['\n'] "\x7d" :: ts)⟩ ()
      (⟨n + Text.newlines lead, .type (tag.toList.map Name.tagNode) name.text⟩ :: ds)
      ⟨lineAfter m (signToken ['\n'] "\x7d"), ts⟩ := by
  obtain ⟨k, lead', hlines, hmodifiers, hannotations⟩ :=
    reads_open depth n lead tag name (ms ++ signToken ['\n'] "\x7d" :: ts)
  rw [← hlines] at hbody
  rw [← line_openTokens n lead tag name (ms ++ signToken ['\n'] "\x7d" :: ts)]
  refine reads_statementAt (guarded_nested (depth + 1)) ?_ ?_ (Fails.bind (needs_wordExcept _ _ ?_))
    hannotations ?_ hmodifiers
    fun ps => Reads.firstOf (reads_typeDeclaration _ true _ name k lead' hbody)
  · cases tag <;> simp [openTokens, classTokens]
  · cases tag <;> simp [openTokens, classTokens, openingWords]
  · cases tag <;> simp [openTokens, classTokens, statementWords]
  · simp [classTokens]

end Class

/-! ### Programs -/

/-- The declarations in document order if the program begins on line `n`. -/
def outline (n : Nat) : Program → List (Located Declaration)
  | .done => []
  | .type tag name members rest =>
    let first := n + (tagLines tag).length + 1
    ⟨n, .type (tag.toList.map Name.tagNode) name.text⟩ ::
      (members.outline first ++ rest.outline (first + members.lines.length + 1))
  | .method m rest => ⟨n, m.declaration⟩ :: rest.outline (n + 2)

/-- How deep classes are nested. -/
def height : Program → Nat
  | .done => 0
  | .type _ _ members rest => max (members.height + 1) rest.height
  | .method _ rest => rest.height

/-- The rule reads the program item by item up to `close`. -/
def ReadsItems (q : JavaRule Unit) (p : Program) (n : Nat) (lead : List Char)
    (close : List Token) : Prop :=
  ∃ us, (Rule.many q).Reads ⟨n, p.tokens lead ++ close⟩ us (p.outline (n + Text.newlines lead))
    ⟨linesAfter n (p.tokens lead), close⟩

section Items

variable {q : JavaRule Unit} {n : Nat} {lead : List Char} {close : List Token} {rest : Program}

theorem readsItems_type {tag : Option Name} {name : Name} {members : Program}
    (hitem : q.Reads
      ⟨n, openTokens lead tag name ++ (members.tokens ['\n'] ++
        signToken ['\n'] "\x7d" :: (rest.tokens ['\n'] ++ close))⟩ ()
      (⟨n + Text.newlines lead, .type (tag.toList.map Name.tagNode) name.text⟩ ::
        members.outline (linesAfter n (openTokens lead tag name) + 1))
      ⟨lineAfter (linesAfter (linesAfter n (openTokens lead tag name)) (members.tokens ['\n']))
        (signToken ['\n'] "\x7d"), rest.tokens ['\n'] ++ close⟩)
    (hrest : ∀ k, ReadsItems q rest k ['\n'] close) :
    ReadsItems q (.type tag name members rest) n lead close := by
  obtain ⟨us, hrest⟩ := hrest _
  have h := Reads.many hitem
    (by simp only [Place.size, List.length_cons, List.length_append]; omega) hrest
  have htokens : (Program.type tag name members rest).tokens lead ++ close =
      openTokens lead tag name ++ (members.tokens ['\n'] ++
        signToken ['\n'] "\x7d" :: (rest.tokens ['\n'] ++ close)) := by
    simp [tokens]
  have hlines : linesAfter n ((Program.type tag name members rest).tokens lead) =
      linesAfter (lineAfter (linesAfter (linesAfter n (openTokens lead tag name))
        (members.tokens ['\n'])) (signToken ['\n'] "\x7d")) (rest.tokens ['\n']) := by
    simp [tokens, linesAfter_append]
  have hcomm := Nat.add_right_comm (n + Text.newlines lead + (tagLines tag).length) 1
    members.lines.length
  refine ⟨() :: us, ?_⟩
  rw [htokens, hlines, outline]
  simpa [linesAfter_tokens, linesAfter_openTokens, hcomm] using h

theorem readsItems_method {m : Method}
    (hitem : q.Reads ⟨n, m.tokens lead ++ (rest.tokens ['\n'] ++ close)⟩ ()
      [⟨n + Text.newlines lead, m.declaration⟩]
      ⟨linesAfter n (m.tokens lead), rest.tokens ['\n'] ++ close⟩)
    (hrest : ∀ k, ReadsItems q rest k ['\n'] close) :
    ReadsItems q (.method m rest) n lead close := by
  obtain ⟨us, hrest⟩ := hrest _
  have h := Reads.many hitem (by simp [Place.size, Method.tokens, Method.tagTokens]; omega) hrest
  refine ⟨() :: us, ?_⟩
  rw [tokens, List.append_assoc, linesAfter_append, outline]
  simpa [Method.linesAfter_tokens] using h

end Items

/-- The members of a class are read, if enough depth is left for what is nested in them. -/
theorem readsItems_member (p : Program) {depth : Nat} (hdepth : p.height + 5 ≤ depth) (n : Nat)
    (lead : List Char) (ts : List Token) :
    ReadsItems ((nested depth).member .classBody) p n lead (signToken ['\n'] "\x7d" :: ts) := by
  induction p generalizing depth n lead ts with
  | done => exact ⟨[], Fails.many (member_needs depth _ (not_opens_signToken (by simp)))⟩
  | type tag name members rest ihm ihr =>
    rw [height] at hdepth
    obtain ⟨d, rfl⟩ : ∃ d, depth = d + 2 := ⟨depth - 2, by omega⟩
    obtain ⟨us, hbody⟩ := ihm (by omega : members.height + 5 ≤ d + 1) _ ['\n'] _
    exact readsItems_type (reads_type_member hbody) fun k => ihr (by omega) k _ ts
  | method m rest ih =>
    rw [height] at hdepth
    obtain ⟨d, rfl⟩ : ∃ d, depth = d + 5 := ⟨depth - 5, by omega⟩
    exact readsItems_method (m.reads_member n _ d lead) fun k => ih hdepth k _ ts

theorem readsItems_statement (p : Program) {depth : Nat} (hdepth : p.height + 5 ≤ depth) (n : Nat)
    (lead : List Char) : ReadsItems ((nested depth).statementAt true) p n lead [] := by
  induction p generalizing n lead with
  | done =>
    exact ⟨[], Fails.many (statementAt_needs (guarded_nested depth) true _ (by simp [tokens]))⟩
  | type tag name members rest _ ihr =>
    rw [height] at hdepth
    obtain ⟨d, rfl⟩ : ∃ d, depth = d + 1 := ⟨depth - 1, by omega⟩
    -- The members are not statements, so their hypothesis is of no use here.
    obtain ⟨us, hbody⟩ := members.readsItems_member (by omega : _ ≤ d + 1) _ ['\n'] _
    exact readsItems_type (reads_type_statement hbody) fun k => ihr (by omega) k _
  | method m rest ih =>
    rw [height] at hdepth
    obtain ⟨d, rfl⟩ : ∃ d, depth = d + 4 := ⟨depth - 4, by omega⟩
    exact readsItems_method (m.reads_statement n _ d lead) fun k => ih hdepth k _

theorem height_le_length (p : Program) (lead : List Char) : p.height ≤ (p.tokens lead).length := by
  induction p generalizing lead with
  | done => exact Nat.le_refl 0
  | type tag name members rest ihm ihr =>
    have hmembers := ihm ['\n']
    have hrest := ihr ['\n']
    simp only [height, tokens, List.length_append, List.length_cons]
    omega
  | method m rest ih =>
    have hrest := ih ['\n']
    simp only [height, tokens, List.length_append]
    omega

/-- The outline of a printed program is that of the program. -/
theorem outline?_text (p : Program) (htags : ∀ a ∈ p.tags, IsPlainTag a) :
    outline? p.text.toList = some (p.outline 1) := by
  have hdepth : p.height + 5 ≤ depthFor (p.tokens []) := by
    have := p.height_le_length []
    unfold depthFor
    omega
  obtain ⟨us, hitems⟩ := p.readsItems_statement hdepth 1 []
  rw [List.append_nil] at hitems
  have hsource : (nested (depthFor (p.tokens []))).source.Reads ⟨1, p.tokens []⟩ () (p.outline 1)
      ⟨linesAfter 1 (p.tokens []), []⟩ := Reads.last hitems rfl
  rw [outline?, p.tokens?_text htags]
  show Option.bind (Rule.read _ _) _ = _
  rw [show Rule.read _ _ = _ from hsource]
  rfl

end Program

end ServiceAtlas.Java
