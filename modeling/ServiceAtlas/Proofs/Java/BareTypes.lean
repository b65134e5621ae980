import ServiceAtlas.Proofs.Java.DeclaredTypes
import ServiceAtlas.Proofs.OutlineLines
import Mathlib.Data.List.TakeWhile

/-!
Bare types. The text of a type's names has no brackets of type arguments and dimensions in it exactly
if all names but the last are without arguments (`TypeName.isBare_text_iff`), comments and annotations
inside the name apart. This decides whether the types of an endpoint are bare
(`endpoint_type_isBare_iff`).
-/

namespace ServiceAtlas.Java

/-! ### Bare texts -/

/-- The brackets of type arguments and dimensions. -/
def brackets : List Char := ['<', '>', '[', ']']

/-- Text without brackets of type arguments and dimensions. -/
def IsBare (cs : List Char) : Prop := ∀ c ∈ cs, c ∉ brackets

instance (cs : List Char) : Decidable (IsBare cs) :=
  decidable_of_iff (cs.all (!brackets.contains ·) = true) (by simp [IsBare])

@[simp]
theorem isBare_nil : IsBare [] := by simp [IsBare]

@[simp]
theorem isBare_append {cs ds : List Char} : IsBare (cs ++ ds) ↔ IsBare cs ∧ IsBare ds :=
  List.forall_mem_append

theorem isBare_flatMap_chars {ts : List Token} :
    IsBare (ts.flatMap Token.chars) ↔ ∀ t ∈ ts, IsBare t.chars := by
  induction ts with
  | nil => simp
  | cons t ts ih => rw [List.flatMap_cons, isBare_append, ih, List.forall_mem_cons]

theorem isBare_chars {t : Token} : IsBare t.chars ↔ IsBare t.lead ∧ IsBare t.text.toList :=
  isBare_append

/-! ### Words -/

theorem isBare_word {c : Char} {cs : List Char} (hc : isWordStart c = true)
    (hcs : ∀ d ∈ cs, isWordContinue d = true) : IsBare (c :: cs) := by
  have hstart : brackets.all (!isWordStart ·) = true := by decide +kernel
  have hcontinue : brackets.all (!isWordContinue ·) = true := by decide +kernel
  refine List.forall_mem_cons.2 ⟨fun hbracket => ?_, fun d hd hbracket => ?_⟩
  · have hnot := List.all_eq_true.1 hstart c hbracket
    rw [hc] at hnot
    cases hnot
  · have hnot := List.all_eq_true.1 hcontinue d hbracket
    rw [hcs d hd] at hnot
    cases hnot

theorem kind_pieceLexeme_ne_word {closed opened : TokenKind} (hclosed : closed ≠ .word)
    (hopened : opened ≠ .word) {block : Bool} {holes : List Hole}
    {piece : Option (PieceEnd × List Char × List Char)} {l : Lexeme}
    (h : pieceLexeme closed opened block holes piece = some l) : l.kind ≠ .word := by
  fun_cases pieceLexeme closed opened block holes piece with
  | case1 =>
    cases h
    exact hclosed
  | case2 =>
    cases h
    exact hopened
  | case3 => cases h

theorem isBare_of_lexeme? {holes : List Hole} {cs : List Char} {l : Lexeme}
    (h : lexeme? holes cs = some l) (hkind : l.kind = .word) : IsBare l.text := by
  revert h
  fun_cases lexeme? holes cs with
  | case1 => rintro ⟨⟩
  | case2 holes c rest hc =>
    rintro ⟨⟩
    exact isBare_word hc fun d hd => List.mem_takeWhile_imp hd
  | case3 | case4 =>
    intro h
    exact absurd hkind (kind_pieceLexeme_ne_word (by decide) (by decide) h)
  | case5 holes rest =>
    intro h
    obtain ⟨⟨taken, after⟩, -, rfl⟩ := Option.map_eq_some_iff.1 h
    cases hkind
  | case6 rest block holes =>
    intro h
    exact absurd hkind (kind_pieceLexeme_ne_word (by decide) (by decide) h)
  | case7 | case8 =>
    rintro ⟨⟩
    cases hkind
  | case9 holes c rest _ _ _ _ after hafter =>
    rw [hafter]
    rintro ⟨⟩
    cases hkind
  | case10 holes c rest _ _ _ _ hafter =>
    rw [hafter]
    intro h
    change signLexeme? holes (c :: rest) = some l at h
    rw [signLexeme?] at h
    split at h <;> cases h
    cases hkind

theorem isBare_of_mem_scan? {holes : List Hole} {cs trail : List Char} {tokens : List Token}
    (h : scan? holes cs = some (tokens, trail)) :
    ∀ t ∈ tokens, t.kind = .word → IsBare t.text.toList := by
  fun_induction scan? holes cs generalizing tokens with
  | case2 holes cs lead hblanks =>
    cases h
    simp
  | case4 holes cs lead c rest hblanks l hl hlt ih =>
    obtain ⟨⟨tokens', trail'⟩, hscan, heq⟩ := Option.map_eq_some_iff.1 h
    cases heq
    refine List.forall_mem_cons.2 ⟨fun hkind => ?_, ih hscan⟩
    rw [String.toList_ofList]
    exact isBare_of_lexeme? hl hkind
  | _ => cases h

theorem isBare_of_mem_tokens? {cs : List Char} {tokens : List Token} (h : tokens? cs = some tokens) :
    ∀ t ∈ tokens, t.kind = .word → IsBare t.text.toList := by
  rw [tokens?] at h
  split at h
  · cases h
  · obtain ⟨⟨tokens, trail⟩, hscan, rfl⟩ := Option.map_eq_some_iff.1 h
    exact isBare_of_mem_scan? hscan

/-! ### Plain names -/

/-- The name before has no type arguments, and what stands in between has no brackets either. -/
def InnerName.IsPlain (n : InnerName) : Prop :=
  n.arguments = [] ∧ IsBare n.dot.lead ∧ (∀ t ∈ n.annotations, IsBare t.chars) ∧ IsBare n.name.lead

/-- No name but the last has type arguments. -/
def TypeName.IsPlain (n : TypeName) : Prop := ∀ i ∈ n.inner, i.IsPlain

theorem IsTypeArguments.isBare_iff {ts : List Token} (h : IsTypeArguments ts) :
    (∀ t ∈ ts, IsBare t.chars) ↔ ts = [] := by
  constructor
  · intro hbare
    rcases h with hnil | ⟨left, inner, right, rfl, hleft, -⟩
    · exact hnil
    · have hchars := (isBare_chars.1 (hbare left (by simp))).2
      rw [hleft.2] at hchars
      exact absurd hchars (by decide)
  · rintro rfl
    simp

theorem InnerName.isBare_iff {n : InnerName} (hword : IsBare n.name.text.toList) :
    (∀ t ∈ n.tokens, IsBare t.chars) ↔ n.IsPlain := by
  have hdot : IsBare n.dot.text.toList := by
    rw [n.isDot.2]
    decide
  have hmark : IsBare n.dot.chars ↔ IsBare n.dot.lead := by
    rw [isBare_chars, and_iff_left hdot]
  have hname : IsBare n.name.chars ↔ IsBare n.name.lead := by
    rw [isBare_chars, and_iff_left hword]
  rw [InnerName.tokens, List.forall_mem_append, List.forall_mem_append,
    n.isTypeArguments.isBare_iff, List.forall_mem_cons, List.forall_mem_singleton, hmark, hname,
    IsPlain]
  tauto

theorem TypeName.isBare_text_iff {n : TypeName}
    (hwords : ∀ t ∈ n.tokens, t.kind = .word → IsBare t.text.toList) :
    IsBare n.text.toList ↔ n.IsPlain := by
  have hfirst : IsBare n.first.text.toList := hwords n.first (by simp [tokens]) n.isWord
  have hinner : ∀ i ∈ n.inner, (∀ t ∈ i.tokens, IsBare t.chars) ↔ i.IsPlain := by
    intro i hi
    refine InnerName.isBare_iff (hwords i.name ?_ i.isWord)
    have hmem : i.name ∈ n.inner.flatMap InnerName.tokens :=
      List.mem_flatMap.2 ⟨i, hi, by simp [InnerName.tokens]⟩
    simp [tokens, hmem]
  rw [text, String.toList_append, String.toList_ofList, isBare_append, and_iff_right hfirst,
    isBare_flatMap_chars, List.forall_mem_flatMap, IsPlain]
  exact forall₂_congr hinner

/-! ### Endpoints -/

theorem standsIn_of_outline? {cs : List Char} {found : List (Located Declaration)}
    (h : outline? cs = some found) :
    ∃ tokens, tokens? cs = some tokens ∧ ∀ d ∈ found, d.item.StandsIn tokens := by
  obtain ⟨tokens, htokens, h⟩ := Option.bind_eq_some_iff.1 h
  obtain ⟨reading, hread, h⟩ := Option.bind_eq_some_iff.1 h
  cases h
  obtain ⟨taken, htaken, hfound, -⟩ := Rule.Keeps.takesAt ⟨1, tokens⟩ reading hread
  refine ⟨tokens, htokens, fun d hd => ?_⟩
  change tokens = taken ++ reading.rest.tokens at htaken
  rw [htaken]
  exact (hfound d hd).append_right reading.rest.tokens

theorem isBare_piece_iff {source : SourceText} {n : TypeName}
    (h : IsBare n.text.toList ↔ n.IsPlain) :
    IsBare (source.piece n.text).toList ↔ source.piece n.text = "" ∨ n.IsPlain := by
  have hpiece : source.piece n.text = "" ∨ source.piece n.text = n.text := by
    rw [SourceText.piece]
    split
    · split
      · exact .inl rfl
      · exact .inr rfl
    · exact .inr rfl
  rcases hpiece with hpiece | hpiece
  · simp [hpiece]
  · rw [hpiece, h]
    refine ⟨.inr, ?_⟩
    rintro (hempty | hplain)
    · rw [← h, hempty]
      exact isBare_nil
    · exact hplain

/-- The types of an endpoint are those written in front of the names of the method and of its
parameters. Type arguments of the last name and dimensions are left out, however they are nested, so
the text is bare unless an outer name has type arguments or a comment or an annotation inside the name
has brackets in it. Text that holds bytes that are no characters counts as empty. -/
theorem endpoint_type_isBare_iff {rules : Rules} {source : SourceText} {facts : Facts}
    (h : extract? rules .java source = some facts) :
    ∃ tokens, tokens? source.chars = some tokens ∧
      ∀ e ∈ facts.endpoints, ∀ text ∈ e.returnType :: e.params,
        ∃ ty : WrittenType, ty.StandsIn tokens ∧ text = source.piece ty.name.text ∧
          (IsBare text.toList ↔ text = "" ∨ ty.name.IsPlain) := by
  obtain ⟨found, hfound, rfl⟩ := Option.map_eq_some_iff.1 h
  obtain ⟨tokens, htokens, hstands⟩ := standsIn_of_outline? hfound
  refine ⟨tokens, htokens, fun e he text htext => ?_⟩
  obtain ⟨d, hd, he⟩ := List.mem_flatMap.1 he
  obtain ⟨annotations, returnType, types, a, -, hitem, rfl⟩ := exists_of_mem_endpointsOf he
  obtain ⟨raw, hraw, rfl⟩ : ∃ raw ∈ returnType :: types, source.piece raw = text :=
    List.mem_map.1 htext
  have hmethod := hstands d hd
  rw [hitem] at hmethod
  obtain ⟨ty, hty, rfl⟩ := hmethod raw hraw
  refine ⟨ty, hty, rfl, isBare_piece_iff (TypeName.isBare_text_iff fun t ht => ?_)⟩
  obtain ⟨before, next, after, rfl, -⟩ := hty
  exact isBare_of_mem_tokens? htokens t (by simp [WrittenType.tokens, ht])

/-- Arguments of the last name and dimensions go, however deep they are nested. -/
theorem endpoint_type_isBare_iff_nested :
    let source := SourceText.ofString ("class C \x7b @GetMapping(\"/x\") java.util.Map<String, " ++
      "List<int[]>>[] f(@Body A<B<C[]>.D>[]... xs) \x7b \x7d \x7d")
    let e : Endpoint := ⟨"GetMapping", "/x", "java.util.Map", ["A"], 1⟩
    extract? Settings.default.rules .java source = some ⟨[e], []⟩ ∧
    ∃ tokens, tokens? source.chars = some tokens ∧ ∀ text ∈ e.returnType :: e.params,
      ∃ ty : WrittenType, ty.StandsIn tokens ∧ text = source.piece ty.name.text ∧
        (IsBare text.toList ↔ text = "" ∨ ty.name.IsPlain) := by
  intro source e
  have hfacts : extract? Settings.default.rules .java source = some ⟨[e], []⟩ := by decide +kernel
  obtain ⟨tokens, htokens, htypes⟩ := endpoint_type_isBare_iff hfacts
  exact ⟨hfacts, tokens, htokens, htypes e (by simp)⟩

/-- The arguments of an outer class stay in the type. -/
theorem outer_type_arguments_kept :
    let source := SourceText.ofString ("class C \x7b\n    @GetMapping(\"/x\")\n" ++
      "    Outer<String>.Inner f() \x7b return null; \x7d\n\x7d\n")
    extract? Settings.default.rules .java source =
      some ⟨[⟨"GetMapping", "/x", "Outer<String>.Inner", [], 2⟩], []⟩ ∧
    ¬ IsBare "Outer<String>.Inner".toList := by
  constructor <;> decide +kernel

end ServiceAtlas.Java
