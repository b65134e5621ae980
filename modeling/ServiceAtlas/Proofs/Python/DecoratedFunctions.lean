import ServiceAtlas.Proofs.OutlineLines
import ServiceAtlas.Proofs.Python.GrammarInvariants
import ServiceAtlas.Proofs.Python.TokenSpans

/-!
Decorated functions where they stand in a text. A function that a source is found to declare with its
decorators can be traced to the places at which they were read (`WrittenIn`). All rules obey this
(`written`): a function is noted with the decorators read right before it (`Grammar.obeys_decorated`),
and all other rules pass on what they find. So every endpoint of a source is a decorated function that
stands in it (`exists_decoratedFunction`).
-/

namespace ServiceAtlas.Python

open Rule (Reads Spans)

namespace Grammar

variable (g : Grammar)

/-- Decorators one after the other, up to what they decorate. -/
def decoratorList : PythonRule (List Decorator) := do
  let first ← g.decorator
  let others ← Rule.many (do fetch {}; g.decorator)
  fetch {}
  return first :: others

/-- What stands before the parameters of a function. -/
def functionHead : PythonRule Unit := do
  let _ ← Rule.optional (do keyword "async"; fetch {})
  keyword "def"
  fetch {}
  let _ ← word
  let _ ← Rule.optional (do fetch {}; g.typeParameters)
  fetch {}

end Grammar

/-- A decorated function in a text: its decorators from `start` on, the function itself from `head`
on, and its parameters in brackets from `opening` to `closing`. -/
structure DecoratedFunction (cs : List Char) where
  depth : Nat
  start : Cursor
  head : Cursor
  opening : Cursor
  closing : Cursor
  decorators : List Decorator
  parameters : List Parameter
  start_suffix : start.rest <:+ cs
  isDecorated : (Grammar.nested depth).decoratorList.Spans start decorators head
  isFunction : (Grammar.nested depth).functionHead.Spans head () opening
  isBracketed : (Grammar.nested depth).parameters.Spans opening parameters closing

/-- The same function in a longer text. -/
def DecoratedFunction.extend {cs ds : List Char} (f : DecoratedFunction cs) (h : cs <:+ ds) :
    DecoratedFunction ds :=
  { f with start_suffix := f.start_suffix.trans h }

/-- If the declaration is a function with decorators, then it stands in the text, on its line. -/
def WrittenIn (cs : List Char) (d : Located Declaration) : Prop :=
  ∀ decorators parameters, d.item = .function decorators parameters → decorators ≠ [] →
    ∃ f : DecoratedFunction cs, f.head.line = d.line ∧ f.decorators = decorators ∧
      f.parameters = parameters

theorem WrittenIn.extend {cs ds : List Char} {d : Located Declaration} (hd : WrittenIn cs d)
    (h : cs <:+ ds) : WrittenIn ds d := by
  intro decorators parameters hitem hne
  obtain ⟨f, hline, hdecorators, hparameters⟩ := hd decorators parameters hitem hne
  exact ⟨f.extend h, hline, hdecorators, hparameters⟩

theorem writtenIn_undecorated {cs : List Char} {d : Located Declaration}
    (h : d.item.decorators = []) : WrittenIn cs d := by
  intro decorators parameters hitem hne
  rw [hitem] at h
  exact absurd h hne

/-- Reading moves on in the text, and what is found stands in the text from its start on. -/
def written : Invariant where
  Holds c ds c' := c'.rest <:+ c.rest ∧ ∀ d ∈ ds, WrittenIn c.rest d
  stay c := ⟨List.suffix_refl _, by simp⟩
  append h h' := by
    obtain ⟨hsuffix, hfound⟩ := h
    obtain ⟨hsuffix', hfound'⟩ := h'
    refine ⟨hsuffix'.trans hsuffix, List.forall_mem_append.2 ⟨hfound, fun d hd => ?_⟩⟩
    exact (hfound' d hd).extend hsuffix
  advance c n := ⟨c.advance_suffix n, by simp⟩
  setFormat c format := ⟨List.suffix_refl _, by simp⟩
  declare h hd := ⟨h.1, List.forall_mem_cons.2 ⟨writtenIn_undecorated hd, h.2⟩⟩

end ServiceAtlas.Python

namespace ServiceAtlas.Rule

open Python

theorem Spans.suffix {α : Type} {p : PythonRule α} [p.Obeys written] {c c' : Cursor} {a : α}
    (h : p.Spans c a c') : c'.rest <:+ c.rest := by
  obtain ⟨ds, h⟩ := h
  have hkept : written.Holds c ds c' := Obeys.holds h
  exact hkept.1

end ServiceAtlas.Rule

namespace ServiceAtlas.Python

open Rule (Spans)

/-- Tokens of layout have no width. -/
instance (e : Expect) (accept : LayoutToken → List Nat → Option (List Nat)) :
    (layout e accept).Obeys written := by
  refine ⟨fun {c r} hr => ?_⟩
  obtain ⟨token, levels, -, -, hfound, hrest⟩ := layout_read hr
  rw [hfound, hrest]
  exact ⟨List.suffix_refl _, by simp⟩

instance (e : Expect) : (indent e).Obeys written := inferInstanceAs ((layout _ _).Obeys written)

instance (e : Expect) : (dedent e).Obeys written := inferInstanceAs ((layout _ _).Obeys written)

instance : written.Blocks where
  obeys_block opening closing item _ := by
    unfold Grammar.block
    infer_instance

namespace Grammar

section Function

variable {g : Grammar} [g.Obeys written]

set_option synthInstance.maxSize 4000 in
instance : g.functionHead.Obeys written := by
  unfold functionHead
  infer_instance

instance : g.decoratorList.Obeys written := by
  unfold decoratorList
  infer_instance

set_option synthInstance.maxSize 4000 in
/-- A function is noted on the line where it begins, with the decorators given and the parameters that
are read behind its head. -/
theorem function_read {decorators : List Decorator} {c : Cursor} {r : Reading Cursor Declaration Unit}
    (h : (g.function decorators).read c = some r) : ∃ parameters opening closing ds,
      g.functionHead.Spans c () opening ∧ g.parameters.Spans opening parameters closing ∧
      r.found = ⟨c.line, .function decorators parameters⟩ :: ds ∧ written.Holds c ds r.rest := by
  obtain ⟨t, ht, hrest, hfound⟩ := Rule.read_declare_eq_some h
  have hkept : written.Holds c t.found t.rest := Rule.Obeys.holds ht
  have hspans : Spans _ c t.value t.rest := ⟨t.found, ht⟩
  simp only [Rule.spans_bind_iff] at hspans
  obtain ⟨async, c₁, hasync, _, c₂, hdef, _, c₃, hfetch, name, c₄, hname, types, c₅, htypes, _, opening,
    hfetch', parameters, closing, hparameters, _, _, _, _, _, _, hpure⟩ := hspans
  obtain ⟨hvalue, -⟩ := Rule.spans_pure_iff.1 hpure
  have hhead : g.functionHead.Spans c () opening := by
    simp only [functionHead, Rule.spans_bind_iff]
    exact ⟨async, c₁, hasync, (), c₂, hdef, (), c₃, hfetch, name, c₄, hname, types, c₅, htypes, hfetch'⟩
  simp only [hvalue, reduceCtorEq, false_and, false_or, Option.some.injEq, exists_eq_left'] at hfound
  exact ⟨parameters, opening, closing, t.found, hhead, hparameters, hfound, hrest ▸ hkept⟩

end Function

/-- A function behind decorators is noted with them, and a class behind decorators without. -/
theorem obeys_decorated (depth : Nat) [(nested depth).Obeys written] :
    (nested depth).decorated.Obeys written := by
  refine ⟨fun {c r} hr => ?_⟩
  obtain ⟨t₁, u₁, ht₁, hu₁, rfl⟩ := Rule.read_bind_eq_some hr
  obtain ⟨t₂, u₂, ht₂, hu₂, rfl⟩ := Rule.read_bind_eq_some hu₁
  obtain ⟨t₃, u₃, ht₃, hu₃, rfl⟩ := Rule.read_bind_eq_some hu₂
  have hlist : (nested depth).decoratorList.Spans c (t₁.value :: t₂.value) t₃.rest := by
    simp only [decoratorList, Rule.spans_bind_iff]
    exact ⟨_, _, ⟨_, ht₁⟩, _, _, ⟨_, ht₂⟩, _, _, ⟨_, ht₃⟩, Rule.spans_pure_iff.2 ⟨rfl, rfl⟩⟩
  have hbefore : written.Holds c (t₁.found ++ t₂.found ++ t₃.found) t₃.rest :=
    written.append (written.append (Rule.Obeys.holds ht₁) (Rule.Obeys.holds ht₂))
      (Rule.Obeys.holds ht₃)
  have hdefinition : u₃.rest.rest <:+ t₃.rest.rest ∧ ∀ d ∈ u₃.found, WrittenIn c.rest d := by
    simp only [Rule.orElse] at hu₃
    split at hu₃
    · rename_i v hv
      cases hu₃
      obtain ⟨parameters, opening, closing, ds, hhead, hparameters, hfound, hsuffix, hrest⟩ :=
        function_read hv
      rw [hfound]
      refine ⟨hsuffix, List.forall_mem_cons.2 ⟨?_, fun d hd => (hrest d hd).extend hbefore.1⟩⟩
      intro decorators parameters' hitem _
      cases hitem
      exact ⟨⟨depth, c, t₃.rest, opening, closing, _, _, List.suffix_refl _, hlist, hhead,
        hparameters⟩, rfl, rfl, rfl⟩
    · obtain ⟨hsuffix, hfound⟩ : written.Holds t₃.rest u₃.found u₃.rest := Rule.Obeys.holds hu₃
      exact ⟨hsuffix, fun d hd => (hfound d hd).extend hbefore.1⟩
  refine ⟨hdefinition.1.trans hbefore.1, ?_⟩
  simp only [← List.append_assoc]
  exact List.forall_mem_append.2 ⟨hbefore.2, hdefinition.2⟩

instance (depth : Nat) : (nested depth).Obeys written :=
  obeys_nested (fun depth _ => obeys_decorated depth) depth

end Grammar

/-- The decorated functions that a source is found to declare stand in it. -/
theorem writtenIn_of_outline? {cs : List Char} {found : List (Located Declaration)}
    (h : outline? cs = some found) : ∀ d ∈ found, WrittenIn cs d := by
  rw [outline?] at h
  split at h
  · rename_i reading hread
    cases h
    intro d hd
    exact ((Rule.Obeys.holds hread : written.Holds _ _ _).2 d hd).extend (Text.skipOne_suffix _ cs)
  · cases h

/-- An endpoint of a source is a decorated function in it, on its line, with one of its decorators. -/
theorem exists_decoratedFunction {rules : Rules} {source : SourceText} {facts : Facts}
    (h : extract? rules .python source = some facts) {e : Endpoint} (he : e ∈ facts.endpoints) :
    ∃ f : DecoratedFunction source.chars, ∃ verb first, .call verb first ∈ f.decorators ∧
      source.piece verb ∈ rules.python.routeDecorators ∧
      e = ⟨Text.upper (source.piece verb), first.value source, unknownType,
        (parameterNames [] f.parameters).map source.piece, f.head.line⟩ := by
  obtain ⟨found, hfound, rfl⟩ := Option.map_eq_some_iff.1 h
  obtain ⟨d, hd, he⟩ := List.mem_flatMap.1 he
  obtain ⟨decorators, parameters, verb, first, hcall, hitem, hverb, rfl⟩ :=
    exists_of_mem_endpointsOf he
  obtain ⟨f, hline, rfl, rfl⟩ := writtenIn_of_outline? hfound d hd decorators parameters hitem
    (List.ne_nil_of_mem hcall)
  exact ⟨f, verb, first, hcall, hverb, by rw [hline]⟩

end ServiceAtlas.Python
