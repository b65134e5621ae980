import ServiceAtlas.Outline.Extraction
import ServiceAtlas.Proofs.Java.TokenSpelling

/-!
The lines of what is found in a source. Declarations are noted in the order of the source, whatever they
are nested in, and each on a line that the source has (`Rule.inOrder_found`); the facts of a declaration
are on its own line. So the lines of the endpoints of any source never go back, and neither do those of
its entities (`extract?_lines_inOrder`).
-/

namespace ServiceAtlas

/-- Lines of a text that never go back. -/
structure Text.InOrder (cs : List Char) (lines : List Nat) : Prop where
  sorted : lines.Pairwise (· ≤ ·)
  within : ∀ n ∈ lines, 1 ≤ n ∧ n ≤ 1 + newlines cs

open Text (InOrder)

/-- What a rule finds from the first line of a text on, in a source with no more lines, is in order. -/
theorem Rule.inOrder_found {σ δ α : Type} [Place σ] {p : Rule σ δ α} {s : σ} {r : Reading σ δ α}
    (h : p.read s = some r) (hfirst : 1 ≤ Place.line s) {cs : List Char}
    (hlast : Place.lastLine s ≤ 1 + Text.newlines cs) : InOrder cs (r.found.map Located.line) where
  sorted := (p.ordered h).sorted
  within n hn := by
    obtain ⟨d, hd, rfl⟩ := List.mem_map.1 hn
    have hordered := p.ordered h
    constructor
    · exact Nat.le_trans hfirst (hordered.within d hd).1
    · calc d.line ≤ Place.line r.rest := (hordered.within d hd).2
        _ ≤ Place.lastLine r.rest := Place.line_le_lastLine r.rest
        _ = Place.lastLine s := hordered.lastLine_eq
        _ ≤ 1 + Text.newlines cs := hlast

/-- What each declaration gives on its own line is in order if the declarations are. -/
theorem Text.InOrder.flatMap {δ β : Type} {cs : List Char} {found : List (Located δ)}
    (h : InOrder cs (found.map Located.line)) {facts : Located δ → List β} {line : β → Nat}
    (hline : ∀ d, ∀ b ∈ facts d, line b = d.line) :
    InOrder cs ((found.flatMap facts).map line) where
  sorted := by
    rw [List.pairwise_map, List.pairwise_flatMap]
    constructor
    · intro d _
      refine List.pairwise_of_forall_mem_list fun b hb b' hb' => ?_
      rw [hline d b hb, hline d b' hb']
    · refine (List.pairwise_map.1 h.sorted).imp fun {d d'} hle b hb b' hb' => ?_
      rw [hline d b hb, hline d' b' hb']
      exact hle
  within n hn := by
    obtain ⟨b, hb, rfl⟩ := List.mem_map.1 hn
    obtain ⟨d, hd, hbd⟩ := List.mem_flatMap.1 hb
    rw [hline d b hbd]
    exact h.within d.line (List.mem_map.2 ⟨d, hd, rfl⟩)

namespace Java

theorem inOrder_outline? {cs : List Char} {found : List (Located Declaration)}
    (h : outline? cs = some found) : InOrder cs (found.map Located.line) := by
  obtain ⟨tokens, htokens, h⟩ := Option.bind_eq_some_iff.1 h
  obtain ⟨reading, hread, h⟩ := Option.bind_eq_some_iff.1 h
  cases h
  have hfirst : 1 ≤ Place.line (⟨1, tokens⟩ : Cursor) := by
    cases tokens with
    | nil => exact Nat.le_refl 1
    | cons t rest => exact Nat.le_add_right 1 _
  exact Rule.inOrder_found hread hfirst (Nat.add_le_add_left (newlines_tokens? htokens) 1)

variable {source : SourceText} {names : List String} {d : Located Declaration}

/-- An endpoint is a method with one of its annotations. -/
theorem exists_of_mem_endpointsOf {e : Endpoint} (h : e ∈ endpointsOf source names d) :
    ∃ annotations returnType types, ∃ a ∈ annotations,
      d.item = .method annotations returnType types ∧
        e = ⟨source.piece a.name, a.arguments.path source, source.piece returnType,
          types.map source.piece, d.line⟩ := by
  obtain ⟨line, item⟩ := d
  cases item with
  | type annotations name => cases h
  | method annotations returnType types =>
    obtain ⟨a, ha, he⟩ := List.mem_filterMap.1 h
    simp only at he
    split at he
    · cases he
      exact ⟨annotations, returnType, types, a, ha, rfl, rfl⟩
    · cases he

theorem line_of_mem_endpointsOf {e : Endpoint} (h : e ∈ endpointsOf source names d) :
    e.line = d.line := by
  obtain ⟨annotations, returnType, types, a, -, -, rfl⟩ := exists_of_mem_endpointsOf h
  rfl

theorem line_of_mem_entitiesOf {e : Entity} (h : e ∈ entitiesOf source names d) :
    e.line = d.line := by
  obtain ⟨line, item⟩ := d
  cases item with
  | method annotations returnType types => cases h
  | type annotations name =>
    rw [entitiesOf] at h
    split at h
    · rw [List.mem_singleton.1 h]
    · cases h

end Java

namespace Python

theorem inOrder_outline? {cs : List Char} {found : List (Located Declaration)}
    (h : outline? cs = some found) : InOrder cs (found.map Located.line) := by
  rw [outline?] at h
  split at h
  · rename_i reading hread
    cases h
    have hmark : Text.newlines (Text.skipMark cs) ≤ Text.newlines cs :=
      (Text.skipOne_suffix _ cs).sublist.count_le '\n'
    exact Rule.inOrder_found hread (Nat.le_refl 1) (Nat.add_le_add_left hmark 1)
  · cases h

variable {source : SourceText} {d : Located Declaration}

/-- An endpoint is a function with one of its decorators. -/
theorem exists_of_mem_endpointsOf {verbs : List String} {e : Endpoint}
    (h : e ∈ endpointsOf source verbs d) :
    ∃ decorators parameters verb first, .call verb first ∈ decorators ∧
      d.item = .function decorators parameters ∧ source.piece verb ∈ verbs ∧
        e = ⟨Text.upper (source.piece verb), first.value source, unknownType,
          (parameterNames [] parameters).map source.piece, d.line⟩ := by
  obtain ⟨line, item⟩ := d
  cases item with
  | type name bases => cases h
  | function decorators parameters =>
    obtain ⟨decorator, hdecorator, he⟩ := List.mem_filterMap.1 h
    cases decorator with
    | other => cases he
    | call verb first =>
      simp only at he
      split at he
      · rename_i hverb
        cases he
        exact ⟨decorators, parameters, verb, first, hdecorator, rfl, hverb, rfl⟩
      · cases he

theorem line_of_mem_endpointsOf {verbs : List String} {e : Endpoint}
    (h : e ∈ endpointsOf source verbs d) : e.line = d.line := by
  obtain ⟨decorators, parameters, verb, first, -, -, -, rfl⟩ := exists_of_mem_endpointsOf h
  rfl

theorem line_of_mem_entitiesOf {base : String} {e : Entity} (h : e ∈ entitiesOf source base d) :
    e.line = d.line := by
  obtain ⟨line, item⟩ := d
  cases item with
  | function decorators parameters => cases h
  | type name bases =>
    rw [entitiesOf] at h
    split at h
    · rw [List.mem_singleton.1 h]
    · cases h

end Python

/-- The lines of the endpoints of a well-formed source never go back, nor do those of its entities, and
all of them are lines of the source. -/
theorem extract?_lines_inOrder {rules : Rules} {language : Language} {source : SourceText}
    {facts : Facts} (h : extract? rules language source = some facts) :
    InOrder source.chars (facts.endpoints.map Endpoint.line) ∧
      InOrder source.chars (facts.entities.map Entity.line) := by
  cases language with
  | java =>
    obtain ⟨found, hfound, rfl⟩ := Option.map_eq_some_iff.1 h
    have hlines := Java.inOrder_outline? hfound
    exact ⟨hlines.flatMap fun _ _ => Java.line_of_mem_endpointsOf,
      hlines.flatMap fun _ _ => Java.line_of_mem_entitiesOf⟩
  | python =>
    obtain ⟨found, hfound, rfl⟩ := Option.map_eq_some_iff.1 h
    have hlines := Python.inOrder_outline? hfound
    exact ⟨hlines.flatMap fun _ _ => Python.line_of_mem_endpointsOf,
      hlines.flatMap fun _ _ => Python.line_of_mem_entitiesOf⟩

/-- A class in a method of a class, with two endpoints on one line, in either language. -/
theorem extract?_lines_inOrder_nested :
    let java := SourceText.ofString ("@Table class A \x7b\n@GetMapping(\"/a\")\nint a() \x7b\n" ++
      "@Table class B \x7b\n@GetMapping(\"/b\") @GetMapping(\"/c\") int b(); \x7d \x7d \x7d")
    let python := SourceText.ofString ("class A(Model):\n @a.get('/a')\n def a():\n" ++
      "  class B(Model): pass\n  @a.get('/b')\n  @a.get('/c')\n  def b(): pass\n")
    let javaFacts : Facts := ⟨[⟨"GetMapping", "/a", "int", [], 2⟩, ⟨"GetMapping", "/b", "int", [], 5⟩,
      ⟨"GetMapping", "/c", "int", [], 5⟩], [⟨"A", 1⟩, ⟨"B", 4⟩]⟩
    let pythonFacts : Facts := ⟨[⟨"GET", "/a", "unknown", [], 3⟩, ⟨"GET", "/b", "unknown", [], 7⟩,
      ⟨"GET", "/c", "unknown", [], 7⟩], [⟨"A", 1⟩, ⟨"B", 4⟩]⟩
    (extract? Settings.default.rules .java java = some javaFacts ∧
      InOrder java.chars [2, 5, 5] ∧ InOrder java.chars [1, 4]) ∧
    extract? Settings.default.rules .python python = some pythonFacts ∧
      InOrder python.chars [3, 7, 7] ∧ InOrder python.chars [1, 4] := by
  intro java python javaFacts pythonFacts
  have hjava : extract? Settings.default.rules .java java = some javaFacts := by decide +kernel
  have hpython : extract? Settings.default.rules .python python = some pythonFacts := by
    decide +kernel
  exact ⟨⟨hjava, extract?_lines_inOrder hjava⟩, hpython, extract?_lines_inOrder hpython⟩

end ServiceAtlas
