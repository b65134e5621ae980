import ServiceAtlas.Outline.Extraction
import ServiceAtlas.Proofs.Java.ProgramReading
import ServiceAtlas.Proofs.UrlTableHistory

/-!
Extraction from a printed program gives back what the program declares
(`Program.extract?_text_eq_declarations`).
-/

namespace ServiceAtlas.Java

/-! ### Quotes -/

/-- A path has no quote in it, so the long quotes do not enclose its string. -/
theorem within?_long_quoted (p : PathText) :
    Text.within? "\"\"\"".toList p.quoted.toList = none := by
  have hquote : ∀ c ∈ p.text.toList, c ≠ '"' :=
    fun c hc => (p.isPathChar_of_mem hc).2.1
  rw [Text.within?, if_neg]
  rintro ⟨hlength, hfront, -⟩
  cases hp : p.text.toList with
  | nil => simp [p.toList_quoted, hp] at hlength
  | cons c cs =>
    simp [p.toList_quoted, hp] at hfront
    exact hquote c (hp ▸ List.mem_cons_self) hfront.1.symm

theorem unquote_quoted (p : PathText) :
    Text.unquote ["\"\"\"", "\""] p.quoted = p.text := by
  have hinner : Text.within? "\"".toList p.quoted.toList = some p.text.toList := by
    simp [Text.within?, p.toList_quoted]
  rw [Text.unquote, List.findSome?_cons, within?_long_quoted p, List.findSome?_cons, hinner]
  exact String.ofList_toList

variable (text : String)

theorem value_string (p : PathText) :
    (Literal.string p.quoted).value (.ofString text) = p.text := by
  rw [Literal.value, SourceText.piece_ofString, unquote_quoted p]

namespace Method

theorem path_arguments (m : Method) :
    m.arguments.path (.ofString text) = ", ".intercalate (m.paths.map PathText.text) := by
  unfold arguments
  cases hpaths : m.morePaths with
  | nil => simp [Arguments.path, value_string, paths, hpaths]
  | cons q qs => simp [Arguments.path, Function.comp_def, value_string]

theorem endpointsOf_declaration (names : List String) (n : Nat) (m : Method) :
    endpointsOf (.ofString text) names ⟨n, m.declaration⟩ =
      if m.tag.text ∈ names then [Program.endpoint n m] else [] := by
  by_cases h : m.tag.text ∈ names <;>
    simp [endpointsOf, declaration, tagNode, SourceText.piece_ofString, path_arguments,
      Program.endpoint, h]

theorem entitiesOf_declaration (markers : List String) (n : Nat) (m : Method) :
    entitiesOf (.ofString text) markers ⟨n, m.declaration⟩ = [] := rfl

end Method

namespace Program

theorem isMarked_tag (markers : List String) (tag : Option Name) :
    (tag.toList.map Name.tagNode).any (isMarked (.ofString text) markers) = true ↔
      IsMarked markers tag := by
  cases tag with
  | none => simp [IsMarked]
  | some a =>
    simp only [Option.toList_some, List.map_cons, List.map_nil, List.any_cons, List.any_nil,
      Bool.or_false, isMarked, SourceText.piece_ofString, List.any_eq_true, Text.contains,
      Text.occursIn_iff, IsMarked, Option.mem_some_iff, exists_eq_left', Name.tagNode]

theorem flatMap_endpointsOf (names : List String) (n : Nat) (p : Program) :
    (p.outline n).flatMap (endpointsOf (.ofString text) names) =
      ((p.methods n).filter fun m => m.2.tag.text ∈ names).map fun m => endpoint m.1 m.2 := by
  induction p generalizing n with
  | done => rfl
  | type tag name members rest ihm ihr =>
    simp only [outline, methods, List.flatMap_cons, List.flatMap_append, ihm, ihr, endpointsOf,
      List.nil_append, List.filter_append, List.map_append]
  | method m rest ih =>
    simp only [outline, methods, List.flatMap_cons, ih, Method.endpointsOf_declaration,
      List.filter_cons, decide_eq_true_eq]
    split <;> rfl

theorem flatMap_entitiesOf (markers : List String) (n : Nat) (p : Program) :
    (p.outline n).flatMap (entitiesOf (.ofString text) markers) =
      ((p.classes n).filter fun c => IsMarked markers c.2.1).map fun c => ⟨c.2.2.text, c.1⟩ := by
  induction p generalizing n with
  | done => rfl
  | type tag name members rest ihm ihr =>
    simp only [outline, classes, List.flatMap_cons, List.flatMap_append, ihm, ihr, entitiesOf,
      SourceText.piece_ofString, isMarked_tag, List.filter_cons, List.filter_append,
      decide_eq_true_eq]
    split <;> simp
  | method m rest ih =>
    simp only [outline, classes, List.flatMap_cons, ih, Method.entitiesOf_declaration,
      List.nil_append]

/-- Extraction from a printed program gives back its annotated methods and its marked classes, each
in document order and with its line. -/
theorem extract?_text_eq_declarations (p : Program) (htags : ∀ a ∈ p.tags, IsPlainTag a)
    (rules : Rules) :
    extract? rules .java (.ofString p.text) = some {
      endpoints := ((p.methods 1).filter fun m => m.2.tag.text ∈ rules.java.endpointAnnotations).map
        fun m => endpoint m.1 m.2
      entities := ((p.classes 1).filter fun c => IsMarked rules.java.entityMarkers c.2.1).map
        fun c => ⟨c.2.2.text, c.1⟩ } := by
  have houtline : outline? (SourceText.ofString p.text).chars = some (p.outline 1) :=
    p.outline?_text htags
  rw [extract?, facts?, houtline, Option.map_some, factsOf, flatMap_endpointsOf, flatMap_entitiesOf]

/-- A class with a method that has two paths, and in it a class with a method that has one. -/
def orders : Program :=
  .type (some ⟨"Entity", rfl⟩) ⟨"Order", rfl⟩
    (.method ⟨⟨"GetMapping", rfl⟩, ⟨"/orders", rfl⟩, [⟨"/all", rfl⟩], ⟨"List", rfl⟩,
      ⟨"all", rfl⟩, []⟩
      (.type none ⟨"Line", rfl⟩
        (.method ⟨⟨"PostMapping", rfl⟩, ⟨"", rfl⟩, [], ⟨"Line", rfl⟩, ⟨"add", rfl⟩,
          [(⟨"Order", rfl⟩, ⟨"order", rfl⟩), (⟨"Integer", rfl⟩, ⟨"count", rfl⟩)]⟩ .done)
        .done))
    .done

theorem extract?_orders :
    (∀ a ∈ orders.tags, IsPlainTag a) ∧
      extract? ⟨.default, .default⟩ .java (.ofString orders.text) = some {
        endpoints := [⟨"GetMapping", "/orders, /all", "List", [], 3⟩,
          ⟨"PostMapping", "", "Line", ["Order", "Integer"], 6⟩]
        entities := [⟨"Order", 1⟩] } := by
  have htags : ∀ a ∈ orders.tags, IsPlainTag a := by decide
  exact ⟨htags, (extract?_text_eq_declarations orders htags _).trans (by decide +kernel)⟩

/-- An annotation whose name begins with `interface` is taken for the declaration of an annotation
type, and the source is refused. -/
theorem extract?_interface_tag :
    extract? ⟨.default, .default⟩ .java
      (.ofString (Program.type (some ⟨"interfaceOrder", rfl⟩) ⟨"Order", rfl⟩ .done .done).text) =
        none := by
  decide +kernel

end Program

end ServiceAtlas.Java
