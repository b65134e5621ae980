import ServiceAtlas.Outline.Extraction
import ServiceAtlas.Proofs.Python.OpenBlocks

/-!
Extraction from a printed program gives back what the program defines, unless definitions are nested so
deep in it that not all open blocks are remembered (`Program.extract?_text_eq_definitions`).
-/

namespace ServiceAtlas.Python

/-! ### Upper case -/

theorem upper_eq_toUpper {s : String} (h : ∀ c ∈ s.toList, IsPrintable c) :
    Text.upper s = s.toUpper := by
  have hchars : ∀ cs : List Char, (∀ c ∈ cs, IsPrintable c) →
      cs.flatMap Text.upperChar = cs.map Char.toUpper := by
    intro cs hcs
    induction cs with
    | nil => rfl
    | cons c cs ih =>
      obtain ⟨hc, hcs⟩ := List.forall_mem_cons.1 hcs
      have hlow : c.toNat < 0x80 := by
        have := hc.2
        omega
      simp [Text.upperChar, hlow, ih hcs]
  rw [Text.upper, hchars s.toList h, ← String.toList_inj]
  simp [String.toUpper]

/-! ### Facts -/

variable (text : String)

theorem parameterNames_named (before : List String) (ws : List Name) :
    parameterNames before (ws.map fun w => .named w.text) = before ++ ws.map (·.text) := by
  induction ws generalizing before with
  | nil => simp [parameterNames]
  | cons w ws ih => simp [parameterNames, ih]

theorem value_strings (ps : List PathText) :
    (Argument.strings (ps.map fun p => some p.text)).value (.ofString text) =
      String.join (ps.map PathText.text) := by
  simp [Argument.value, SourceText.piece_ofString, Function.comp_def]

theorem endpointsOf_declaration (verbs : List String) (n : Nat) (f : Function) :
    endpointsOf (.ofString text) verbs ⟨n, f.declaration⟩ =
      if f.verb.text ∈ verbs then [Program.endpoint n f] else [] := by
  by_cases h : f.verb.text ∈ verbs <;>
    simp [endpointsOf, Function.declaration, Function.decorator, SourceText.piece_ofString,
      value_strings, parameterNames_named, Program.endpoint, unknownType, h,
      upper_eq_toUpper (IsWord.isPrintable f.verb.isWord)]

namespace Program

theorem flatMap_endpointsOf (verbs : List String) (n : Nat) (p : Program) :
    (p.outline n).flatMap (endpointsOf (.ofString text) verbs) =
      ((p.functions n).filter fun f => f.2.verb.text ∈ verbs).map fun f => endpoint f.1 f.2 := by
  induction p generalizing n with
  | done => rfl
  | type name base body rest ihb ihr =>
    simp only [outline, functions, List.flatMap_cons, List.flatMap_append, ihb, ihr, endpointsOf,
      List.nil_append, List.filter_append, List.map_append]
  | function f body rest ihb ihr =>
    simp only [outline, functions, List.flatMap_cons, List.flatMap_append, ihb, ihr,
      endpointsOf_declaration, List.filter_cons, List.filter_append, decide_eq_true_eq]
    split <;> simp

theorem flatMap_entitiesOf (modelBase : String) (n : Nat) (p : Program) :
    (p.outline n).flatMap (entitiesOf (.ofString text) modelBase) =
      ((p.classes n).filter fun c => c.2.2.text = modelBase).map fun c => ⟨c.2.1.text, c.1⟩ := by
  induction p generalizing n with
  | done => rfl
  | type name base body rest ihb ihr =>
    by_cases h : base.text = modelBase <;>
      simp [outline, classes, ihb, ihr, entitiesOf, SourceText.piece_ofString, h]
  | function f body rest ihb ihr =>
    simp only [outline, classes, List.flatMap_cons, List.flatMap_append, ihb, ihr, entitiesOf,
      Function.declaration, List.nil_append, List.filter_append, List.map_append]

/-- Extraction from a printed program gives back its functions whose decorator calls a route and its
classes with the model base, each in document order and with its line. It fails if definitions are
nested deeper than blocks are remembered. -/
theorem extract?_text_eq_definitions (p : Program) (rules : Rules) :
    extract? rules .python (.ofString p.text) = if p.height ≤ maxBlocks then some {
      endpoints :=
        ((p.functions 1).filter fun f => f.2.verb.text ∈ rules.python.routeDecorators).map
          fun f => endpoint f.1 f.2
      entities := ((p.classes 1).filter fun c => c.2.2.text = rules.python.modelBase).map
        fun c => ⟨c.2.1.text, c.1⟩ } else none := by
  have houtline : outline? (SourceText.ofString p.text).chars =
      if p.height ≤ maxBlocks then some (p.outline 1) else none := p.outline?_text
  rw [extract?, facts?, houtline]
  split
  · rw [Option.map_some, factsOf, flatMap_endpointsOf, flatMap_entitiesOf]
  · rfl

/-- Classes inside each other. -/
def classTower : Nat → Program
  | 0 => .done
  | n + 1 => .type ⟨"A", rfl⟩ ⟨"B", rfl⟩ (classTower n) .done

theorem height_classTower (n : Nat) : (classTower n).height = n := by
  induction n with
  | zero => rfl
  | succ n ih => simp [classTower, height, ih]

theorem extract?_text_of_lt (p : Program) (rules : Rules) (hdeep : maxBlocks < p.height) :
    extract? rules .python (.ofString p.text) = none := by
  have houtline : outline? (SourceText.ofString p.text).chars = none := p.outline?_text_of_lt hdeep
  rw [extract?, facts?, houtline]
  rfl

/-- The source of 512 classes inside each other is refused. -/
theorem extract?_class_tower :
    extract? ⟨.default, .default⟩ .python (.ofString (classTower 512).text) = none :=
  extract?_text_of_lt _ _ (by rw [height_classTower]; decide)

end Program

end ServiceAtlas.Python
