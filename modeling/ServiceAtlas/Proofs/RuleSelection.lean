import ServiceAtlas.Proofs.UrlTableHistory
import ServiceAtlas.Scan
import Mathlib.Data.List.Flatten

/-!
Rules only select. Whether a source is well formed is settled before any rule is looked at
(`isSome_extract?`), and each declaration gives its endpoints and its entities on its own. So fewer
names give fewer facts in the same order: in Java exactly the endpoints whose annotation is still
named (`Java.endpointsOf_eq_filter`), in Python some of the endpoints, of which the upper-cased verb
no longer tells the decorator (`Python.endpointsOf_sublist`).
-/

namespace ServiceAtlas

/-! ### What is read before the rules -/

/-- The source can be read to its end in the language. -/
def SourceText.isWellFormed (source : SourceText) : Language → Bool
  | .java => (Java.outline? source.chars).isSome
  | .python => (Python.outline? source.chars).isSome

/-- The rules have no say in whether a source has facts at all. -/
theorem isSome_extract? (rules : Rules) (language : Language) (source : SourceText) :
    (extract? rules language source).isSome = source.isWellFormed language := by
  cases language with
  | java => exact Option.isSome_map
  | python => exact Option.isSome_map

/-- The facts that a source has under the rules; one that is not well formed has none. -/
def Rules.facts (rules : Rules) (language : Language) (source : SourceText) : Facts :=
  (extract? rules language source).getD .none

/-- A visit counts a source that it can read as malformed by its text and its language alone. -/
theorem ScanProgress.malformed_source (plan : ScanPlan) (t : SourceTree) (p : ScanProgress)
    (path : Path) (language : Language) {text : String} (h : t.read path = .ok text) :
    (p.source plan t path language).value.stats.malformed =
      p.stats.malformed + if (SourceText.ofString text).isWellFormed language then 0 else 1 := by
  have hcount : ∀ stats : ScanStats, (countLanguage stats language).malformed = stats.malformed := by
    intro stats
    cases language <;> rfl
  rw [← isSome_extract? plan.rules]
  cases hfacts : extract? plan.rules language (.ofString text) <;>
    simp [source, h, hfacts, hcount]

/-! ### Java -/

namespace Java

variable (source : SourceText) {names names' : List String}

/-- Of the endpoints of a declaration, fewer annotation names leave those that bear one of them. -/
theorem endpointsOf_eq_filter (h : names ⊆ names') (d : Located Declaration) :
    endpointsOf source names d =
      (endpointsOf source names' d).filter fun e => e.method ∈ names := by
  obtain ⟨line, item⟩ := d
  cases item with
  | type annotations name => rfl
  | method annotations returnType types =>
    rw [endpointsOf, endpointsOf, List.filter_filterMap]
    refine List.filterMap_congr fun a _ => ?_
    by_cases hname : source.piece a.name ∈ names
    · simp [hname, h hname, Option.filter_some]
    · by_cases hname' : source.piece a.name ∈ names' <;> simp [hname, hname', Option.filter_some]

/-- A marker that is asked for marks what it marked among more of them. -/
theorem isMarked_mono (h : names ⊆ names') {a : Annotation}
    (ha : isMarked source names a = true) : isMarked source names' a = true := by
  obtain ⟨m, hm, hcontains⟩ := List.any_eq_true.1 ha
  exact List.any_eq_true.2 ⟨m, h hm, hcontains⟩

theorem entitiesOf_sublist (h : names ⊆ names') (d : Located Declaration) :
    (entitiesOf source names d).Sublist (entitiesOf source names' d) := by
  obtain ⟨line, item⟩ := d
  cases item with
  | method annotations returnType types => exact .refl _
  | type annotations name =>
    rw [entitiesOf]
    split
    · rename_i hmarked
      obtain ⟨a, ha, hmark⟩ := List.any_eq_true.1 hmarked
      have hmarked' : annotations.any (isMarked source names') = true :=
        List.any_eq_true.2 ⟨a, ha, isMarked_mono source h hmark⟩
      rw [entitiesOf, if_pos hmarked']
    · exact List.nil_sublist _

end Java

/-! ### Python -/

namespace Python

theorem endpointsOf_sublist (source : SourceText) {verbs verbs' : List String}
    (h : verbs ⊆ verbs') (d : Located Declaration) :
    (endpointsOf source verbs d).Sublist (endpointsOf source verbs' d) := by
  obtain ⟨line, item⟩ := d
  cases item with
  | type name bases => exact .refl _
  | function decorators parameters =>
    rw [endpointsOf, endpointsOf, List.filterMap_eq_flatMap_toList,
      List.filterMap_eq_flatMap_toList]
    refine List.Sublist.flatMap_right _ fun decorator _ => ?_
    cases decorator with
    | other => exact .refl _
    | call verb first =>
      by_cases hverb : source.piece verb ∈ verbs
      · simp [hverb, h hverb]
      · simp [hverb]

end Python

/-! ### Whole sources -/

namespace Rules

variable (rules rules' : Rules) (source : SourceText)

theorem facts_java :
    rules.facts .java source =
      Java.factsOf source rules.java ((Java.outline? source.chars).getD []) :=
  Option.getD_map _ [] _

theorem facts_python :
    rules.facts .python source =
      Python.factsOf source rules.python ((Python.outline? source.chars).getD []) :=
  Option.getD_map _ [] _

/-- Rules only select. Whether a source has facts, and whether a visit of any file with its text counts
it as malformed, is a matter of the text and the language. Each kind of fact depends on its own list
of names alone, and fewer names pick no other facts and keep their order. -/
theorem facts_selected :
    (∀ language, (extract? rules language source).isSome = source.isWellFormed language) ∧
    (∀ (plan : ScanPlan) (t : SourceTree) (p : ScanProgress) (path : Path) (language : Language)
        (text : String), t.read path = .ok text → source = .ofString text →
      (p.source plan t path language).value.stats.malformed =
        p.stats.malformed + if source.isWellFormed language then 0 else 1) ∧
    (rules.java.endpointAnnotations ⊆ rules'.java.endpointAnnotations →
      (rules.facts .java source).endpoints = (rules'.facts .java source).endpoints.filter
        fun e => e.method ∈ rules.java.endpointAnnotations) ∧
    (rules.java.endpointAnnotations = rules'.java.endpointAnnotations →
      (rules.facts .java source).endpoints = (rules'.facts .java source).endpoints) ∧
    (rules.java.entityMarkers = rules'.java.entityMarkers →
      (rules.facts .java source).entities = (rules'.facts .java source).entities) ∧
    (rules.java.entityMarkers ⊆ rules'.java.entityMarkers →
      (rules.facts .java source).entities.Sublist (rules'.facts .java source).entities) ∧
    (rules.python.routeDecorators ⊆ rules'.python.routeDecorators →
      (rules.facts .python source).endpoints.Sublist (rules'.facts .python source).endpoints) ∧
    (rules.python.routeDecorators = rules'.python.routeDecorators →
      (rules.facts .python source).endpoints = (rules'.facts .python source).endpoints) ∧
    (rules.python.modelBase = rules'.python.modelBase →
      (rules.facts .python source).entities = (rules'.facts .python source).entities) := by
  refine ⟨fun language => isSome_extract? rules language source, ?_, ?_⟩
  · rintro plan t p path language text hread rfl
    exact p.malformed_source plan t path language hread
  simp only [facts_java, facts_python, Java.factsOf, Python.factsOf]
  refine ⟨fun h => ?_, fun h => by rw [h], fun h => by rw [h], fun h => ?_, fun h => ?_,
    fun h => by rw [h], fun h => by rw [h]⟩
  · rw [List.filter_flatMap]
    exact List.flatMap_congr fun d _ => Java.endpointsOf_eq_filter source h d
  · exact List.Sublist.flatMap_right _ fun d _ => Java.entitiesOf_sublist source h d
  · exact List.Sublist.flatMap_right _ fun d _ => Python.endpointsOf_sublist source h d

/-- Of two mappings one is left when one is asked for, and of two routes one, whatever the markers
and the model base are; and the Java text is no Python text for any rules. -/
theorem facts_selected_mapping :
    let text := "@Entity class A \x7b @Get(\"/a\") int a(); @Post(\"/b\") int b(int n); \x7d"
    let java := SourceText.ofString text
    let python := SourceText.ofString "@app.get(\"/a\")\n@app.post(\"/b\")\ndef f(n): pass\n"
    let rules : Rules := ⟨⟨["Post"], []⟩, ⟨["post"], "Model"⟩⟩
    let rules' : Rules := ⟨⟨["Get", "Post"], ["@Entity"]⟩, ⟨["get", "post"], "Base"⟩⟩
    let t : SourceTree := ⟨⟨"/repo"⟩, [⟨⟨"a/src/A.java"⟩, some text⟩]⟩
    let plan : ScanPlan := ⟨rules, ["get"], [], []⟩
    (t.read ⟨"a/src/A.java"⟩ = .ok text ∧
      rules.java.endpointAnnotations ⊆ rules'.java.endpointAnnotations ∧
      rules.java.entityMarkers ⊆ rules'.java.entityMarkers ∧
      rules.python.routeDecorators ⊆ rules'.python.routeDecorators) ∧
    (rules'.facts .java java).endpoints =
      [⟨"Get", "/a", "int", [], 1⟩, ⟨"Post", "/b", "int", ["int"], 1⟩] ∧
    (rules.facts .java java).endpoints = [⟨"Post", "/b", "int", ["int"], 1⟩] ∧
    (rules.facts .java java).entities.Sublist (rules'.facts .java java).entities ∧
    (rules.facts .python python).endpoints.Sublist (rules'.facts .python python).endpoints ∧
    (rules.facts .python python).endpoints = [⟨"POST", "/b", "unknown", ["n"], 3⟩] ∧
    ((Scan.start .empty).source plan t ⟨"a/src/A.java"⟩ .python).value.stats.malformed = 1 := by
  intro text java python rules rules' t plan
  have hread : t.read ⟨"a/src/A.java"⟩ = .ok text := by decide +kernel
  have hnames : rules.java.endpointAnnotations ⊆ rules'.java.endpointAnnotations := by decide
  have hmarkers : rules.java.entityMarkers ⊆ rules'.java.entityMarkers := by decide
  have hroutes : rules.python.routeDecorators ⊆ rules'.python.routeDecorators := by decide
  have hall : (rules'.facts .java java).endpoints =
      [⟨"Get", "/a", "int", [], 1⟩, ⟨"Post", "/b", "int", ["int"], 1⟩] := by decide +kernel
  have hpython : java.isWellFormed .python = false := by decide +kernel
  obtain ⟨-, hvisit, hendpoints, -, -, hentities, -⟩ := facts_selected rules rules' java
  obtain ⟨-, -, -, -, -, -, hpicked, -⟩ := facts_selected rules rules' python
  refine ⟨⟨hread, hnames, hmarkers, hroutes⟩, hall, ?_, hentities hmarkers, hpicked hroutes, ?_, ?_⟩
  · rw [hendpoints hnames, hall]
    decide
  · decide +kernel
  · rw [hvisit plan t _ _ .python text hread rfl, hpython]
    rfl

end Rules

end ServiceAtlas
