import ServiceAtlas.Proofs.ScanRun
import Mathlib.Data.List.Flatten

/-!
What leaving out more does to a scan. Settings that leave out more keep fewer paths
(`Settings.NarrowedTo.keeps`), so their sources are some of the sources there were before, in the
same order, and each of them still holds what it held. Hence all that a scan gathers from sources
shrinks to a part in the old order, while the survey of the configuration files stays what it was.
-/

namespace ServiceAtlas

/-- The second settings leave out at least what the first leave out, and are the same otherwise. -/
structure Settings.NarrowedTo (s s' : Settings) : Prop where
  exclude : s.exclude ⊆ s'.exclude
  ignorePatterns : s.ignorePatterns ⊆ s'.ignorePatterns
  excludedDirs : s.excludedDirs ⊆ s'.excludedDirs
  otherwise : s' = { s with
    exclude := s'.exclude, ignorePatterns := s'.ignorePatterns, excludedDirs := s'.excludedDirs }

namespace Settings.NarrowedTo

variable {s s' : Settings} (hs : s.NarrowedTo s')

include hs

theorem rules_eq : s'.rules = s.rules := by
  rw [hs.otherwise]
  rfl

theorem verbs_eq : s'.verbs = s.verbs := by
  rw [hs.otherwise]

theorem excludeGlobs_subset : s.excludeGlobs ⊆ s'.excludeGlobs := by
  intro pattern hpattern
  rcases List.mem_append.1 hpattern with hp | hp
  · exact List.mem_append_left _ (hs.exclude hp)
  · exact List.mem_append_right _ (hs.ignorePatterns hp)

/-- What is looked at now was looked at before. -/
theorem keeps {path : Path} (h : s'.Keeps path) : s.Keeps path := by
  refine ⟨fun hprunes => h.1 ?_, fun hexcludes => h.2 ?_⟩
  · obtain ⟨name, hname, hmem⟩ := hprunes
    exact ⟨name, hs.excludedDirs hname, hmem⟩
  · obtain ⟨pattern, hpattern, hmatch⟩ := hexcludes
    exact ⟨pattern, hs.excludeGlobs_subset hpattern, hmatch⟩

/-- Some of the sources are left, in their old order. -/
theorem sources_sublist (t : SourceTree) : (s'.sources t).Sublist (s.sources t) := by
  rw [sources, sources, List.filterMap_eq_flatMap_toList, List.filterMap_eq_flatMap_toList]
  refine List.Sublist.flatMap_right _ fun path _ => ?_
  cases hu : s'.source? path with
  | none => exact List.nil_sublist _
  | some u =>
    obtain ⟨hpath, hkeeps, hlanguage⟩ := source?_eq_some_iff.1 hu
    rw [source?_eq_some_iff.2 ⟨hpath, hs.keeps hkeeps, hlanguage⟩]

/-- A source that is left holds what it held. -/
theorem factsOf_eq (t : SourceTree) : t.factsOf s' = t.factsOf s := by
  funext u
  rw [SourceTree.factsOf, SourceTree.factsOf, hs.rules_eq]

theorem dependenciesOf_eq (t : SourceTree) : t.dependenciesOf s' = t.dependenciesOf s := by
  funext u
  rw [SourceTree.dependenciesOf, SourceTree.dependenciesOf, hs.verbs_eq]

theorem isMalformed_eq (t : SourceTree) : s'.IsMalformed t = s.IsMalformed t := by
  funext u
  rw [IsMalformed, IsMalformed, hs.rules_eq]

end Settings.NarrowedTo

/-! ### Parts of what was found -/

/-- Some of the facts, in their order. -/
structure Facts.PartOf (part whole : Facts) : Prop where
  endpoints : part.endpoints.Sublist whole.endpoints
  entities : part.entities.Sublist whole.entities

theorem Facts.gather_partOf (facts : SourceUnit → Facts) {us vs : List SourceUnit}
    (h : us.Sublist vs) : (gather facts us).PartOf (gather facts vs) :=
  ⟨h.flatMap _, h.flatMap _⟩

/-- Fewer sources make fewer contexts, each with a part of its facts. -/
theorem Contexts.partOf_of_sublist (service : SourceUnit → String) (facts : SourceUnit → Facts)
    {us vs : List SourceUnit} (h : us.Sublist vs) {name : String} {part : Facts}
    (hpart : (name, part) ∈
      (us.foldl (fun c u => Contexts.add c (service u) (facts u)) .empty).entries) :
    ∃ whole, (name, whole) ∈
      (vs.foldl (fun c u => Contexts.add c (service u) (facts u)) .empty).entries ∧
      part.PartOf whole := by
  rw [entries_foldl_add] at hpart ⊢
  obtain ⟨_, hname, heq⟩ := List.mem_map.1 hpart
  cases heq
  have hname' : name ∈ (vs.map service).eraseDups :=
    List.mem_eraseDups.2 ((h.map service).subset (List.mem_eraseDups.1 hname))
  exact ⟨_, List.mem_map.2 ⟨name, hname', rfl⟩, Facts.gather_partOf facts (h.filter _)⟩

namespace Scan

/-- The one scan found the same in the configuration files as the other, and of what the other found
in the sources a part. -/
structure PartOf (part whole : Scan) : Prop where
  urls : part.urls = whole.urls
  configRead : part.stats.configRead = whole.stats.configRead
  configFailed : part.stats.configFailed = whole.stats.configFailed
  dependencies : part.dependencies.Sublist whole.dependencies
  contexts : ∀ name facts, (name, facts) ∈ part.contexts.entries →
    ∃ facts', (name, facts') ∈ whole.contexts.entries ∧ facts.PartOf facts'
  visited : part.stats.visited ≤ whole.stats.visited
  java : part.stats.java ≤ whole.stats.java
  python : part.stats.python ≤ whole.stats.python
  malformed : part.stats.malformed ≤ whole.stats.malformed
  unreadable : part.stats.unreadable ≤ whole.stats.unreadable

/-- Leaving out more takes away from the sources and from nothing else. -/
theorem run_partOf_of_narrowed {s s' : Settings} {plan plan' : ScanPlan} (hs : s.NarrowedTo s')
    (h : s.plan = .ok plan) (h' : s'.plan = .ok plan') (t : SourceTree) :
    (run plan' t).value.PartOf (run plan t).value := by
  have hsources := hs.sources_sublist t
  rw [value_run h, value_run h', hs.factsOf_eq, hs.dependenciesOf_eq, hs.isMalformed_eq]
  exact {
    urls := rfl
    configRead := rfl
    configFailed := rfl
    dependencies := hsources.flatMap _
    contexts := fun _ _ => Contexts.partOf_of_sublist _ _ hsources
    visited := List.countP_mono_left fun path _ hkeeps => by
      simpa using hs.keeps (of_decide_eq_true hkeeps)
    java := hsources.countP_le
    python := hsources.countP_le
    malformed := hsources.countP_le
    unreadable := hsources.countP_le }

/-- A service that loses its first source moves behind the others and keeps the rest. -/
theorem run_partOf_generated :
    let files : List SourceFile := [⟨⟨"orders/gen/Api.java"⟩, some "c.get(1);"⟩,
      ⟨⟨"users/src/User.java"⟩, some "c.put(2);"⟩, ⟨⟨"users/src/UserDto.java"⟩, none⟩,
      ⟨⟨"orders/src/Cart.java"⟩, some "@Entity class Cart { int n = c.post(3); }"⟩]
    let t : SourceTree := ⟨⟨"/repo"⟩, files⟩
    let s' := { Settings.default with exclude := ["*Dto.java"], excludedDirs := ["gen", "test"] }
    let plan : ScanPlan := ⟨Settings.default.rules, defaultVerbs, ["test"], []⟩
    let plan' : ScanPlan := ⟨Settings.default.rules, defaultVerbs, ["gen", "test"],
      [.zeroOrMore :: "Dto.java".toList.map .literal]⟩
    (Settings.default.NarrowedTo s' ∧ Settings.default.plan = .ok plan ∧ s'.plan = .ok plan') ∧
    (run plan' t).value.PartOf (run plan t).value ∧
    (run plan t).value.contexts.keys = ["orders", "users"] ∧
    (run plan' t).value.contexts.keys = ["users", "orders"] ∧
    (run plan' t).value.dependencies = [⟨"users", "unknown", "put"⟩, ⟨"orders", "unknown", "post"⟩] := by
  intro files t s' plan plan'
  have hs : Settings.default.NarrowedTo s' := ⟨by decide, by decide, by decide, rfl⟩
  have h : Settings.default.plan = .ok plan := rfl
  have h' : s'.plan = .ok plan' := by cbv
  refine ⟨⟨hs, h, h'⟩, run_partOf_of_narrowed hs h h' t, ?_, ?_, ?_⟩
  · rw [value_run h]
    decide +kernel
  · rw [value_run h']
    decide +kernel
  · rw [value_run h']
    decide +kernel

end Scan

end ServiceAtlas
