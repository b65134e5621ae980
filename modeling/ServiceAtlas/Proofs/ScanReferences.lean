import ServiceAtlas.Proofs.GraphHistory
import ServiceAtlas.Proofs.ScanRun

/-!
What a scan refers to is there. Each dependency comes from one Java source that is looked into
(`SourceTree.mem_dependenciesOf`): its caller is the service of that source, which the contexts list,
and its callee is a key of the URL table whose value stands in that source, or the name for unknown
services. So the graph of a scan has no node but contexts, keys of the table and that name.
-/

namespace ServiceAtlas

variable {s : Settings} {plan : ScanPlan} {t : SourceTree}

namespace SourceTree

/-- A callee is a key whose value stands in the text, if there is any. -/
theorem calleeIn_eq (urls : UrlTable) (text : String) :
    calleeIn urls text = Service.unknownName ∨
      ∃ entry, urls.get? (calleeIn urls text) = some entry ∧
        entry.value.toList <:+: text.toList := by
  rw [calleeIn]
  cases hfind : urls.entries.find? fun e => e.2.value.toList <:+: text.toList with
  | none => exact .inl rfl
  | some e =>
    have hvalue := List.find?_some hfind
    exact .inr ⟨e.2, (urls.get?_eq_some_iff _ _).2 (List.mem_of_find?_eq_some hfind),
      of_decide_eq_true hvalue⟩

/-- A Java source of the service that is looked into has the piece in its text. -/
def Mentions (t : SourceTree) (s : Settings) (service piece : String) : Prop :=
  ∃ p ∈ t.paths, s.Keeps p ∧ Language.ofPath? p = some .java ∧
    Service.ofPath (t.root.join p) = service ∧
    ∃ text, t.read p = .ok text ∧ piece.toList <:+: text.toList

theorem mem_dependenciesOf {u : SourceUnit} {d : Dependency} (h : d ∈ t.dependenciesOf s u) :
    u.2 = .java ∧ d.caller = t.serviceOf u ∧
      ∃ text, t.read u.1 = .ok text ∧ d.callee = calleeIn (UrlSurvey.ofTree t).value.table text := by
  rw [dependenciesOf] at h
  split at h
  · rename_i text hjava hread
    obtain ⟨call, -, rfl⟩ := List.mem_map.1 h
    exact ⟨hjava, rfl, text, hread, rfl⟩
  · cases h

end SourceTree

namespace Scan

/-- A dependency of a scan comes from one of its sources. -/
theorem exists_source_of_mem_dependencies (h : s.plan = .ok plan) {d : Dependency}
    (hd : d ∈ (run plan t).value.dependencies) :
    ∃ u ∈ s.sources t, d ∈ t.dependenciesOf s u := by
  rw [value_run h] at hd
  exact List.mem_flatMap.1 hd

theorem caller_mem_contexts (h : s.plan = .ok plan) {d : Dependency}
    (hd : d ∈ (run plan t).value.dependencies) :
    d.caller ∈ (run plan t).value.contexts.keys := by
  obtain ⟨u, hu, hd⟩ := exists_source_of_mem_dependencies h hd
  rw [(SourceTree.mem_dependenciesOf hd).2.1, value_run h, Contexts.keys_foldl_add,
    List.mem_eraseDups]
  exact List.mem_map_of_mem hu

/-- The key that a call goes to is explained by a source of its caller. -/
theorem callee_explained (h : s.plan = .ok plan) {d : Dependency}
    (hd : d ∈ (run plan t).value.dependencies) :
    d.callee = Service.unknownName ∨ ∃ entry, (run plan t).value.urls.get? d.callee = some entry ∧
      t.Mentions s d.caller entry.value := by
  obtain ⟨u, hu, hd⟩ := exists_source_of_mem_dependencies h hd
  obtain ⟨hjava, hcaller, text, hread, hcallee⟩ := SourceTree.mem_dependenciesOf hd
  obtain ⟨hpath, hkeeps, hlanguage⟩ := Settings.mem_sources_iff.1 hu
  rw [hjava] at hlanguage
  rw [value_run h, hcallee]
  rcases SourceTree.calleeIn_eq (UrlSurvey.ofTree t).value.table text with hunknown | hentry
  · exact .inl hunknown
  · obtain ⟨entry, hget, hvalue⟩ := hentry
    exact .inr ⟨entry, hget, u.1, hpath, hkeeps, hlanguage, hcaller.symm, text, hread, hvalue⟩

/-- Callers have their nodes on account of their contexts. -/
theorem mem_services_graph_iff {scan : Scan}
    (hcallers : ∀ d ∈ scan.dependencies, d.caller ∈ scan.contexts.keys) (name : String) :
    name ∈ scan.graph.services ↔
      name ∈ scan.contexts.keys ∨ ∃ d ∈ scan.dependencies, d.callee = name := by
  rw [graph, ServiceGraph.services_build, List.mem_eraseDups, List.mem_append, List.mem_flatMap]
  constructor
  · rintro (hname | ⟨d, hd, hname⟩)
    · exact .inl hname
    · rcases List.mem_cons.1 hname with rfl | hname
      · exact .inl (hcallers d hd)
      · exact .inr ⟨d, hd, (List.mem_singleton.1 hname).symm⟩
  · rintro (hname | ⟨d, hd, rfl⟩)
    · exact .inl hname
    · exact .inr ⟨d, hd, by simp⟩

/-- The scan of a tree, and the graph made of it, refer to nothing that is not there. -/
structure IsClosed (scan : Scan) (s : Settings) (t : SourceTree) : Prop where
  unknown : Service.unknownName ∉ scan.urls.keys
  callers : ∀ d ∈ scan.dependencies, d.caller ∈ scan.contexts.keys
  callees : ∀ d ∈ scan.dependencies, d.callee = Service.unknownName ∨
    ∃ entry, scan.urls.get? d.callee = some entry ∧ t.Mentions s d.caller entry.value
  distinct : scan.graph.services.Nodup
  nodes : ∀ name, name ∈ scan.graph.services ↔
    name ∈ scan.contexts.keys ∨ ∃ d ∈ scan.dependencies, d.callee = name
  kinds : ∀ name ∈ scan.graph.services,
    name ∈ scan.contexts.keys ∨ name ∈ scan.urls.keys ∨ name = Service.unknownName

/-- Whatever a scan refers to is a service that was looked into, a key of the table that explains the
call, or the name for unknown services. -/
theorem run_isClosed (h : s.plan = .ok plan) (t : SourceTree) :
    (run plan t).value.IsClosed s t := by
  have hnodes := mem_services_graph_iff fun _ hd => caller_mem_contexts (t := t) h hd
  refine ⟨fun hkey => ?_, fun _ => caller_mem_contexts h, fun _ => callee_explained h, ?_, hnodes,
    fun name hname => ?_⟩
  · rw [value_run h] at hkey
    exact UrlSurvey.not_mentionsUrl_unknownName (UrlSurvey.mentionsUrl_of_mem_keys hkey)
  · rw [graph, ServiceGraph.services_build]
    exact nodup_eraseDups _
  · rcases (hnodes name).1 hname with hcontext | ⟨d, hd, rfl⟩
    · exact .inl hcontext
    · rcases callee_explained h hd with hunknown | ⟨entry, hget, -⟩
      · exact .inr (.inr hunknown)
      · exact .inr (.inl ((OrderedMap.isSome_get?_iff _ _).1 (by rw [hget]; rfl)))

/-- A key that is overwritten explains a call by its last value, and a malformed source still calls. -/
theorem run_isClosed_overwritten :
    let files : List SourceFile := [⟨⟨"a.properties"⟩, some "users.url=http://old"⟩,
      ⟨⟨"orders/src/Api.java"⟩, some "c.get(\"http://new\"); class"⟩,
      ⟨⟨"carts/src/Api.java"⟩, some "c.put(\"http://old\");"⟩,
      ⟨⟨"b.properties"⟩, some "users.url=http://new"⟩]
    let t : SourceTree := ⟨⟨"/repo"⟩, files⟩
    let plan : ScanPlan := ⟨Settings.default.rules, defaultVerbs, ["test"], []⟩
    Settings.default.plan = .ok plan ∧ (run plan t).value.IsClosed Settings.default t ∧
      (run plan t).value.dependencies =
        [⟨"orders", "users.url", "get"⟩, ⟨"carts", "unknown", "put"⟩] ∧
      (run plan t).value.graph.services = ["orders", "carts", "users.url", "unknown"] := by
  intro files t plan
  have h : Settings.default.plan = .ok plan := rfl
  refine ⟨h, run_isClosed h t, ?_, ?_⟩
  · rw [value_run h]
    decide +kernel
  · rw [value_run h]
    decide +kernel

end Scan

end ServiceAtlas
