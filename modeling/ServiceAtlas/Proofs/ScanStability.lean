import ServiceAtlas.Proofs.ScanRun
import Mathlib.Data.List.Forall2

/-!
What a change of the tree does to a scan. A scan reads a tree in two parts: the survey depends on
the configuration files alone (`UrlSurvey.value_ofTree_congr`), and which sources there are and what
they hold on the source files alone (`Settings.sources_congr`, `SourceTree.read_congr`). So it does
not matter how the two are interleaved, another text for one source changes no more than the share
of that source, and one more configuration file explains only calls that nothing explained before.
-/

namespace ServiceAtlas

/-! ### The two parts of a tree -/

namespace Path

def isConfig (p : Path) : Bool := (Dialect.ofPath? p).isSome

def isSource (p : Path) : Bool := (Language.ofPath? p).isSome

theorem components_eq_of_same {p q : Path} (h : p.same q = true) : p.components = q.components :=
  of_decide_eq_true h

theorem extension?_eq_of_same {p q : Path} (h : p.same q = true) : p.extension? = q.extension? := by
  rw [extension?, extension?, fileName?, fileName?, components_eq_of_same h]

theorem isConfig_of_same {p q : Path} (h : p.same q = true) (hq : q.isConfig = true) :
    p.isConfig = true := by
  rwa [isConfig, Dialect.ofPath?, extension?_eq_of_same h]

theorem isSource_of_same {p q : Path} (h : p.same q = true) (hq : q.isSource = true) :
    p.isSource = true := by
  rwa [isSource, Language.ofPath?, extension?_eq_of_same h]

/-- No file belongs to both parts. -/
theorem not_isConfig_of_isSource {p : Path} (h : p.isSource = true) : p.isConfig = false := by
  rw [isSource, Language.ofPath?] at h
  rw [isConfig, Dialect.ofPath?]
  split at h
  · rename_i hext
    rw [hext]
    rfl
  · rename_i hext
    rw [hext]
    rfl
  · cases h

theorem not_isSource_of_isConfig {p : Path} (h : p.isConfig = true) : p.isSource = false := by
  by_contra hs
  rw [not_isConfig_of_isSource (by simpa using hs)] at h
  cases h

end Path

variable {s : Settings} {plan : ScanPlan} {t t' : SourceTree}

/-- Reading at a path looks only at the files that `keep` selects, if it selects all ways to write
the path. -/
theorem SourceTree.read_congr (keep : Path → Bool) {path : Path}
    (h : t.files.filter (keep ·.path) = t'.files.filter (keep ·.path))
    (hkeep : ∀ q : Path, q.same path = true → keep q = true) : t.read path = t'.read path := by
  have hfind : ∀ files : List SourceFile, files.find? (·.path.same path) =
      (files.filter (keep ·.path)).find? (·.path.same path) := by
    intro files
    rw [List.find?_filter]
    congr 1
    funext f
    by_cases hf : f.path.same path = true
    · simp [hf, hkeep _ hf]
    · simp [hf]
  rw [read, read, hfind, h, ← hfind]

/-- Trees that have the same files elsewhere agree on what is read elsewhere. -/
theorem SourceTree.read_congr_elsewhere {path q : Path}
    (h : t.files.filter (!·.path.same path) = t'.files.filter (!·.path.same path))
    (hq : q.same path = false) : t.read q = t'.read q := by
  refine read_congr (!·.same path) h fun p hp => ?_
  rw [Path.same, Path.components_eq_of_same hp, ← Path.same, hq]
  rfl

theorem SourceTree.filter_paths (t : SourceTree) (keep : Path → Bool) :
    t.paths.filter keep = (t.files.filter (keep ·.path)).map (·.path) := by
  rw [paths, List.filter_map]
  rfl

namespace UrlSurvey

theorem value_visit_of_not_isConfig {path : Path} (h : path.isConfig = false) (v : UrlSurvey) :
    (visit t v path).value = v := by
  have hnone : Dialect.ofPath? path = none := by simpa [Path.isConfig] using h
  rw [visit, hnone]
  rfl

theorem value_visit_congr {path : Path} (h : t.read path = t'.read path) (v : UrlSurvey) :
    (visit t v path).value = (visit t' v path).value := by
  unfold visit
  rw [h]
  cases Dialect.ofPath? path with
  | none => rfl
  | some dialect =>
    cases t'.read path with
    | error e => rfl
    | ok text =>
      simp only
      cases dialect.urlPairs text <;> rfl

/-- Files of other kinds have no part in a survey. -/
theorem value_ofTree_eq_foldl (t : SourceTree) :
    (ofTree t).value =
      (t.paths.filter Path.isConfig).foldl (fun v path => (visit t v path).value) empty := by
  rw [ofTree, Logged.value_foldlM, List.foldl_filter]
  refine List.foldl_ext _ _ _ fun v path _ => ?_
  split
  · rfl
  · rename_i hpath
    exact value_visit_of_not_isConfig (by simpa using hpath) v

/-- Trees with the same configuration files have the same survey. -/
theorem value_ofTree_congr
    (h : t.files.filter (·.path.isConfig) = t'.files.filter (·.path.isConfig)) :
    (ofTree t).value = (ofTree t').value := by
  rw [value_ofTree_eq_foldl, value_ofTree_eq_foldl, SourceTree.filter_paths, h,
    ← SourceTree.filter_paths]
  refine List.foldl_ext _ _ _ fun v path hpath => value_visit_congr ?_ v
  exact SourceTree.read_congr Path.isConfig h fun q hq =>
    Path.isConfig_of_same hq (List.mem_filter.1 hpath).2

end UrlSurvey

namespace Settings

theorem isSource_of_source?_eq {path : Path} {u : SourceUnit} (h : s.source? path = some u) :
    u.1 = path ∧ path.isSource = true := by
  obtain ⟨rfl, -, hlanguage⟩ := source?_eq_some_iff.1 h
  exact ⟨rfl, by rw [Path.isSource, hlanguage]; rfl⟩

theorem isSource_of_mem_sources {u : SourceUnit} (h : u ∈ s.sources t) : u.1.isSource = true := by
  rw [Path.isSource, (mem_sources_iff.1 h).2.2]
  rfl

/-- Trees with the same source files have the same sources. -/
theorem sources_congr (h : t.files.filter (·.path.isSource) = t'.files.filter (·.path.isSource)) :
    s.sources t = s.sources t' := by
  have hpart : ∀ t : SourceTree,
      s.sources t = (t.paths.filter Path.isSource).filterMap s.source? := by
    intro t
    rw [sources, List.filterMap_filter]
    refine List.filterMap_congr fun path _ => ?_
    split
    · rfl
    · rename_i hpath
      by_contra hne
      obtain ⟨u, hu⟩ := Option.ne_none_iff_exists'.1 hne
      exact hpath (isSource_of_source?_eq hu).2
  rw [hpart, hpart, SourceTree.filter_paths, h, ← SourceTree.filter_paths]

/-- Trees with the same source files agree on what their sources hold. -/
theorem read_sources_congr
    (h : t.files.filter (·.path.isSource) = t'.files.filter (·.path.isSource))
    {u : SourceUnit} (hu : u ∈ s.sources t') : t.read u.1 = t'.read u.1 :=
  SourceTree.read_congr Path.isSource h fun _ hq =>
    Path.isSource_of_same hq (isSource_of_mem_sources hu)

end Settings

/-! ### What a source adds depends on what is read there -/

theorem SourceTree.serviceOf_congr (hroot : t.root = t'.root) : t.serviceOf = t'.serviceOf := by
  funext u
  rw [serviceOf, serviceOf, hroot]

section SameReading

variable {u : SourceUnit} (hread : t.read u.1 = t'.read u.1)

include hread

theorem SourceTree.factsOf_congr : t.factsOf s u = t'.factsOf s u := by
  rw [factsOf, factsOf, hread]

theorem Settings.isMalformed_congr : s.IsMalformed t u = s.IsMalformed t' u := by
  rw [IsMalformed, IsMalformed, hread]

theorem Settings.isUnreadable_congr : IsUnreadable t u = IsUnreadable t' u := by
  rw [IsUnreadable, IsUnreadable, hread]

theorem SourceTree.dependenciesOf_congr (hroot : t.root = t'.root)
    (hsurvey : (UrlSurvey.ofTree t).value = (UrlSurvey.ofTree t').value) :
    t.dependenciesOf s u = t'.dependenciesOf s u := by
  rw [dependenciesOf, dependenciesOf, hread, hsurvey, serviceOf_congr hroot]

end SameReading

theorem SourceTree.foldl_add_congr {units : List SourceUnit} (hroot : t.root = t'.root)
    (hread : ∀ u ∈ units, t.read u.1 = t'.read u.1) (c : Contexts) :
    units.foldl (fun c u => c.add (t.serviceOf u) (t.factsOf s u)) c =
      units.foldl (fun c u => c.add (t'.serviceOf u) (t'.factsOf s u)) c := by
  refine List.foldl_ext _ _ _ fun c u hu => ?_
  rw [serviceOf_congr hroot, factsOf_congr (hread u hu)]

/-! ### Another interleaving -/

/-- The same files, the configuration files in the same order and the source files in the same
order. -/
structure SourceTree.Reordered (t t' : SourceTree) : Prop where
  root : t.root = t'.root
  files : t.files.Perm t'.files
  configs : t.files.filter (·.path.isConfig) = t'.files.filter (·.path.isConfig)
  sources : t.files.filter (·.path.isSource) = t'.files.filter (·.path.isSource)

namespace Scan

theorem prunedCount_of_perm (s : Settings) {ps qs : List Path} (h : ps.Perm qs) :
    prunedCount s ps = prunedCount s qs :=
  length_eraseDups_of_perm ((h.filterMap _).map _)

/-- Trees whose surveys, sources and texts of sources are the same give the same scan. -/
theorem run_congr (h : s.plan = .ok plan) (hroot : t.root = t'.root)
    (hsurvey : (UrlSurvey.ofTree t).value = (UrlSurvey.ofTree t').value)
    (hpaths : t.paths.Perm t'.paths) (hsources : s.sources t = s.sources t')
    (hread : ∀ u ∈ s.sources t', t.read u.1 = t'.read u.1) :
    (run plan t).value = (run plan t').value := by
  rw [value_run h, value_run h, hsources, hsurvey, hpaths.countP_eq, prunedCount_of_perm s hpaths]
  congr 1
  · exact List.flatMap_congr fun u hu => SourceTree.dependenciesOf_congr (hread u hu) hroot hsurvey
  · exact SourceTree.foldl_add_congr hroot hread .empty
  · congr 1
    · refine List.countP_congr fun u hu => ?_
      rw [Settings.isMalformed_congr (hread u hu)]
    · refine List.countP_congr fun u hu => ?_
      rw [Settings.isUnreadable_congr (hread u hu)]

/-- How configuration files, sources and other files are interleaved does not matter. -/
theorem run_eq_of_reordered (h : s.plan = .ok plan) (ht : t.Reordered t') :
    (run plan t).value = (run plan t').value :=
  run_congr h ht.root (UrlSurvey.value_ofTree_congr ht.configs) (ht.files.map _)
    (Settings.sources_congr ht.sources) fun _ hu => Settings.read_sources_congr ht.sources hu

/-- A call is explained by a table that stands behind it in the tree. -/
theorem run_reordered_call :
    let api : SourceFile := ⟨⟨"orders/src/Api.java"⟩, some "c.get(\"http://u\");"⟩
    let table : SourceFile := ⟨⟨"a.properties"⟩, some "users.url=http://u"⟩
    let notes : SourceFile := ⟨⟨"test/notes.md"⟩, none⟩
    let t : SourceTree := ⟨⟨"/repo"⟩, [api, notes, table]⟩
    let t' : SourceTree := ⟨⟨"/repo"⟩, [notes, table, api]⟩
    let plan : ScanPlan := ⟨Settings.default.rules, defaultVerbs, ["test"], []⟩
    Settings.default.plan = .ok plan ∧ t.Reordered t' ∧ (run plan t).value = (run plan t').value ∧
      (run plan t).value.dependencies = [⟨"orders", "users.url", "get"⟩] := by
  intro api table notes t t' plan
  have h : Settings.default.plan = .ok plan := rfl
  have hfiles : t.files.Perm t'.files := (List.perm_append_comm : ([api] ++ [notes, table]).Perm _)
  have hconfig : api.path.isConfig = false ∧ notes.path.isConfig = false ∧
      table.path.isConfig = true := by decide +kernel
  have hsource : api.path.isSource = true ∧ notes.path.isSource = false ∧
      table.path.isSource = false := by decide +kernel
  have ht : t.Reordered t' := ⟨rfl, hfiles, by simp [t, t', hconfig], by simp [t, t', hsource]⟩
  refine ⟨h, ht, run_eq_of_reordered h ht, ?_⟩
  rw [value_run h]
  decide +kernel

end Scan

/-! ### Another text for one source -/

namespace SourceTree

/-- No two files lie at the same place. -/
def HasDistinctPaths (t : SourceTree) : Prop := (t.paths.map Path.components).Nodup

instance (t : SourceTree) : Decidable t.HasDistinctPaths :=
  inferInstanceAs (Decidable (List.Nodup _))

/-- The tree with other contents for what lies at a path; without contents it cannot be read. -/
def rewrite (t : SourceTree) (path : Path) (contents : Option String) : SourceTree where
  root := t.root
  files := t.files.map fun f => if f.path.same path then ⟨f.path, contents⟩ else f

@[simp] theorem paths_rewrite (t : SourceTree) (path : Path) (contents : Option String) :
    (t.rewrite path contents).paths = t.paths := by
  rw [paths, rewrite, List.map_map, paths]
  refine List.map_congr_left fun f _ => ?_
  rw [Function.comp_apply]
  split <;> rfl

/-- Files at other places stay as they are. -/
theorem filter_rewrite (t : SourceTree) (path : Path) (contents : Option String)
    (keep : Path → Bool) (hkeep : ∀ q : Path, q.same path = true → keep q = false) :
    (t.rewrite path contents).files.filter (keep ·.path) = t.files.filter (keep ·.path) := by
  unfold rewrite
  induction t.files with
  | nil => rfl
  | cons f files ih =>
    rw [List.map_cons]
    by_cases hf : f.path.same path = true
    · rw [if_pos hf, List.filter_cons_of_neg (by simp [hkeep _ hf]),
        List.filter_cons_of_neg (by simp [hkeep _ hf]), ih]
    · rw [if_neg hf, List.filter_cons, List.filter_cons, ih]

theorem read_rewrite_of_not_same (t : SourceTree) {path q : Path} (contents : Option String)
    (h : q.same path = false) : (t.rewrite path contents).read q = t.read q :=
  read_congr_elsewhere (t.filter_rewrite path contents (!·.same path) fun p hp => by simp [hp]) h

/-- A file stands at one place of the listing, and all others lie elsewhere. -/
theorem HasDistinctPaths.split (ht : t.HasDistinctPaths) {path : Path} (h : path ∈ t.paths) :
    ∃ before after, t.paths = before ++ path :: after ∧
      ∀ q ∈ before ++ after, q.same path = false := by
  obtain ⟨before, after, hsplit⟩ := List.append_of_mem h
  refine ⟨before, after, hsplit, fun q hq => ?_⟩
  rw [HasDistinctPaths, hsplit, List.map_append, List.map_cons, List.nodup_middle,
    ← List.map_append] at ht
  have hne : q.components ≠ path.components := fun e =>
    (List.nodup_cons.1 ht).1 (e ▸ List.mem_map_of_mem hq)
  simpa [Path.same] using hne

end SourceTree

/-- Among the sources a file accounts for itself alone, if it is looked at. -/
theorem Settings.sources_split (s : Settings) (ht : t.HasDistinctPaths) {path : Path}
    (h : path ∈ t.paths) :
    ∃ before after, s.sources t = before ++ (s.source? path).toList ++ after ∧
      ∀ u ∈ before ++ after, u.1.same path = false := by
  obtain ⟨before, after, hsplit, hother⟩ := ht.split h
  refine ⟨before.filterMap s.source?, after.filterMap s.source?, ?_, fun u hu => ?_⟩
  · rw [sources, hsplit, List.filterMap_append, List.filterMap_cons, List.append_assoc]
    cases s.source? path <;> rfl
  · rw [← List.filterMap_append] at hu
    obtain ⟨q, hq, hu⟩ := List.mem_filterMap.1 hu
    rw [(isSource_of_source?_eq hu).1]
    exact hother q hq

theorem Facts.gather_append (facts : SourceUnit → Facts) (us vs : List SourceUnit) :
    Facts.gather facts (us ++ vs) = Facts.gather facts us ++ Facts.gather facts vs := by
  show _ = Facts.append _ _
  simp [Facts.gather, Facts.append]

theorem Facts.gather_singleton (facts : SourceUnit → Facts) (u : SourceUnit) :
    Facts.gather facts [u] = facts u := by
  simp [Facts.gather]

theorem Facts.gather_congr {facts facts' : SourceUnit → Facts} {units : List SourceUnit}
    (h : ∀ u ∈ units, facts u = facts' u) :
    Facts.gather facts units = Facts.gather facts' units := by
  have hendpoints := List.flatMap_congr fun u hu => congrArg Facts.endpoints (h u hu)
  have hentities := List.flatMap_congr fun u hu => congrArg Facts.entities (h u hu)
  rw [Facts.gather, Facts.gather, hendpoints, hentities]

/-- What a service has depends on its own sources only. -/
theorem Contexts.get?_foldl_add_congr (service : SourceUnit → String)
    {facts facts' : SourceUnit → Facts} {units : List SourceUnit} {name : String}
    (h : ∀ u ∈ units, service u = name → facts u = facts' u) :
    (units.foldl (fun c u => Contexts.add c (service u) (facts u)) .empty).get? name =
      (units.foldl (fun c u => Contexts.add c (service u) (facts' u)) .empty).get? name := by
  unfold Contexts.add
  rw [OrderedMap.get?_foldl_alter service (fun u present => present.getD .none ++ facts u),
    OrderedMap.get?_foldl_alter service (fun u present => present.getD .none ++ facts' u)]
  refine List.foldl_ext _ _ _ fun v u hu => ?_
  obtain ⟨hu, hname⟩ := List.mem_filter.1 hu
  rw [h u hu (of_decide_eq_true hname)]

/-- One source of a service and what its other sources hold around it. -/
theorem Contexts.get?_foldl_add_split (service : SourceUnit → String) (facts : SourceUnit → Facts)
    (before : List SourceUnit) (u : SourceUnit) (after : List SourceUnit) :
    ((before ++ [u] ++ after).foldl
        (fun c u => Contexts.add c (service u) (facts u)) .empty).get? (service u) =
      some (Facts.gather facts (before.filter fun v => service v = service u) ++ facts u ++
        Facts.gather facts (after.filter fun v => service v = service u)) := by
  have hmem : u ∈ before ++ [u] ++ after := by simp
  rw [Contexts.get?_foldl_add _ _ hmem, List.filter_append, List.filter_append,
    Facts.gather_append, Facts.gather_append, List.filter_cons_of_pos (by simp), List.filter_nil,
    Facts.gather_singleton]

namespace Scan

/-- The second scan is the first but for the share of one source of a service: it has `facts'` where
the first has `facts`, and `calls'` where the first has `calls`. -/
structure SameBut (service : String) (facts facts' : Facts) (calls calls' : List Dependency)
    (scan scan' : Scan) : Prop where
  urls : scan'.urls = scan.urls
  services : scan'.contexts.keys = scan.contexts.keys
  others : ∀ name ≠ service, scan'.contexts.get? name = scan.contexts.get? name
  own : ∃ before after : Facts,
    scan.contexts.get? service = some (before ++ facts ++ after) ∧
    scan'.contexts.get? service = some (before ++ facts' ++ after)
  dependencies : ∃ before after,
    scan.dependencies = before ++ calls ++ after ∧
    scan'.dependencies = before ++ calls' ++ after
  stats : scan'.stats = { scan.stats with
    malformed := scan'.stats.malformed, unreadable := scan'.stats.unreadable }
  malformed : scan'.stats.malformed ≤ scan.stats.malformed + 1 ∧
    scan.stats.malformed ≤ scan'.stats.malformed + 1
  unreadable : scan'.stats.unreadable ≤ scan.stats.unreadable + 1 ∧
    scan.stats.unreadable ≤ scan'.stats.unreadable + 1

private theorem countP_le_of_agree {p q : SourceUnit → Bool} {before after : List SourceUnit}
    (u : SourceUnit) (h : ∀ v ∈ before ++ after, p v = q v) :
    (before ++ [u] ++ after).countP p ≤ (before ++ [u] ++ after).countP q + 1 := by
  have hrest : (before ++ after).countP p = (before ++ after).countP q :=
    List.countP_congr fun v hv => by rw [h v hv]
  have hone : [u].countP p ≤ 1 := List.countP_le_length
  simp only [List.countP_append] at hrest ⊢
  omega

/-- Trees that differ in the text of one source `u` alone. -/
theorem sameBut_of_split (h : s.plan = .ok plan) (hroot : t'.root = t.root)
    (hsurvey : (UrlSurvey.ofTree t').value = (UrlSurvey.ofTree t).value)
    (hpaths : t'.paths = t.paths) {u : SourceUnit} {before after : List SourceUnit}
    (hsources : s.sources t = before ++ [u] ++ after)
    (hread : ∀ v ∈ before ++ after, t'.read v.1 = t.read v.1) :
    SameBut (t.serviceOf u) (t.factsOf s u) (t'.factsOf s u) (t.dependenciesOf s u)
      (t'.dependenciesOf s u) (run plan t).value (run plan t').value := by
  have hsources' : s.sources t' = before ++ [u] ++ after := by
    rw [Settings.sources, hpaths, ← Settings.sources, hsources]
  have hfacts : ∀ v ∈ before ++ after, t'.factsOf s v = t.factsOf s v := fun v hv =>
    SourceTree.factsOf_congr (hread v hv)
  have hcalls : ∀ v ∈ before ++ after, t'.dependenciesOf s v = t.dependenciesOf s v := fun v hv =>
    SourceTree.dependenciesOf_congr (hread v hv) hroot hsurvey
  have hmalformed : ∀ v ∈ before ++ after, s.IsMalformed t' v = s.IsMalformed t v := fun v hv =>
    Settings.isMalformed_congr (hread v hv)
  have hunreadable : ∀ v ∈ before ++ after,
      Settings.IsUnreadable t' v = Settings.IsUnreadable t v := fun v hv =>
    Settings.isUnreadable_congr (hread v hv)
  rw [value_run h t, value_run h t', hsources, hsources', hsurvey,
    SourceTree.serviceOf_congr hroot, hpaths]
  refine ⟨rfl, ?_, fun name hname => ?_, ?_, ?_, rfl, ?_, ?_⟩
  · rw [Contexts.keys_foldl_add, Contexts.keys_foldl_add]
  · -- a source of another service is not `u`
    refine Contexts.get?_foldl_add_congr _ fun v hv hvname => hfacts v ?_
    have hne : v ≠ u := fun e => hname (by rw [← hvname, e])
    simpa [hne] using hv
  · refine ⟨_, _, Contexts.get?_foldl_add_split _ _ before u after, ?_⟩
    rw [Contexts.get?_foldl_add_split,
      Facts.gather_congr fun v hv => hfacts v (List.mem_append_left _ (List.mem_filter.1 hv).1),
      Facts.gather_congr fun v hv => hfacts v (List.mem_append_right _ (List.mem_filter.1 hv).1)]
  · refine ⟨before.flatMap (t.dependenciesOf s), after.flatMap (t.dependenciesOf s), ?_, ?_⟩
    · simp
    · have hbefore := List.flatMap_congr fun v hv => hcalls v (List.mem_append_left after hv)
      have hafter := List.flatMap_congr fun v hv => hcalls v (List.mem_append_right before hv)
      simp [hbefore, hafter]
  · exact ⟨countP_le_of_agree u hmalformed, countP_le_of_agree u fun v hv => (hmalformed v hv).symm⟩
  · exact ⟨countP_le_of_agree u hunreadable,
      countP_le_of_agree u fun v hv => (hunreadable v hv).symm⟩

/-- Failures stay where they are. Another text for a source, or none that can be read, changes a
scan only in the share of that source, and not at all if the source is left out. -/
theorem run_rewrite_source (h : s.plan = .ok plan) (t : SourceTree) (ht : t.HasDistinctPaths)
    (f : SourceFile) (hf : f ∈ t.files) (language : Language)
    (hlanguage : Language.ofPath? f.path = some language) (contents : Option String) :
    let t' := t.rewrite f.path contents
    let u : SourceUnit := (f.path, language)
    (s.Keeps f.path → SameBut (t.serviceOf u) (t.factsOf s u) (t'.factsOf s u)
      (t.dependenciesOf s u) (t'.dependenciesOf s u) (run plan t).value (run plan t').value) ∧
    (s.Prunes f.path ∨ s.Excludes f.path → (run plan t').value = (run plan t).value) := by
  intro t' u
  have hroot : t'.root = t.root := rfl
  have hpath : f.path ∈ t.paths := List.mem_map_of_mem hf
  have hsource : f.path.isSource = true := by rw [Path.isSource, hlanguage]; rfl
  have hsurvey : (UrlSurvey.ofTree t').value = (UrlSurvey.ofTree t).value :=
    UrlSurvey.value_ofTree_congr (t.filter_rewrite f.path contents Path.isConfig fun q hq =>
      Path.not_isConfig_of_isSource (Path.isSource_of_same hq hsource))
  have hpaths : t'.paths = t.paths := t.paths_rewrite f.path contents
  obtain ⟨before, after, hsplit, hother⟩ := s.sources_split ht hpath
  have hread : ∀ v ∈ before ++ after, t'.read v.1 = t.read v.1 := fun v hv =>
    t.read_rewrite_of_not_same contents (hother v hv)
  constructor
  · intro hkeep
    have hunit : (s.source? f.path).toList = [u] := by
      rw [Settings.source?, if_pos hkeep, hlanguage]
      rfl
    rw [hunit] at hsplit
    exact sameBut_of_split h hroot hsurvey hpaths hsplit hread
  · intro hout
    have hnone : (s.source? f.path).toList = [] := by
      rw [Settings.source?, if_neg fun hkeep => hout.elim hkeep.1 hkeep.2]
      rfl
    rw [hnone, List.append_nil] at hsplit
    rw [← hsplit] at hread
    exact run_congr h hroot hsurvey (.of_eq hpaths) (by rw [Settings.sources, hpaths]; rfl) hread

/-- A source that can no longer be read takes its entity and its call with it. -/
theorem run_rewrite_unreadable :
    let api : SourceFile := ⟨⟨"orders/src/Api.java"⟩, some "@Entity class A { int n = c.get(1); }"⟩
    let app : SourceFile := ⟨⟨"orders/web/app.py"⟩, some "@app.route(\"/b\")\ndef b():\n    pass\n"⟩
    let t : SourceTree := ⟨⟨"/repo"⟩, [api, app]⟩
    let plan : ScanPlan := ⟨Settings.default.rules, defaultVerbs, ["test"], []⟩
    (Settings.default.plan = .ok plan ∧ t.HasDistinctPaths ∧ api ∈ t.files ∧
      Language.ofPath? api.path = some .java ∧ Settings.default.Keeps api.path) ∧
    SameBut "orders" ⟨[], [⟨"A", 1⟩]⟩ .none [⟨"orders", "unknown", "get"⟩] []
      (run plan t).value (run plan (t.rewrite api.path none)).value := by
  intro api app t plan
  have h : Settings.default.plan = .ok plan := rfl
  have ht : t.HasDistinctPaths := by decide +kernel
  have hapi : api ∈ t.files := List.mem_cons_self
  have hjava : Language.ofPath? api.path = some .java := by decide +kernel
  have hkeep : Settings.default.Keeps api.path := by decide +kernel
  have hservice : t.serviceOf (api.path, .java) = "orders" := by decide +kernel
  have hfacts : t.factsOf Settings.default (api.path, .java) = ⟨[], [⟨"A", 1⟩]⟩ := by
    decide +kernel
  have hfacts' : (t.rewrite api.path none).factsOf Settings.default (api.path, .java) = .none := by
    decide +kernel
  have hcalls : t.dependenciesOf Settings.default (api.path, .java) =
      [⟨"orders", "unknown", "get"⟩] := by decide +kernel
  have hcalls' : (t.rewrite api.path none).dependenciesOf Settings.default (api.path, .java) =
      [] := by decide +kernel
  have hsame := (run_rewrite_source h t ht api hapi .java hjava none).1 hkeep
  rw [hservice, hfacts, hfacts', hcalls, hcalls'] at hsame
  exact ⟨⟨h, ht, hapi, hjava, hkeep⟩, hsame⟩

end Scan

/-! ### One more configuration file -/

/-- The keys that a configuration file has for the table; none if it cannot be read or is not well
formed. -/
def SourceFile.urlKeys (f : SourceFile) : List String :=
  match Dialect.ofPath? f.path, f.contents with
  | some dialect, some text =>
    match dialect.urlPairs text with
    | .ok pairs => pairs.map Prod.fst
    | .error _ => []
  | _, _ => []

namespace SourceTree

/-- The tree with one more file at the end. -/
def extend (t : SourceTree) (f : SourceFile) : SourceTree := { t with files := t.files ++ [f] }

variable {f : SourceFile}

theorem paths_extend (t : SourceTree) (f : SourceFile) :
    (t.extend f).paths = t.paths ++ [f.path] :=
  List.map_append

theorem filter_extend (t : SourceTree) (keep : Path → Bool) (h : keep f.path = false) :
    (t.extend f).files.filter (keep ·.path) = t.files.filter (keep ·.path) := by
  rw [extend, List.filter_append, List.filter_cons_of_neg (by simp [h]), List.filter_nil,
    List.append_nil]

variable (hnew : ∀ g ∈ t.files, g.path.same f.path = false)

include hnew

theorem read_extend_of_mem {path : Path} (h : path ∈ t.paths) :
    (t.extend f).read path = t.read path := by
  obtain ⟨g, hg, rfl⟩ := List.mem_map.1 h
  refine read_congr_elsewhere (t.filter_extend (!·.same f.path) ?_) (hnew g hg)
  simp [Path.same]

theorem read_extend_self :
    (t.extend f).read f.path = f.contents.elim (.error .denied) .ok := by
  have hnone : t.files.find? (·.path.same f.path) = none :=
    List.find?_eq_none.2 fun g hg => by simp [hnew g hg]
  rw [read, extend, List.find?_append, hnone, List.find?_cons_of_pos (by simp [Path.same])]
  rcases f with ⟨path, _ | text⟩ <;> rfl

end SourceTree

namespace UrlSurvey

variable {f : SourceFile} (hnew : ∀ g ∈ t.files, g.path.same f.path = false)

include hnew

theorem map_fst_insertionsOf_extend :
    (insertionsOf (t.extend f) f.path).map Prod.fst = f.urlKeys := by
  rw [insertionsOf, SourceTree.read_extend_self hnew, SourceFile.urlKeys]
  cases Dialect.ofPath? f.path with
  | none => rfl
  | some dialect =>
    cases f.contents with
    | none => rfl
    | some text =>
      simp only [Option.elim_some, urlPairs_eq]
      cases dialect.pairs text <;> simp [Except.map]

/-- New keys stand behind all others. -/
theorem entries_ofTree_extend
    (hkeys : ∀ key ∈ f.urlKeys, key ∉ (ofTree t).value.table.keys) :
    ∃ added, (ofTree (t.extend f)).value.table.entries =
        (ofTree t).value.table.entries ++ added ∧ ∀ e ∈ added, e.1 ∈ f.urlKeys := by
  have hold : t.paths.flatMap (insertionsOf (t.extend f)) = t.paths.flatMap (insertionsOf t) :=
    List.flatMap_congr fun path hpath => by
      rw [insertionsOf, SourceTree.read_extend_of_mem hnew hpath, ← insertionsOf]
  rw [← map_fst_insertionsOf_extend hnew] at hkeys ⊢
  rw [table_ofTree t] at hkeys ⊢
  rw [table_ofTree, SourceTree.paths_extend, List.flatMap_append, hold, List.flatMap_singleton,
    OrderedMap.ofPairs, List.foldl_append]
  exact OrderedMap.entries_foldl_alter_of_fresh Prod.fst (fun i _ => i.2) fun i hi =>
    hkeys i.1 (List.mem_map_of_mem hi)

end UrlSurvey

/-- The same call; if nothing explained it, one of the keys may. -/
structure Dependency.ExplainedBy (keys : List String) (d d' : Dependency) : Prop where
  caller : d'.caller = d.caller
  label : d'.label = d.label
  callee : d'.callee = d.callee ∨ d.callee = Service.unknownName ∧ d'.callee ∈ keys

/-- Entries behind all others count only where no other entry does. -/
theorem SourceTree.calleeIn_append {urls urls' : UrlTable} {added : List (String × UrlEntry)}
    (h : urls'.entries = urls.entries ++ added) (text : String) :
    calleeIn urls' text = calleeIn urls text ∨
      calleeIn urls text = Service.unknownName ∧ calleeIn urls' text ∈ added.map Prod.fst := by
  rw [calleeIn, calleeIn, h, List.find?_append]
  cases hold : urls.entries.find? fun e => e.2.value.toList <:+: text.toList with
  | some e => exact .inl rfl
  | none =>
    cases hadded : added.find? fun e => e.2.value.toList <:+: text.toList with
    | none => exact .inl rfl
    | some e => exact .inr ⟨rfl, List.mem_map_of_mem (List.mem_of_find?_eq_some hadded)⟩

theorem SourceTree.explained_dependenciesOf {keys : List String} {u : SourceUnit}
    (hroot : t'.root = t.root) (hread : t'.read u.1 = t.read u.1)
    {added : List (String × UrlEntry)}
    (hentries : (UrlSurvey.ofTree t').value.table.entries =
      (UrlSurvey.ofTree t).value.table.entries ++ added)
    (hadded : ∀ e ∈ added, e.1 ∈ keys) :
    List.Forall₂ (Dependency.ExplainedBy keys) (t.dependenciesOf s u) (t'.dependenciesOf s u) := by
  rw [dependenciesOf, dependenciesOf, hread, serviceOf_congr hroot]
  split
  · rename_i text _ _
    rw [List.forall₂_map_left_iff, List.forall₂_map_right_iff, List.forall₂_same]
    intro call _
    refine ⟨rfl, rfl, (calleeIn_append hentries text).imp_right fun hnew => ⟨hnew.1, ?_⟩⟩
    obtain ⟨e, he, hcallee⟩ := List.mem_map.1 hnew.2
    exact hcallee ▸ hadded e he
  · exact .nil

namespace Scan

/-- More knowledge never redirects a call. One more configuration file with keys of its own leaves
the contexts and the calls as they are, and gives a callee only to calls that had none. -/
theorem run_extend_config (h : s.plan = .ok plan) (t : SourceTree) (f : SourceFile)
    (hconfig : f.path.isConfig = true) (hnew : ∀ g ∈ t.files, g.path.same f.path = false)
    (hkeys : ∀ key ∈ f.urlKeys, key ∉ (run plan t).value.urls.keys) :
    let scan := (run plan t).value
    let scan' := (run plan (t.extend f)).value
    scan'.contexts = scan.contexts ∧
    List.Forall₂ (Dependency.ExplainedBy f.urlKeys) scan.dependencies scan'.dependencies := by
  have hroot : (t.extend f).root = t.root := rfl
  have hfilter := t.filter_extend Path.isSource (Path.not_isSource_of_isConfig hconfig)
  have hsources : s.sources (t.extend f) = s.sources t := Settings.sources_congr hfilter
  have hread : ∀ u ∈ s.sources t, (t.extend f).read u.1 = t.read u.1 := fun u hu =>
    Settings.read_sources_congr hfilter hu
  rw [value_run h t] at hkeys ⊢
  obtain ⟨added, hentries, hadded⟩ := UrlSurvey.entries_ofTree_extend hnew hkeys
  rw [value_run h, hsources]
  constructor
  · exact SourceTree.foldl_add_congr hroot hread .empty
  · -- the two lists of calls are compared source by source, so each source brings its membership
    have hunits : List.Forall₂ (fun u v => u = v ∧ u ∈ s.sources t) (s.sources t) (s.sources t) :=
      List.forall₂_same.2 fun u hu => ⟨rfl, hu⟩
    refine List.rel_flatMap hunits ?_
    rintro u _ ⟨rfl, hu⟩
    exact SourceTree.explained_dependenciesOf hroot (hread u hu) hentries hadded

/-- A second table explains a call that the first one does not. -/
theorem run_extend_second_table :
    let api : SourceFile := ⟨⟨"orders/src/Api.java"⟩, some "c.get(\"http://u\");"⟩
    let first : SourceFile := ⟨⟨"a.properties"⟩, some "carts.url=http://c"⟩
    let second : SourceFile := ⟨⟨"b.properties"⟩, some "users.url=http://u"⟩
    let t : SourceTree := ⟨⟨"/repo"⟩, [first, api]⟩
    let plan : ScanPlan := ⟨Settings.default.rules, defaultVerbs, ["test"], []⟩
    (Settings.default.plan = .ok plan ∧ second.path.isConfig = true ∧
      (∀ g ∈ t.files, g.path.same second.path = false) ∧
      ∀ key ∈ second.urlKeys, key ∉ (run plan t).value.urls.keys) ∧
    ((run plan (t.extend second)).value.contexts = (run plan t).value.contexts ∧
      List.Forall₂ (Dependency.ExplainedBy second.urlKeys) (run plan t).value.dependencies
        (run plan (t.extend second)).value.dependencies) ∧
    (run plan t).value.dependencies = [⟨"orders", "unknown", "get"⟩] ∧
    (run plan (t.extend second)).value.dependencies = [⟨"orders", "users.url", "get"⟩] := by
  intro api first second t plan
  have h : Settings.default.plan = .ok plan := rfl
  have hconfig : second.path.isConfig = true := by decide +kernel
  have hnew : ∀ g ∈ t.files, g.path.same second.path = false := by decide +kernel
  have hfresh : ∀ key ∈ second.urlKeys, key ∉ (run plan t).value.urls.keys := by
    rw [value_run h]
    decide +kernel
  refine ⟨⟨h, hconfig, hnew, hfresh⟩, run_extend_config h t second hconfig hnew hfresh, ?_, ?_⟩ <;>
    rw [value_run h] <;> decide +kernel

end Scan

end ServiceAtlas
