import ServiceAtlas.Report.ScanJson
import ServiceAtlas.Proofs.ContextHistory
import ServiceAtlas.Proofs.JsonReading
import ServiceAtlas.Proofs.UrlTableHistory

/-!
The report of a scan loses nothing. A reader of its JSON document (`Report.ofJson?`) finds again the
counters, the URL table, the dependencies and the contexts of any scan, however it was put together
(`Scan.ofInsertions`), so that scans with one document are one scan (`Scan.report_recovers_scan`).
-/

namespace ServiceAtlas

open Json (member? text? count? list? members?)

/-! ### What was inserted -/

/-- One thing that is put into a scan. -/
inductive Scan.Insertion where
  | url (key : String) (entry : UrlEntry)
  | service (name : String)
  | facts (name : String) (found : Facts)
  | dependency (d : Dependency)

namespace Scan.Insertion

def url? : Insertion → Option (String × UrlEntry)
  | .url key entry => some (key, entry)
  | _ => none

def dependency? : Insertion → Option Dependency
  | .dependency d => some d
  | _ => none

/-- The service that an insertion names, with the facts that it brings. -/
def context? : Insertion → Option (String × Facts)
  | .service name => some (name, .none)
  | .facts name found => some (name, found)
  | _ => none

end Scan.Insertion

namespace Scan

def insert (s : Scan) : Insertion → Scan
  | .url key entry => { s with urls := s.urls.insert key entry }
  | .service name => { s with contexts := s.contexts.mention name }
  | .facts name found => { s with contexts := s.contexts.add name found }
  | .dependency d => { s with dependencies := s.dependencies ++ [d] }

/-- The scan that insertions build up from nothing. -/
def ofInsertions (stats : ScanStats) (insertions : List Insertion) : Scan :=
  insertions.foldl insert ⟨.empty, [], .empty, stats⟩

section

variable (s : Scan) (insertions : List Insertion)

theorem stats_foldl_insert : (insertions.foldl insert s).stats = s.stats := by
  induction insertions generalizing s with
  | nil => rfl
  | cons i rest ih =>
    rw [List.foldl_cons, ih]
    cases i <;> rfl

theorem dependencies_foldl_insert : (insertions.foldl insert s).dependencies =
    s.dependencies ++ insertions.filterMap Insertion.dependency? := by
  induction insertions generalizing s with
  | nil => exact (List.append_nil _).symm
  | cons i rest ih =>
    rw [List.foldl_cons, ih]
    cases i with
    | url key entry => rfl
    | service name => rfl
    | facts name found => rfl
    | dependency d => exact List.append_assoc _ _ _

theorem urls_foldl_insert : (insertions.foldl insert s).urls =
    (insertions.filterMap Insertion.url?).foldl (fun m e => m.insert e.1 e.2) s.urls := by
  rw [List.foldl_filterMap]
  refine (List.foldl_hom Scan.urls fun s i => ?_).symm
  cases i <;> rfl

theorem contexts_foldl_insert : (insertions.foldl insert s).contexts =
    (insertions.filterMap Insertion.context?).foldl (fun c e => c.add e.1 e.2) s.contexts := by
  rw [List.foldl_filterMap]
  refine (List.foldl_hom Scan.contexts fun s i => ?_).symm
  cases i <;> rfl

end

/-- The contexts that insertions add up to: each service at the place of its first appearance, with
all the facts that were inserted under its name. -/
theorem entries_contexts_foldl (added : List (String × Facts)) :
    (added.foldl (fun c e => Contexts.add c e.1 e.2) .empty).entries =
      (added.map Prod.fst).eraseDups.map fun name =>
        (name, (added.filter fun e => e.1 = name).foldl (fun f e => f ++ e.2) .none) := by
  have hkeys := OrderedMap.keys_foldl_alter Prod.fst
    (fun (e : String × Facts) present => present.getD .none ++ e.2) added .empty
  have hget := OrderedMap.get?_foldl_alter Prod.fst
    (fun (e : String × Facts) present => present.getD .none ++ e.2) added .empty
  unfold Contexts.add
  rw [OrderedMap.entries_eq_filterMap, hkeys, OrderedMap.keys_empty, List.nil_append,
    List.filterMap_congr]
  · exact congrFun List.filterMap_eq_map' _
  · intro name hname
    obtain ⟨e, he, rfl⟩ := List.mem_map.1 (List.mem_eraseDups.1 hname)
    have hmem : e ∈ added.filter fun e' => e'.1 = e.1 := List.mem_filter.2 ⟨he, by simp⟩
    rw [hget]
    cases hown : added.filter fun e' => e'.1 = e.1 with
    | nil => rw [hown] at hmem; cases hmem
    | cons first others =>
      rw [List.foldl_cons, List.foldl_cons, List.foldl_hom some fun _ _ => rfl]
      rfl

/-- What a scan holds of the things that were inserted. -/
structure Records (s : Scan) (stats : ScanStats) (insertions : List Insertion) : Prop where
  stats : s.stats = stats
  urls : s.urls.Records (insertions.filterMap Insertion.url?)
  dependencies : s.dependencies = insertions.filterMap Insertion.dependency?
  contexts : s.contexts.entries =
    ((insertions.filterMap Insertion.context?).map Prod.fst).eraseDups.map fun name =>
      (name, ((insertions.filterMap Insertion.context?).filter fun e => e.1 = name).foldl
        (fun f e => f ++ e.2) .none)

theorem records_ofInsertions (stats : ScanStats) (insertions : List Insertion) :
    (ofInsertions stats insertions).Records stats insertions where
  stats := stats_foldl_insert _ insertions
  urls := by
    rw [ofInsertions, urls_foldl_insert]
    exact UrlTable.records_ofPairs _
  dependencies := dependencies_foldl_insert _ insertions
  contexts := by
    rw [ofInsertions, contexts_foldl_insert]
    exact entries_contexts_foldl _

end Scan

/-! ### What a report says -/

def Dialect.ofName? (name : String) : Option Dialect :=
  [Dialect.properties, .yaml].find? (·.name = name)

def UrlEntry.ofJson? (j : Json) : Option (String × UrlEntry) := do
  let key ← member? "key" text? j
  let value ← member? "value" text? j
  let dialect ← (member? "format" text? j).bind Dialect.ofName?
  let source ← member? "source" text? j
  return (key, ⟨value, dialect, ⟨source⟩⟩)

def Dependency.ofJson? (j : Json) : Option Dependency := do
  let caller ← member? "caller" text? j
  let callee ← member? "callee" text? j
  let label ← member? "label" text? j
  return ⟨caller, callee, label⟩

def Endpoint.ofJson? (j : Json) : Option Endpoint := do
  let method ← member? "method" text? j
  let path ← member? "path" text? j
  let returnType ← member? "return_type" text? j
  let params ← member? "params" (list? text?) j
  let line ← member? "line" count? j
  return ⟨method, path, returnType, params, line⟩

def Entity.ofJson? (j : Json) : Option Entity := do
  let name ← member? "name" text? j
  let line ← member? "line" count? j
  return ⟨name, line⟩

def Facts.ofJson? (j : Json) : Option Facts := do
  let endpoints ← member? "endpoints" (list? Endpoint.ofJson?) j
  let entities ← member? "entities" (list? Entity.ofJson?) j
  return ⟨endpoints, entities⟩

def ScanStats.ofJson? (j : Json) : Option ScanStats := do
  let visited ← member? "files_visited" count? j
  let java ← member? "java_files" count? j
  let python ← member? "python_files" count? j
  let malformed ← member? "files_skipped_syntax" count? j
  let unreadable ← member? "files_skipped_io" count? j
  let configRead ← member? "config_files" count? j
  let configFailed ← member? "config_files_failed" count? j
  let pruned ← member? "subtrees_pruned" count? j
  return ⟨visited, java, python, malformed, unreadable, configRead, configFailed, pruned⟩

/-- The sizes that a report gives. -/
structure Totals where
  services : Nat
  dependencies : Nat
  endpoints : Nat
  entities : Nat
  urlKeys : Nat
  deriving DecidableEq, Repr

def Totals.ofJson? (j : Json) : Option Totals := do
  let services ← member? "services" count? j
  let dependencies ← member? "dependencies" count? j
  let endpoints ← member? "endpoints" count? j
  let entities ← member? "entities" count? j
  let urlKeys ← member? "url_keys" count? j
  return ⟨services, dependencies, endpoints, entities, urlKeys⟩

/-- What the JSON report of a scan says, in the order in which it says it. -/
structure Report where
  root : String
  stats : ScanStats
  summary : Totals
  urls : List (String × UrlEntry)
  dependencies : List Dependency
  contexts : List (String × Facts)

def Report.ofJson? (j : Json) : Option Report := do
  let root ← member? "root" text? j
  let stats ← member? "stats" ScanStats.ofJson? j
  let summary ← member? "summary" Totals.ofJson? j
  let urls ← member? "url_table" (list? UrlEntry.ofJson?) j
  let dependencies ← member? "dependencies" (list? Dependency.ofJson?) j
  let contexts ← member? "contexts" (members? Facts.ofJson?) j
  return ⟨root, stats, summary, urls, dependencies, contexts⟩

theorem Dialect.ofName?_name (d : Dialect) : ofName? d.name = some d := by
  cases d <;> decide

theorem Dependency.ofJson?_toJson (d : Dependency) : ofJson? d.toJson = some d := rfl

theorem Entity.ofJson?_toJson (e : Entity) : ofJson? e.toJson = some e := rfl

theorem ScanStats.ofJson?_toJson (s : ScanStats) : ofJson? s.toJson = some s := rfl

theorem Endpoint.ofJson?_toJson (e : Endpoint) : ofJson? e.toJson = some e := by
  have hparam : ∀ s, text? (.text s) = some s := fun _ => rfl
  have hparams := Json.list?_map hparam e.params
  simp [ofJson?, toJson, member?, List.lookup_cons, text?, count?, hparams]

theorem Facts.ofJson?_toJson (f : Facts) : ofJson? f.toJson = some f := by
  have hendpoints := Json.list?_map Endpoint.ofJson?_toJson f.endpoints
  have hentities := Json.list?_map Entity.ofJson?_toJson f.entities
  simp [ofJson?, toJson, member?, List.lookup_cons, hendpoints, hentities]

theorem UrlTable.ofJson?_toJson (t : UrlTable) : list? UrlEntry.ofJson? t.toJson = some t.entries := by
  refine Json.list?_map (fun e => ?_) t.entries
  simp [UrlEntry.ofJson?, member?, List.lookup_cons, text?, Dialect.ofName?_name]

theorem Contexts.ofJson?_toJson (c : Contexts) : members? Facts.ofJson? c.toJson = some c.entries :=
  Json.members?_map Facts.ofJson?_toJson c.entries

namespace Report

/-- The sizes of what a report lists. -/
def totals (r : Report) : Totals where
  services := r.contexts.length
  dependencies := r.dependencies.length
  endpoints := (r.contexts.flatMap fun e => e.2.endpoints).length
  entities := (r.contexts.flatMap fun e => e.2.entities).length
  urlKeys := r.urls.length

/-- What there is to report of a scan of a directory. -/
def ofScan (s : Scan) (root : Path) : Report where
  root := root.text
  stats := s.stats
  summary := ⟨s.contexts.size, s.dependencies.length, s.contexts.totalEndpoints,
    s.contexts.totalEntities, s.urls.size⟩
  urls := s.urls.entries
  dependencies := s.dependencies
  contexts := s.contexts.entries

end Report

theorem Report.summary_ofScan (s : Scan) (root : Path) :
    (ofScan s root).summary = (ofScan s root).totals := by
  rw [ofScan, Contexts.totalEndpoints_eq, Contexts.totalEntities_eq]
  rfl

theorem Report.ofJson?_toJson (s : Scan) (root : Path) :
    ofJson? (s.toJson root) = some (ofScan s root) := by
  have hsummary : Totals.ofJson? (.object (s.summary.map fun e => (e.1, .count e.2))) =
      some (ofScan s root).summary := rfl
  have hdependencies := Json.list?_map Dependency.ofJson?_toJson s.dependencies
  simp [ofJson?, Scan.toJson, member?, List.lookup_cons, text?, ScanStats.ofJson?_toJson, hsummary,
    UrlTable.ofJson?_toJson, hdependencies, Contexts.ofJson?_toJson, ofScan]

/-- Scans with one report are one scan, of one directory. -/
theorem Report.ofScan_inj {s s' : Scan} {root root' : Path} (h : ofScan s root = ofScan s' root') :
    root = root' ∧ s = s' := by
  obtain ⟨⟨urls, hurls⟩, dependencies, ⟨contexts, hcontexts⟩, stats⟩ := s
  obtain ⟨⟨urls', hurls'⟩, dependencies', ⟨contexts', hcontexts'⟩, stats'⟩ := s'
  obtain ⟨text⟩ := root
  obtain ⟨text'⟩ := root'
  simp only [ofScan, Report.mk.injEq] at h
  obtain ⟨rfl, rfl, -, rfl, rfl, rfl⟩ := h
  exact ⟨rfl, rfl⟩

/-! ### No name twice -/

theorem Endpoint.hasDistinctMembers_toJson (e : Endpoint) : e.toJson.HasDistinctMembers := by
  have hparams := Json.HasDistinctMembers.list_map Json.HasDistinctMembers.text e.params
  exact .object (by simp) (by simp [hparams])

theorem Entity.hasDistinctMembers_toJson (e : Entity) : e.toJson.HasDistinctMembers :=
  .object (by simp) (by simp)

theorem Facts.hasDistinctMembers_toJson (f : Facts) : f.toJson.HasDistinctMembers := by
  have hendpoints := Json.HasDistinctMembers.list_map Endpoint.hasDistinctMembers_toJson f.endpoints
  have hentities := Json.HasDistinctMembers.list_map Entity.hasDistinctMembers_toJson f.entities
  exact .object (by simp) (by simp [hendpoints, hentities])

theorem Dependency.hasDistinctMembers_toJson (d : Dependency) : d.toJson.HasDistinctMembers :=
  .object (by simp) (by simp)

theorem ScanStats.hasDistinctMembers_toJson (s : ScanStats) : s.toJson.HasDistinctMembers :=
  .object (by simp) (by simp)

theorem UrlTable.hasDistinctMembers_toJson (t : UrlTable) : t.toJson.HasDistinctMembers :=
  Json.HasDistinctMembers.list_map (fun e => .object (by simp) (by simp)) t.entries

/-- The members of the contexts are named for the services, of which each is listed once. -/
theorem Contexts.hasDistinctMembers_toJson (c : Contexts) : c.toJson.HasDistinctMembers :=
  Json.HasDistinctMembers.object_map Facts.hasDistinctMembers_toJson c.nodup

namespace Scan

theorem hasDistinctMembers_toJson (s : Scan) (root : Path) : (s.toJson root).HasDistinctMembers := by
  have hsummary : (Json.object (s.summary.map fun e => (e.1, .count e.2))).HasDistinctMembers :=
    Json.HasDistinctMembers.object_map Json.HasDistinctMembers.count (by simp [summary])
  have hdependencies :=
    Json.HasDistinctMembers.list_map Dependency.hasDistinctMembers_toJson s.dependencies
  exact .object (by simp) (by simp [ScanStats.hasDistinctMembers_toJson, hsummary,
    UrlTable.hasDistinctMembers_toJson, hdependencies, Contexts.hasDistinctMembers_toJson])

theorem document_toJson_inj {s s' : Scan} {root root' : Path} :
    (s.toJson root).document = (s'.toJson root').document ↔ root = root' ∧ s = s' := by
  constructor
  · intro h
    have hreport : some (Report.ofScan s root) = some (Report.ofScan s' root') := by
      rw [← Report.ofJson?_toJson, ← Report.ofJson?_toJson, Json.document_injective h]
    exact Report.ofScan_inj (Option.some.inj hreport)
  · rintro ⟨rfl, rfl⟩
    rfl

/-- The report loses nothing. Its document can be read, no object in it has two members of one name,
and what it says is the directory, the counters, the URL table, the dependencies and the contexts of
the scan, which hold all that was inserted, with sizes that are the sizes of these. So two scans
print one document only if they are one scan. -/
theorem report_recovers_scan (root : Path) (stats : ScanStats) (insertions : List Insertion) :
    let scan := ofInsertions stats insertions
    let report := Report.ofScan scan root
    scan.Records stats insertions ∧
    (∃ j, Json.read? (scan.toJson root).document = some j ∧ j.HasDistinctMembers ∧
      Report.ofJson? j = some report) ∧
    report.summary = report.totals ∧
    ∀ root' stats' insertions',
      (scan.toJson root).document = ((ofInsertions stats' insertions').toJson root').document ↔
        root = root' ∧ scan = ofInsertions stats' insertions' := by
  intro scan report
  refine ⟨records_ofInsertions stats insertions, ?_, Report.summary_ofScan scan root, ?_⟩
  · exact ⟨scan.toJson root, Json.read?_document _, scan.hasDistinctMembers_toJson root,
      Report.ofJson?_toJson scan root⟩
  · intro root' stats' insertions'
    exact document_toJson_inj

end Scan

end ServiceAtlas
