import ServiceAtlas.Proofs.ContextHistory
import ServiceAtlas.Proofs.PathSteps
import ServiceAtlas.Proofs.UrlTableHistory
import ServiceAtlas.Scan

/-!
What a scan finds, said without the scan. The settings and the tree determine which sources are
looked into (`Settings.sources`), and each source what it adds to its service, to the dependencies
and to the counters. Every visit adds exactly that (`ScanProgress.value_visit`), so a run is the sum
over the sources in their order (`Scan.value_run`).
-/

namespace ServiceAtlas

/-! ### What the settings leave out -/

/-- The pattern can be read and matches the text. -/
def Glob.Matches (pattern text : String) : Prop :=
  ∃ tokens, Glob.read .class_ pattern = .ok tokens ∧
    Glob.isMatch ScanPlan.globOptions tokens text = true

instance (pattern text : String) : Decidable (Glob.Matches pattern text) :=
  match h : Glob.read .class_ pattern with
  | .ok tokens =>
    decidable_of_iff (Glob.isMatch ScanPlan.globOptions tokens text = true)
      (by simp [Glob.Matches, h])
  | .error _ => isFalse (by simp [Glob.Matches, h])

namespace Settings

/-- A directory above the path has one of the names that are left out. -/
def Prunes (s : Settings) (path : Path) : Prop :=
  ∃ name ∈ s.excludedDirs, .name name ∈ path.components.dropLast

/-- One of the patterns matches the path or its file name alone. -/
def Excludes (s : Settings) (path : Path) : Prop :=
  ∃ pattern ∈ s.excludeGlobs,
    Glob.Matches pattern path.text ∨ ∃ name ∈ path.fileName?, Glob.Matches pattern name

/-- The path is looked at. -/
def Keeps (s : Settings) (path : Path) : Prop := ¬ s.Prunes path ∧ ¬ s.Excludes path

instance (s : Settings) (path : Path) : Decidable (s.Prunes path) :=
  inferInstanceAs (Decidable (∃ name ∈ s.excludedDirs, _))

instance (s : Settings) (path : Path) : Decidable (s.Excludes path) :=
  inferInstanceAs (Decidable (∃ pattern ∈ s.excludeGlobs, _))

instance (s : Settings) (path : Path) : Decidable (s.Keeps path) :=
  inferInstanceAs (Decidable (¬ _ ∧ ¬ _))

end Settings

theorem Path.excludedAncestor?_eq_none_iff (s : Settings) (path : Path) :
    path.excludedAncestor? s.excludedDirs = none ↔ ¬ s.Prunes path := by
  rw [← Option.not_isSome_iff_eq_none, Path.isSome_excludedAncestor?_iff, Settings.Prunes]

theorem mem_of_readPatterns {patterns : List String} {globs : List (List Glob.Token)}
    (h : readPatterns patterns = .ok globs) (tokens : List Glob.Token) :
    tokens ∈ globs ↔ ∃ pattern ∈ patterns, Glob.read .class_ pattern = .ok tokens := by
  induction patterns generalizing globs with
  | nil => cases h; simp
  | cons pattern rest ih =>
    rw [readPatterns] at h
    split at h
    · cases h
    · rename_i read hread
      cases hrest : readPatterns rest with
      | error e => rw [hrest] at h; cases h
      | ok others =>
        rw [hrest] at h
        cases h
        rw [List.mem_cons, ih hrest]
        simp [hread, eq_comm]

/-- The settings can be scanned with, and `plan` is what a scan is told of them. -/
theorem Settings.plan_eq_ok {s : Settings} {plan : ScanPlan} (h : s.plan = .ok plan) :
    plan.rules = s.rules ∧ plan.verbs = s.verbs ∧ plan.excludedDirs = s.excludedDirs ∧
      readPatterns s.excludeGlobs = .ok plan.exclude := by
  rw [Settings.plan] at h
  split at h
  · cases h
  · rename_i exclude hread
    split at h
    · cases h
    · cases h
      exact ⟨rfl, rfl, rfl, hread⟩

theorem ScanPlan.isExcluded_iff {s : Settings} {plan : ScanPlan} (h : s.plan = .ok plan)
    (path : Path) :
    plan.isExcluded path = true ↔ s.Excludes path := by
  obtain ⟨-, -, -, hread⟩ := s.plan_eq_ok h
  have hit : ∀ text, (plan.exclude.any fun tokens => Glob.isMatch globOptions tokens text) = true ↔
      ∃ pattern ∈ s.excludeGlobs, Glob.Matches pattern text := by
    intro text
    simp only [List.any_eq_true, mem_of_readPatterns hread, Glob.Matches]
    constructor
    · rintro ⟨tokens, ⟨pattern, hp, hr⟩, hm⟩
      exact ⟨pattern, hp, tokens, hr, hm⟩
    · rintro ⟨pattern, hp, tokens, hr, hm⟩
      exact ⟨tokens, ⟨pattern, hp, hr⟩, hm⟩
  rw [ScanPlan.isExcluded, Bool.or_eq_true, hit, Option.any_eq_true]
  simp only [hit, Settings.Excludes]
  constructor
  · rintro (⟨pattern, hp, hm⟩ | ⟨name, hn, pattern, hp, hm⟩)
    · exact ⟨pattern, hp, .inl hm⟩
    · exact ⟨pattern, hp, .inr ⟨name, hn, hm⟩⟩
  · rintro ⟨pattern, hp, hm | ⟨name, hn, hm⟩⟩
    · exact .inl ⟨pattern, hp, hm⟩
    · exact .inr ⟨name, hn, pattern, hp, hm⟩

/-! ### What a source adds -/

/-- Mentioning a service changes nothing for facts that are added to it next. -/
theorem Contexts.add_mention (c : Contexts) (service : String) (facts : Facts) :
    Contexts.add (Contexts.mention c service) service facts = Contexts.add c service facts := by
  rw [Contexts.mention, Contexts.add, Contexts.add, OrderedMap.alter_alter]
  simp [Contexts.add]

/-- A source file and its language. -/
abbrev SourceUnit := Path × Language

namespace Settings

/-- The source at a path, if the path is looked at and is one of a source. -/
def source? (s : Settings) (path : Path) : Option SourceUnit :=
  if s.Keeps path then (Language.ofPath? path).map (path, ·) else none

/-- The sources that a scan looks into, in the order of the tree. -/
def sources (s : Settings) (t : SourceTree) : List SourceUnit := t.paths.filterMap s.source?

theorem source?_eq_some_iff {s : Settings} {path : Path} {u : SourceUnit} :
    s.source? path = some u ↔
      path = u.1 ∧ s.Keeps path ∧ Language.ofPath? path = some u.2 := by
  rw [source?]
  split
  · rename_i hkeeps
    rw [Option.map_eq_some_iff]
    constructor
    · rintro ⟨language, hlanguage, rfl⟩
      exact ⟨rfl, hkeeps, hlanguage⟩
    · rintro ⟨rfl, -, hlanguage⟩
      exact ⟨u.2, hlanguage, rfl⟩
  · rename_i hkeeps
    simp [hkeeps]

theorem mem_sources_iff {s : Settings} {t : SourceTree} {u : SourceUnit} :
    u ∈ s.sources t ↔ u.1 ∈ t.paths ∧ s.Keeps u.1 ∧ Language.ofPath? u.1 = some u.2 := by
  rw [sources, List.mem_filterMap]
  constructor
  · rintro ⟨path, hpath, hu⟩
    obtain ⟨rfl, hkeeps, hlanguage⟩ := source?_eq_some_iff.1 hu
    exact ⟨hpath, hkeeps, hlanguage⟩
  · rintro ⟨hpath, hu⟩
    exact ⟨u.1, hpath, source?_eq_some_iff.2 ⟨rfl, hu⟩⟩

end Settings

namespace SourceTree

variable (t : SourceTree)

/-- The service that a source belongs to. -/
def serviceOf (u : SourceUnit) : String := Service.ofPath (t.root.join u.1)

/-- The facts of a source; one that cannot be read or is not well formed has none. -/
def factsOf (s : Settings) (u : SourceUnit) : Facts :=
  match t.read u.1 with
  | .ok text => (extract? s.rules u.2 (.ofString text)).getD .none
  | .error _ => .none

/-- The key of the first entry whose value is a piece of the text. -/
def calleeIn (urls : UrlTable) (text : String) : String :=
  ((urls.entries.find? fun e => e.2.value.toList <:+: text.toList).map Prod.fst).getD "unknown"

/-- The dependencies of a source: one for each call in a Java text that can be read. -/
def dependenciesOf (s : Settings) (u : SourceUnit) : List Dependency :=
  match u.2, t.read u.1 with
  | .java, .ok text =>
    (CallSite.find s.verbs text.toList).map fun call =>
      ⟨t.serviceOf u, calleeIn (UrlSurvey.ofTree t).value.table text, call.verb⟩
  | _, _ => []

end SourceTree

theorem calleeOf_eq (urls : UrlTable) (text : String) :
    calleeOf urls text.toList = SourceTree.calleeIn urls text := by
  have h : (fun e : String × UrlEntry => Text.occursIn e.2.value.toList text.toList) =
      fun e => decide (e.2.value.toList <:+: text.toList) := by
    funext e
    rw [Bool.eq_iff_iff, Text.occursIn_iff, decide_eq_true_iff]
  rw [calleeOf, UrlTable.resolve?, h]
  rfl

/-! ### Visits -/

namespace Settings

/-- Whether a source cannot be read. -/
def IsUnreadable (t : SourceTree) (u : SourceUnit) : Bool := (t.read u.1).toOption.isNone

/-- Whether a source can be read and is not well formed. -/
def IsMalformed (s : Settings) (t : SourceTree) (u : SourceUnit) : Bool :=
  (t.read u.1).toOption.any fun text => (extract? s.rules u.2 (.ofString text)).isNone

end Settings

namespace ScanProgress

/-- Lists a directory unless it is listed already. -/
def noteSubtree (dirs : List Path) (dir : Path) : List Path :=
  if dirs.any (·.same dir) then dirs else dirs ++ [dir]

/-- The progress after some paths, as the sum of what the sources among them add. -/
def after (s : Settings) (t : SourceTree) (p : ScanProgress) (paths : List Path) : ScanProgress :=
  let units := paths.filterMap s.source?
  { urls := p.urls
    dependencies := p.dependencies ++ units.flatMap (t.dependenciesOf s)
    contexts := units.foldl (fun c u => c.add (t.serviceOf u) (t.factsOf s u)) p.contexts
    stats := { p.stats with
      visited := p.stats.visited + paths.countP s.Keeps
      java := p.stats.java + units.countP fun u => u.2 = .java
      python := p.stats.python + units.countP fun u => u.2 = .python
      malformed := p.stats.malformed + units.countP (s.IsMalformed t)
      unreadable := p.stats.unreadable + units.countP (Settings.IsUnreadable t) }
    subtrees :=
      (paths.filterMap (·.excludedAncestor? s.excludedDirs)).foldl noteSubtree p.subtrees }

theorem after_nil (s : Settings) (t : SourceTree) (p : ScanProgress) : p.after s t [] = p := by
  simp [after]

theorem after_append (s : Settings) (t : SourceTree) (p : ScanProgress) (ps qs : List Path) :
    (p.after s t ps).after s t qs = p.after s t (ps ++ qs) := by
  simp [after, List.filterMap_append, List.foldl_append, Nat.add_assoc]

variable {s : Settings} {plan : ScanPlan}

/-- Reading a source adds what the source holds. -/
theorem value_source (h : s.plan = .ok plan) (t : SourceTree) (p : ScanProgress)
    (hurls : p.urls = (UrlSurvey.ofTree t).value.table) (path : Path) (language : Language) :
    (p.source plan t path language).value =
      { p with
        dependencies := p.dependencies ++ t.dependenciesOf s (path, language)
        contexts := p.contexts.add (t.serviceOf (path, language)) (t.factsOf s (path, language))
        stats := { p.stats with
          java := p.stats.java + if language = .java then 1 else 0
          python := p.stats.python + if language = .python then 1 else 0
          malformed := p.stats.malformed + if s.IsMalformed t (path, language) then 1 else 0
          unreadable := p.stats.unreadable +
            if Settings.IsUnreadable t (path, language) then 1 else 0 } } := by
  obtain ⟨hrules, hverbs, -, -⟩ := s.plan_eq_ok h
  cases hread : t.read path with
  | error e =>
    cases language <;>
      simp [source, hread, countLanguage, Contexts.mention, SourceTree.dependenciesOf,
        SourceTree.factsOf, SourceTree.serviceOf, Settings.IsMalformed, Settings.IsUnreadable,
        Except.toOption]
  | ok text =>
    cases hfacts : extract? s.rules language (.ofString text) with
    | none =>
      cases language <;>
        simp [source, hread, hfacts, hrules, hverbs, hurls, countLanguage, Language.hasCallSites,
          ScanPlan.dependencies, calleeOf_eq, Contexts.mention, SourceTree.dependenciesOf,
          SourceTree.factsOf, SourceTree.serviceOf, Settings.IsMalformed, Settings.IsUnreadable,
          Except.toOption]
    | some facts =>
      cases language <;>
        simp [source, hread, hfacts, hrules, hverbs, hurls, countLanguage, Language.hasCallSites,
          ScanPlan.dependencies, calleeOf_eq, Contexts.add_mention, SourceTree.dependenciesOf,
          SourceTree.factsOf, SourceTree.serviceOf, Settings.IsMalformed, Settings.IsUnreadable,
          Except.toOption]

/-- A visit adds what stands at the path, and notes a subtree that is left out. -/
theorem value_visit (h : s.plan = .ok plan) (t : SourceTree) (p : ScanProgress)
    (hurls : p.urls = (UrlSurvey.ofTree t).value.table) (path : Path) :
    (p.visit plan t path).value = p.after s t [path] := by
  have hdirs : plan.excludedDirs = s.excludedDirs := (s.plan_eq_ok h).2.2.1
  rw [visit, hdirs]
  cases hdir : path.excludedAncestor? s.excludedDirs with
  | some dir =>
    have hkeep : ¬ s.Keeps path := fun hk => by
      rw [(Path.excludedAncestor?_eq_none_iff s path).2 hk.1] at hdir
      cases hdir
    simp only [prune]
    by_cases hany : (p.subtrees.any (·.same dir)) = true <;>
      simp [after, Settings.source?, hkeep, hdir, noteSubtree, hany]
  | none =>
    have hprune := (Path.excludedAncestor?_eq_none_iff s path).1 hdir
    by_cases hex : s.Excludes path
    · have hkeep : ¬ s.Keeps path := fun hk => hk.2 hex
      simp [after, Settings.source?, hkeep, hdir, (ScanPlan.isExcluded_iff h path).2 hex]
    · have hkeep : s.Keeps path := ⟨hprune, hex⟩
      have hplan : ¬ plan.isExcluded path = true := fun hp =>
        hex ((ScanPlan.isExcluded_iff h path).1 hp)
      simp only [hplan]
      cases hlang : Language.ofPath? path with
      | none => simp [after, Settings.source?, hkeep, hdir, hlang]
      | some language =>
        simp only [Bool.false_eq_true, if_false]
        rw [value_source h t]
        · simp [after, Settings.source?, hkeep, hdir, hlang, List.countP_singleton]
        · exact hurls

theorem value_foldlM_visit (h : s.plan = .ok plan) (t : SourceTree) (paths : List Path)
    (p : ScanProgress) (hurls : p.urls = (UrlSurvey.ofTree t).value.table) :
    (paths.foldlM (visit plan t) p).value = p.after s t paths := by
  induction paths generalizing p with
  | nil => exact (after_nil s t p).symm
  | cons path paths ih =>
    have hnext : (p.after s t [path]).urls = (UrlSurvey.ofTree t).value.table := hurls
    rw [List.foldlM_cons, Logged.value_bind, value_visit h t p hurls, ih _ hnext, after_append,
      List.singleton_append]

end ScanProgress

/-! ### The run -/

/-- The facts of several sources, one source after the other. -/
def Facts.gather (facts : SourceUnit → Facts) (units : List SourceUnit) : Facts where
  endpoints := units.flatMap fun u => (facts u).endpoints
  entities := units.flatMap fun u => (facts u).entities

namespace Contexts

/-- Under a service stand the facts of its own sources, in their order. -/
theorem get?_foldl_add (service : SourceUnit → String) (facts : SourceUnit → Facts)
    {units : List SourceUnit} {u : SourceUnit} (hu : u ∈ units) :
    (units.foldl (fun c u => Contexts.add c (service u) (facts u)) .empty).get? (service u) =
      some (Facts.gather facts (units.filter fun v => service v = service u)) := by
  rw [get?_foldl_add_eq, if_pos (List.mem_map.2 ⟨u, hu, rfl⟩)]
  rfl

/-- The contexts that sources add up to: each service at the place of its first source, with the
facts of its own sources in their order. -/
theorem entries_foldl_add (service : SourceUnit → String) (facts : SourceUnit → Facts)
    (units : List SourceUnit) :
    (units.foldl (fun c u => Contexts.add c (service u) (facts u)) .empty).entries =
      ((units.map service).eraseDups).map fun name =>
        (name, Facts.gather facts (units.filter fun u => service u = name)) := by
  rw [OrderedMap.entries_eq_filterMap, keys_foldl_add, List.filterMap_congr]
  · exact congrFun List.filterMap_eq_map' _
  · intro name hname
    obtain ⟨u, hu, rfl⟩ := List.mem_map.1 (List.mem_eraseDups.1 hname)
    rw [get?_foldl_add service facts hu]
    rfl

end Contexts

namespace Scan

/-- Directories that are listed once each, however they are written. -/
private theorem components_foldl_noteSubtree (dirs noted : List Path)
    (h : (noted.map Path.components).Nodup) :
    (dirs.foldl ScanProgress.noteSubtree noted).map Path.components =
      (noted.map Path.components ++ dirs.map Path.components).eraseDups := by
  induction dirs generalizing noted with
  | nil => simp [eraseDups_of_nodup h]
  | cons dir dirs ih =>
    have hlisted : noted.any (·.same dir) = true ↔ dir.components ∈ noted.map Path.components := by
      simp [Path.same]
    rw [List.foldl_cons, ScanProgress.noteSubtree, List.map_cons]
    by_cases hdir : dir.components ∈ noted.map Path.components
    · rw [if_pos (hlisted.2 hdir), ih noted h, eraseDups_append_cons hdir]
    · have hnodup : ((noted ++ [dir]).map Path.components).Nodup := by
        rw [List.map_append, List.map_singleton, List.nodup_append_comm]
        exact List.nodup_cons.2 ⟨hdir, h⟩
      rw [if_neg (fun hl => hdir (hlisted.1 hl)), ih _ hnodup, List.map_append, List.append_assoc]
      rfl

/-- How many subtrees are left out on account of some paths. -/
def prunedCount (s : Settings) (paths : List Path) : Nat :=
  ((paths.filterMap (·.excludedAncestor? s.excludedDirs)).map Path.components).eraseDups.length

/-- A run as one value, made from the survey, the sources and the paths of the tree. -/
theorem value_run {s : Settings} {plan : ScanPlan} (h : s.plan = .ok plan) (t : SourceTree) :
    (run plan t).value = {
      urls := (UrlSurvey.ofTree t).value.table
      dependencies := (s.sources t).flatMap (t.dependenciesOf s)
      contexts := (s.sources t).foldl (fun c u => c.add (t.serviceOf u) (t.factsOf s u)) .empty
      stats := {
        visited := t.paths.countP s.Keeps
        java := (s.sources t).countP fun u => u.2 = .java
        python := (s.sources t).countP fun u => u.2 = .python
        malformed := (s.sources t).countP (s.IsMalformed t)
        unreadable := (s.sources t).countP (Settings.IsUnreadable t)
        configRead := (UrlSurvey.ofTree t).value.read
        configFailed := (UrlSurvey.ofTree t).value.failed
        pruned := prunedCount s t.paths } } := by
  have hpruned := congrArg List.length (components_foldl_noteSubtree
    (t.paths.filterMap (·.excludedAncestor? s.excludedDirs)) [] .nil)
  rw [List.length_map, List.map_nil, List.nil_append] at hpruned
  simp only [run, Logged.value_bind, Logged.value_pure,
    ScanProgress.value_foldlM_visit h t t.paths (start (UrlSurvey.ofTree t).value) rfl]
  simp [ScanProgress.after, start, Settings.sources, prunedCount, hpruned]

/-- A scan finds exactly this. The URL table is the one of the survey. The services are those of the
sources that are looked into, in order of first appearance, each with the facts of its own sources.
The dependencies are those of the sources, one after the other, and each file is counted for what
it is. -/
theorem run_eq_sum_of_sources (s : Settings) (plan : ScanPlan) (h : s.plan = .ok plan)
    (t : SourceTree) :
    let scan := (run plan t).value
    let survey := (UrlSurvey.ofTree t).value
    let units := s.sources t
    scan.urls = survey.table ∧
    scan.contexts.entries = ((units.map t.serviceOf).eraseDups).map (fun name =>
      (name, Facts.gather (t.factsOf s) (units.filter fun u => t.serviceOf u = name))) ∧
    scan.dependencies = units.flatMap (t.dependenciesOf s) ∧
    scan.stats = {
      visited := t.paths.countP s.Keeps
      java := units.countP fun u => u.2 = .java
      python := units.countP fun u => u.2 = .python
      malformed := units.countP (s.IsMalformed t)
      unreadable := units.countP (Settings.IsUnreadable t)
      configRead := survey.read
      configFailed := survey.failed
      pruned := (((t.paths.filterMap (·.excludedAncestor? s.excludedDirs)).map
        Path.components).eraseDups).length } := by
  have hrun := ScanProgress.value_foldlM_visit h t t.paths (start (UrlSurvey.ofTree t).value) rfl
  have hpruned := congrArg List.length (components_foldl_noteSubtree
    (t.paths.filterMap (·.excludedAncestor? s.excludedDirs)) [] .nil)
  rw [List.length_map, List.map_nil, List.nil_append] at hpruned
  simp only [run, Logged.value_bind, Logged.value_pure, hrun]
  refine ⟨rfl, Contexts.entries_foldl_add t.serviceOf (t.factsOf s) (s.sources t), rfl, ?_⟩
  simp [ScanProgress.after, start, Settings.sources, hpruned]

/-- Two services with facts, calls in a source that is well formed and in one that is not, files that
cannot be read or are malformed, and one that is left out with its directory. -/
theorem run_two_services :
    let t : SourceTree := ⟨⟨"/repo"⟩, [
      ⟨⟨"orders/application.properties"⟩, some "users.url=http://users\n"⟩,
      ⟨⟨"orders/src/Order.java"⟩, some ("@Entity\nclass Order \x7b\n  @GetMapping(\"/all\")\n" ++
        "  Object all(int n) \x7b return client.get(\"http://users/\"); \x7d\n\x7d\n")⟩,
      ⟨⟨"orders/src/Broken.java"⟩, some "class \x7b\n  client.post(\"http://mail/\");\n"⟩,
      ⟨⟨"users/src/app.py"⟩, some "@app.get(\"/u\")\ndef f(a):\n    pass\n"⟩,
      ⟨⟨"users/src/gone.py"⟩, none⟩, ⟨⟨"users/config.yml"⟩, some "[]"⟩,
      ⟨⟨"users/test/app.py"⟩, none⟩]⟩
    let plan : ScanPlan := ⟨Settings.default.rules, defaultVerbs, ["test"], []⟩
    Settings.default.plan = .ok plan ∧
    (run plan t).value.urls.entries =
      [("users.url", ⟨"http://users", .properties, ⟨"orders/application.properties"⟩⟩)] ∧
    (run plan t).value.contexts.entries =
      [("orders", ⟨[⟨"GetMapping", "/all", "Object", ["int"], 3⟩], [⟨"Order", 1⟩]⟩),
       ("users", ⟨[⟨"GET", "/u", "unknown", ["a"], 2⟩], []⟩)] ∧
    (run plan t).value.dependencies =
      [⟨"orders", "users.url", "get"⟩, ⟨"orders", "unknown", "post"⟩] ∧
    (run plan t).value.stats = ⟨6, 2, 2, 1, 1, 1, 1, 1⟩ := by
  intro t plan
  have h : Settings.default.plan = .ok plan := rfl
  obtain ⟨hurls, hcontexts, hdependencies, hstats⟩ :=
    run_eq_sum_of_sources Settings.default plan h t
  refine ⟨h, ?_⟩
  rw [hurls, hcontexts, hdependencies, hstats]
  decide +kernel

end Scan

end ServiceAtlas
