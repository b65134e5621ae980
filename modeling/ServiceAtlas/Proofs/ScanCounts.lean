import ServiceAtlas.Proofs.RuleSelection
import ServiceAtlas.Proofs.ScanRun
import Mathlib.Data.Set.Card

/-!
The counters of a scan as counts of files. Each counter is settled by what stands at the paths of
the tree: by which paths are kept, by their extensions, and by what reading them gives. Every
source that is counted has exactly one outcome (`Settings.one_outcome`), every configuration file is
either read or failed (`UrlSurvey.files_visit`), and a subtree that is left out counts once.
-/

namespace ServiceAtlas

/-! ### Extensions -/

theorem Language.ofPath?_eq_java_iff (p : Path) :
    Language.ofPath? p = some .java ↔ p.extension? = some "java" := by
  rw [ofPath?]
  split <;> simp_all

theorem Language.ofPath?_eq_python_iff (p : Path) :
    Language.ofPath? p = some .python ↔ p.extension? = some "py" := by
  rw [ofPath?]
  split <;> simp_all

theorem Language.isSome_ofPath?_iff (p : Path) :
    (∃ l, Language.ofPath? p = some l) ↔ p.extension? ∈ [some "java", some "py"] := by
  rw [ofPath?]
  split <;> simp_all

theorem Dialect.isSome_ofPath?_iff (p : Path) :
    (Dialect.ofPath? p).isSome = true ↔
      p.extension? ∈ [some "properties", some "yml", some "yaml"] := by
  rw [ofPath?]
  split <;> simp_all

/-! ### Sources -/

namespace Settings

variable (s : Settings) (t : SourceTree)

/-- What is counted among the sources can be counted among the paths that are kept. -/
theorem countP_sources {P : SourceUnit → Bool} {Q : Path → Prop} [DecidablePred Q]
    (hPQ : ∀ p, (∃ l, Language.ofPath? p = some l ∧ P (p, l) = true) ↔ Q p) :
    (s.sources t).countP P = t.paths.countP fun p => s.Keeps p ∧ Q p := by
  rw [sources, List.countP_filterMap]
  refine List.countP_congr fun p _ => ?_
  rw [decide_eq_true_iff, ← hPQ p, source?]
  by_cases hkeeps : s.Keeps p
  · cases hlanguage : Language.ofPath? p <;> simp [hkeeps]
  · simp [hkeeps]

/-- Whether a source is read and is well formed. -/
def IsParsed (u : SourceUnit) : Bool :=
  (t.read u.1).toOption.any fun text => (SourceText.ofString text).isWellFormed u.2

/-- A source cannot be read, is malformed or is parsed, and only one of these. -/
theorem one_outcome (u : SourceUnit) :
    ((if IsUnreadable t u then 1 else 0) + (if s.IsMalformed t u then 1 else 0) +
      if IsParsed t u then 1 else 0) = 1 := by
  cases hread : t.read u.1 with
  | error e => simp [IsUnreadable, IsMalformed, IsParsed, hread, Except.toOption]
  | ok text =>
    have hsome := isSome_extract? s.rules u.2 (.ofString text)
    cases hfacts : extract? s.rules u.2 (.ofString text) <;> rw [hfacts] at hsome <;>
      simp [IsUnreadable, IsMalformed, IsParsed, hread, hfacts, ← hsome, Except.toOption]

/-- All sources are counted by language, and all of them by outcome. -/
theorem countP_languages (units : List SourceUnit) :
    units.countP (fun u => u.2 = .java) + units.countP (fun u => u.2 = .python) =
      units.countP (IsUnreadable t) + units.countP (s.IsMalformed t) +
        units.countP (IsParsed t) := by
  induction units with
  | nil => rfl
  | cons u units ih =>
    have hlanguage : ((if u.2 = .java then 1 else 0) + if u.2 = .python then 1 else 0) = 1 := by
      cases u.2 <;> rfl
    have houtcome := s.one_outcome t u
    simp only [List.countP_cons, decide_eq_true_eq]
    omega

end Settings

/-! ### Configuration files -/

namespace UrlSurvey

variable (t : SourceTree)

/-- A configuration file is read or fails, and other files are neither. -/
theorem files_visit (v : UrlSurvey) (p : Path) :
    (visit t v p).value.read + (visit t v p).value.failed =
      v.read + v.failed + if (Dialect.ofPath? p).isSome then 1 else 0 := by
  rw [visit]
  cases Dialect.ofPath? p with
  | none => rfl
  | some dialect =>
    cases t.read p with
    | error e => rfl
    | ok text =>
      cases hpairs : dialect.urlPairs text with
      | error e => simp only [hpairs]; rfl
      | ok pairs => simp only [hpairs, Option.isSome_some, if_true]; omega

theorem files_foldl_visit (paths : List Path) (v : UrlSurvey) :
    let w := paths.foldl (fun v p => (visit t v p).value) v
    w.read + w.failed = v.read + v.failed + paths.countP fun p => (Dialect.ofPath? p).isSome := by
  induction paths generalizing v with
  | nil => rfl
  | cons p paths ih =>
    simp only [List.foldl_cons, List.countP_cons]
    rw [ih, files_visit]
    omega

theorem files_ofTree :
    (ofTree t).value.read + (ofTree t).value.failed =
      t.paths.countP fun p => (Dialect.ofPath? p).isSome := by
  rw [ofTree, Logged.value_foldlM, files_foldl_visit]
  exact Nat.zero_add _

end UrlSurvey

/-! ### Subtrees -/

namespace Scan

/-- A subtree that is left out counts once, however many files lie in it. -/
theorem encard_topmost_dirs (s : Settings) (paths : List Path) :
    {dir | ∃ p ∈ paths, p.IsTopmostExcludedDir s.excludedDirs dir}.encard =
      prunedCount s paths := by
  have hdirs : {dir | ∃ p ∈ paths, p.IsTopmostExcludedDir s.excludedDirs dir} =
      ↑((paths.filterMap (·.excludedAncestor? s.excludedDirs)).map
        Path.components).eraseDups.toFinset := by
    ext dir
    rw [Finset.mem_coe, List.mem_toFinset, List.mem_eraseDups, List.mem_map]
    constructor
    · rintro ⟨p, hp, htop⟩
      obtain ⟨found, hfound, heq⟩ :=
        Option.map_eq_some_iff.1 ((p.excludedAncestor?_eq_some_iff _ dir).2 htop)
      exact ⟨found, List.mem_filterMap.2 ⟨p, hp, hfound⟩, heq⟩
    · rintro ⟨found, hmem, rfl⟩
      obtain ⟨p, hp, hfound⟩ := List.mem_filterMap.1 hmem
      exact ⟨p, hp, (p.excludedAncestor?_eq_some_iff _ _).1 (by rw [hfound]; rfl)⟩
  rw [hdirs, Set.encard_coe_eq_coe_finsetCard, List.toFinset_card_of_nodup (nodup_eraseDups _)]
  rfl

end Scan

/-- Counters that account for every file of a tree. -/
structure ScanStats.AccountFor (stats : ScanStats) (s : Settings) (t : SourceTree) : Prop where
  visited : stats.visited = t.paths.countP fun p => s.Keeps p
  java : stats.java = t.paths.countP fun p => s.Keeps p ∧ p.extension? = some "java"
  python : stats.python = t.paths.countP fun p => s.Keeps p ∧ p.extension? = some "py"
  unreadable : stats.unreadable = t.paths.countP fun p =>
    s.Keeps p ∧ p.extension? ∈ [some "java", some "py"] ∧ (t.read p).toOption = none
  outcomes : stats.java + stats.python = stats.unreadable + stats.malformed +
    t.paths.countP fun p => s.Keeps p ∧ (Language.ofPath? p).any fun l => Settings.IsParsed t (p, l)
  configs : stats.configRead + stats.configFailed =
    t.paths.countP fun p => p.extension? ∈ [some "properties", some "yml", some "yaml"]
  pruned : {dir | ∃ p ∈ t.paths, p.IsTopmostExcludedDir s.excludedDirs dir}.encard = stats.pruned

/-- The counters of a scan account for every file. -/
theorem Scan.stats_account {s : Settings} {plan : ScanPlan} (h : s.plan = .ok plan)
    (t : SourceTree) : (run plan t).value.stats.AccountFor s t := by
  rw [value_run h]
  refine ⟨rfl, s.countP_sources t fun p => ?_, s.countP_sources t fun p => ?_,
    s.countP_sources t fun p => ?_, ?_, ?_, encard_topmost_dirs s t.paths⟩
  · simpa using Language.ofPath?_eq_java_iff p
  · simpa using Language.ofPath?_eq_python_iff p
  · simp only [Settings.IsUnreadable, Option.isNone_iff_eq_none, exists_and_right,
      Language.isSome_ofPath?_iff]
  · rw [s.countP_languages t, ← s.countP_sources t fun p => (Option.any_eq_true _ _).symm]
  · rw [UrlSurvey.files_ofTree]
    refine List.countP_congr fun p _ => ?_
    rw [Dialect.isSome_ofPath?_iff, decide_eq_true_iff]

/-- One subtree, written in two ways and with another inside, and a file for every other counter. -/
theorem Scan.stats_account_mixed :
    let files : List SourceFile := [⟨⟨"a/test/x/test/T.java"⟩, none⟩, ⟨⟨"a//test/U.java"⟩, none⟩,
      ⟨⟨"a/test/t.yml"⟩, some "["⟩, ⟨⟨"a.properties"⟩, some "b.url=http://b"⟩,
      ⟨⟨"a/src/A.java"⟩, some "class"⟩, ⟨⟨"a/src/b.py"⟩, none⟩, ⟨⟨"a/src/c.py"⟩, some "c = 1\n"⟩,
      ⟨⟨"README"⟩, none⟩]
    let t : SourceTree := ⟨⟨"/repo"⟩, files⟩
    let plan : ScanPlan := ⟨Settings.default.rules, defaultVerbs, ["test"], []⟩
    Settings.default.plan = .ok plan ∧
      (run plan t).value.stats.AccountFor Settings.default t ∧
      (run plan t).value.stats = {
        visited := 5, java := 1, python := 2, malformed := 1, unreadable := 1,
        configRead := 1, configFailed := 1, pruned := 1 } := by
  intro files t plan
  have h : Settings.default.plan = .ok plan := rfl
  refine ⟨h, stats_account h t, ?_⟩
  rw [value_run h]
  decide +kernel

end ServiceAtlas
