import ServiceAtlas.Proofs.CommandAgreement
import ServiceAtlas.Proofs.PathAncestors

/-!
Files that are looked for in a directory and, if they are not there, in the ones above it. What is
found in a directory hangs on its steps, not on how the path to it is written
(`Disk.fileBytes?_join`).
-/

namespace ServiceAtlas

namespace Disk

open ServiceAtlas.Path (Component)

variable {d : Disk} {p : Path} {start : Place} {segments : List (List Char)}

theorem walk_of_file (h : start.node.isDirectory = false) (hne : segments ≠ []) :
    walk start segments = .error .fileOnTheWay := by
  obtain ⟨segment, rest, rfl⟩ := List.exists_cons_of_ne_nil hne
  rw [walk, List.foldlM_cons, step, h]
  rfl

theorem step_of_ofSegment?_eq_none {segment : List Char} (h : start.node.isDirectory = true)
    (hsegment : Component.ofSegment? segment = none) : step start segment = .ok start := by
  have hblank : segment = [] ∨ segment = ['.'] := by
    rw [Component.ofSegment?] at hsegment
    split at hsegment
    · assumption
    · split at hsegment <;> cases hsegment
  rw [step, h]
  rcases hblank with rfl | rfl <;> rfl

/-- Segments that are no steps need a directory, as the name behind them does, and do not leave it. -/
theorem walk_filter_concat (start : Place) (segments : List (List Char)) (last : List Char) :
    walk start (segments.filter (fun segment => (Component.ofSegment? segment).isSome) ++ [last]) =
      walk start (segments ++ [last]) := by
  induction segments generalizing start with
  | nil => rfl
  | cons segment rest ih =>
    cases hdirectory : start.node.isDirectory with
    | false =>
      rw [walk_of_file hdirectory (by simp), walk_of_file hdirectory (by simp)]
    | true =>
      cases hsegment : Component.ofSegment? segment with
      | none =>
        rw [List.filter_cons_of_neg (by simp [hsegment]), ih, List.cons_append, walk, walk,
          List.foldlM_cons, step_of_ofSegment?_eq_none hdirectory hsegment]
        rfl
      | some found =>
        rw [List.filter_cons_of_pos (by simp [hsegment]), List.cons_append, List.cons_append, walk,
          walk, List.foldlM_cons, List.foldlM_cons]
        cases step start segment with
        | error fault => rfl
        | ok next => exact ih next

theorem locate_of_isAbsolute (h : p.isAbsolute = true) :
    d.locate p = walk ⟨[], [d.root]⟩ (Text.splitAtEach '/' p.text.toList) := by
  rw [locate, Path.isEmpty_of_isAbsolute h, h]
  rfl

theorem filter_isSome_ofSegment? (segments : List (List Char)) :
    segments.filter (fun segment => (Component.ofSegment? segment).isSome) =
      (segments.filterMap Component.ofSegment?).map fun step => step.text.toList := by
  induction segments with
  | nil => rfl
  | cons segment rest ih =>
    cases hsegment : Component.ofSegment? segment with
    | none =>
      rw [List.filter_cons_of_neg (by simp [hsegment]), List.filterMap_cons_none hsegment, ih]
    | some found =>
      rw [List.filter_cons_of_pos (by simp [hsegment]), List.filterMap_cons_some hsegment,
        List.map_cons, ih, Component.text_of_ofSegment? hsegment]

/-- The place that a file is at hangs on the steps that lead to it, however they are written. -/
theorem locate_eq_walk {front : List (List Char)} {last : List Char} (h : p.isAbsolute = true)
    (hsplit : Text.splitAtEach '/' p.text.toList = front ++ [last]) :
    d.locate p = walk ⟨[], [d.root]⟩
      ((front.filterMap Component.ofSegment?).map (fun step => step.text.toList) ++ [last]) := by
  rw [locate_of_isAbsolute h, hsplit, ← walk_filter_concat, filter_isSome_ofSegment?]

/-- The regular file of a name in the directory with the given steps. -/
def fileIn? (d : Disk) (steps : List Component) (name : String) : Option (List Nat) :=
  d.fileBytes? (.ofComponents (steps ++ [.name name]))

theorem fileBytes?_join {name : String} (h : p.isAbsolute = true)
    (hname : (Component.name name).IsInner) :
    d.fileBytes? (p.join ⟨name⟩) = d.fileIn? p.components name := by
  obtain ⟨habsolute, front, hsplit, hfront⟩ := Path.exists_segments_join h hname
  obtain ⟨hdirect, hwritten⟩ := Path.splitAtEach_ofComponents h hname
  have hsteps := Path.components_of_isAbsolute h
  have hread : (([] : List Char) :: (p.components.tail.map fun step => step.text.toList)).filterMap
      Component.ofSegment? = front.filterMap Component.ofSegment? := by
    rw [List.filterMap_cons_none rfl, Path.filterMap_ofSegment? (Path.isInner_of_mem_tail p), hfront,
      hsteps, List.tail_cons]
  rw [fileIn?, fileBytes?, fileBytes?, node?, node?, locate_eq_walk habsolute hsplit,
    locate_eq_walk hdirect hwritten, hread]

theorem isInner_projectFileName : (Component.name projectFileName).IsInner := by
  constructor <;> decide

theorem isInner_ignoreListName : (Component.name ignoreListName).IsInner := by
  constructor <;> decide

theorem value_ignorePatterns (d : Disk) (dirs : List Path) : (d.ignorePatterns dirs).value =
    ((dirs.findSome? fun q => (d.fileBytes? (q.join ⟨ignoreListName⟩)).bind Text.decode?).map
      patternsOf).getD [] := by
  induction dirs with
  | nil => rfl
  | cons dir above ih =>
    rw [ignorePatterns, List.findSome?_cons]
    cases hbytes : d.fileBytes? (dir.join ⟨ignoreListName⟩) with
    | none => exact ih
    | some bytes =>
      dsimp only [Option.bind_some]
      cases htext : Text.decode? bytes with
      | none => exact ih
      | some text => rfl

theorem isNearest_nearest? {name : String} (h : p.isAbsolute = true)
    (hname : (Component.name name).IsInner) :
    Path.IsNearest p.components
      (fun steps => (d.fileIn? steps name).map fun bytes => (steps ++ [.name name], bytes))
      ((d.nearest? name p).map fun file => (file.1.components, file.2)) := by
  rw [nearest?, List.map_findSome?]
  refine Path.isNearest_ancestors h fun q hq => ?_
  dsimp only [Function.comp_apply]
  rw [fileBytes?_join hq hname, Option.map_map]
  refine congrArg (Option.map · _) (funext fun bytes => ?_)
  rw [Function.comp_apply, Path.components_join hq hname]

theorem nearest?_congr {d' : Disk} {name : String} (h : p.isAbsolute = true)
    (hname : (Component.name name).IsInner)
    (hfiles : ∀ steps, steps <+: p.components → d'.fileIn? steps name = d.fileIn? steps name) :
    d'.nearest? name p = d.nearest? name p := by
  refine Path.findSome?_ancestors_congr h fun q hq hfront => ?_
  dsimp only
  rw [fileBytes?_join hq hname, fileBytes?_join hq hname, hfiles _ hfront]

theorem ignorePatterns_congr {d' : Disk} (h : p.isAbsolute = true)
    (hfiles : ∀ steps, steps <+: p.components →
      d'.fileIn? steps ignoreListName = d.fileIn? steps ignoreListName) :
    (d'.ignorePatterns p.ancestors).value = (d.ignorePatterns p.ancestors).value := by
  rw [value_ignorePatterns, value_ignorePatterns]
  rw [Path.findSome?_ancestors_congr h fun q hq hfront => ?_]
  rw [fileBytes?_join hq isInner_ignoreListName, fileBytes?_join hq isInner_ignoreListName,
    hfiles _ hfront]

end Disk

namespace Surroundings

theorem ignorePatterns_of_settings {s : Surroundings} {dir : Path} {o : Overrides}
    {r : Logged ResolvedSettings} (h : s.settings dir o = .ok r) :
    r.value.ignorePatterns = (s.disk.ignorePatterns dir.ancestors).value := by
  rw [settings_eq_map] at h
  obtain ⟨laid, -, rfl⟩ := exists_of_map_eq_ok h
  rfl

/-- The walk upwards from a directory passes the directory and all above it, up to the root. The
settings file of a project is the one in the deepest directory in which that name is a regular file.
The ignored patterns are those of the deepest list that is a regular file and can be read as text,
and there are none if there is no such list. Each choice hangs on the files of its own name only. -/
theorem nearest_files_decide (s : Surroundings) {dir : Path} (h : dir.isAbsolute = true) :
    dir.ancestors.map Path.components = dir.components.inits.tail.reverse ∧
    Path.IsNearest dir.components
      (fun steps => (s.disk.fileIn? steps projectFileName).map fun bytes =>
        (steps ++ [.name projectFileName], bytes))
      ((s.projectSettings? dir).map fun file => (file.1.components, file.2)) ∧
    (∃ text, Path.IsNearest dir.components
        (fun steps => (s.disk.fileIn? steps ignoreListName).bind Text.decode?) text ∧
      (s.disk.ignorePatterns dir.ancestors).value = (text.map Disk.patternsOf).getD [] ∧
      ∀ o r, s.settings dir o = .ok r →
        r.value.ignorePatterns = (text.map Disk.patternsOf).getD []) ∧
    ∀ d : Disk,
      ((∀ steps, steps <+: dir.components →
          d.fileIn? steps projectFileName = s.disk.fileIn? steps projectFileName) →
        { s with disk := d }.projectSettings? dir = s.projectSettings? dir) ∧
      ((∀ steps, steps <+: dir.components →
          d.fileIn? steps ignoreListName = s.disk.fileIn? steps ignoreListName) →
        (d.ignorePatterns dir.ancestors).value = (s.disk.ignorePatterns dir.ancestors).value) := by
  refine ⟨Path.map_components_ancestors h,
    Disk.isNearest_nearest? h Disk.isInner_projectFileName, ?_,
    fun d => ⟨Disk.nearest?_congr h Disk.isInner_projectFileName, Disk.ignorePatterns_congr h⟩⟩
  have hpatterns := Disk.value_ignorePatterns s.disk dir.ancestors
  refine ⟨_, Path.isNearest_ancestors h fun q hq => ?_, hpatterns, fun o r hr => ?_⟩
  · rw [Disk.fileBytes?_join hq Disk.isInner_ignoreListName]
  · rw [ignorePatterns_of_settings hr, hpatterns]

/-- A directory with the name of a settings file and a list that is no text are passed over. -/
theorem nearest_files_decide_passing_over :
    let disk : Disk := ⟨.directory [("p", .directory [(".svcmap.toml", .file [35]),
      (".svcmapignore", .file [97, 10]),
      ("q", .directory [(".svcmap.toml", .directory []), (".svcmapignore", .file [255])])])], []⟩
    let s : Surroundings := ⟨disk, {}, none⟩
    let dir : Path := ⟨"/p//q/."⟩
    dir.isAbsolute = true ∧
    Path.IsNearest dir.components
      (fun steps => (s.disk.fileIn? steps projectFileName).map fun bytes =>
        (steps ++ [.name projectFileName], bytes))
      (some ([.root, .name "p", .name ".svcmap.toml"], [35])) ∧
    ∃ text, Path.IsNearest dir.components
      (fun steps => (s.disk.fileIn? steps ignoreListName).bind Text.decode?) text ∧
      (text.map Disk.patternsOf).getD [] = ["a"] := by
  intro disk s dir
  have habsolute : dir.isAbsolute = true := by decide
  obtain ⟨-, hproject, ⟨text, htext, hpatterns, -⟩, -⟩ := nearest_files_decide s habsolute
  have hfound : (s.projectSettings? dir).map (fun file => (file.1.components, file.2)) =
      some ([.root, .name "p", .name ".svcmap.toml"], [35]) := by decide +kernel
  have hread : (s.disk.ignorePatterns dir.ancestors).value = ["a"] := by decide +kernel
  exact ⟨habsolute, hfound ▸ hproject, text, htext, hpatterns.symm.trans hread⟩

end Surroundings

end ServiceAtlas
