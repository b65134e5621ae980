import ServiceAtlas.Proofs.PathSteps

/-!
Pruning by subtrees. The directory that a path is left out with is the topmost one above it with an
excluded name. What lies below that directory has no excluded directory above it that is higher up, so
it is left out with the same one (`Path.excludedAncestor?_of_isBelow`), however the excluded names are
nested further down.
-/

namespace ServiceAtlas.Path

variable {p q d : Path} {excluded : List String} {dir : List Component}

/-- The path leads through the directory and at least one step further. -/
def IsBelow (q d : Path) : Prop := d.components <+: q.components.dropLast

instance (q d : Path) : Decidable (q.IsBelow d) :=
  inferInstanceAs (Decidable (d.components <+: q.components.dropLast))

theorem isBelow_join {r : Path} (hd : d.components ≠ []) (hr : r.isAbsolute = false)
    (hstep : ∃ step ∈ r.components, step ≠ .here) : (d.join r).IsBelow d := by
  have hne : r.components.filter (· ≠ .here) ≠ [] := by
    obtain ⟨step, hmem, hstep⟩ := hstep
    exact List.ne_nil_of_mem (List.mem_filter.2 ⟨hmem, decide_eq_true hstep⟩)
  rw [IsBelow, components_join_relative hd hr, List.dropLast_append_of_ne_nil hne]
  exact List.prefix_append _ _

/-- An excluded directory above both paths is the topmost one for both or for neither. -/
theorem IsTopmostExcludedDir.of_isPrefix (h : p.IsTopmostExcludedDir excluded dir)
    (hq : dir <+: q.components.dropLast) : q.IsTopmostExcludedDir excluded dir := by
  obtain ⟨⟨hdir, hname⟩, htop⟩ := h
  refine ⟨⟨hq, hname⟩, ?_⟩
  rintro dir' ⟨hdir', hname'⟩
  rcases List.prefix_or_prefix_of_prefix hq hdir' with hle | hle
  · exact hle
  · -- a directory above `dir` is above `p` too
    exact htop dir' ⟨hle.trans hdir, hname'⟩

theorem isTopmostExcludedDir_of_excludedAncestor? (h : p.excludedAncestor? excluded = some d) :
    p.IsTopmostExcludedDir excluded d.components := by
  apply (excludedAncestor?_eq_some_iff p excluded d.components).1
  rw [h]
  rfl

theorem components_ne_nil_of_excludedAncestor? (h : p.excludedAncestor? excluded = some d) :
    d.components ≠ [] := by
  obtain ⟨⟨-, name, -, hlast⟩, -⟩ := isTopmostExcludedDir_of_excludedAncestor? h
  exact List.ne_nil_of_mem (List.mem_of_getLast? hlast)

/-- The directory that is handed back is written in one way only. -/
theorem eq_ofComponents_of_excludedAncestor? (h : p.excludedAncestor? excluded = some d) :
    d = ofComponents d.components := by
  obtain ⟨dir, hfound, rfl⟩ := Option.map_eq_some_iff.1 h
  have hcomponents := components_excludedAncestor? p excluded
  rw [h, ← parentSteps, hfound] at hcomponents
  rw [Option.some_inj.1 hcomponents]

theorem excludedAncestor?_of_isBelow (h : p.excludedAncestor? excluded = some d)
    (hq : q.IsBelow d) : q.excludedAncestor? excluded = some d := by
  have htop := (isTopmostExcludedDir_of_excludedAncestor? h).of_isPrefix hq
  obtain ⟨d', hd', hcomponents⟩ :=
    Option.map_eq_some_iff.1 ((excludedAncestor?_eq_some_iff q excluded d.components).2 htop)
  rw [hd', eq_ofComponents_of_excludedAncestor? hd', hcomponents,
    ← eq_ofComponents_of_excludedAncestor? h]

/-- A path is left out when a directory above it has an excluded name, and with the topmost such
directory. What is joined to that directory is left out with it again, and so is all that lies below
it, but nothing else. -/
theorem pruned_by_subtrees (p : Path) (excluded : List String) :
    ((p.excludedAncestor? excluded).isSome = true ↔
      ∃ name ∈ excluded, .name name ∈ p.components.dropLast) ∧
    ∀ d, p.excludedAncestor? excluded = some d →
      p.IsTopmostExcludedDir excluded d.components ∧
      (∀ r : Path, r.isAbsolute = false → (∃ step ∈ r.components, step ≠ .here) →
        (d.join r).excludedAncestor? excluded = some d) ∧
      ∀ q : Path, q.excludedAncestor? excluded = some d ↔ q.IsBelow d := by
  refine ⟨isSome_excludedAncestor?_iff p excluded, fun d hd => ?_⟩
  refine ⟨isTopmostExcludedDir_of_excludedAncestor? hd, fun r hr hstep => ?_, fun q => ?_⟩
  · have hne := components_ne_nil_of_excludedAncestor? hd
    exact excludedAncestor?_of_isBelow hd (isBelow_join hne hr hstep)
  · constructor
    · intro hq
      exact (isTopmostExcludedDir_of_excludedAncestor? hq).1.1
    · exact excludedAncestor?_of_isBelow hd

/-- Below the topmost directory neither another excluded name nor a step back upwards counts, and what
lies beside it is not left out with it. -/
theorem pruned_by_subtrees_nested :
    excludedAncestor? ⟨"svc//test/gen/./test/T.java"⟩ ["gen", "test"] = some ⟨"svc/test"⟩ ∧
      excludedAncestor? (join ⟨"svc/test"⟩ ⟨"./gen/.."⟩) ["gen", "test"] = some ⟨"svc/test"⟩ ∧
      excludedAncestor? ⟨"svc/gen/test/T.java"⟩ ["gen", "test"] ≠ some ⟨"svc/test"⟩ := by
  have hfound :
      excludedAncestor? ⟨"svc//test/gen/./test/T.java"⟩ ["gen", "test"] = some ⟨"svc/test"⟩ := by
    decide
  obtain ⟨-, hjoin, hbelow⟩ := (pruned_by_subtrees _ _).2 _ hfound
  refine ⟨hfound, hjoin ⟨"./gen/.."⟩ (by decide) ⟨.up, by decide, by decide⟩, fun h => ?_⟩
  exact absurd ((hbelow _).1 h) (by decide)

end ServiceAtlas.Path
