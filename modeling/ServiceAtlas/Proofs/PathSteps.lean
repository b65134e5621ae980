import ServiceAtlas.Path
import Mathlib.Data.List.Infix

/-!
Paths and their steps. The steps of a path have a certain shape (`Path.IsSteps`), every front of
them has it too, and steps of this shape are read back from the path that they are written as
(`Path.components_ofComponents`). What is joined to a path adds its own steps
(`Path.components_join_relative`). So a directory above a path is a front of its steps, and the
topmost one with an excluded name is the least such front (`Path.excludedAncestor?_eq_some_iff`).
-/

namespace ServiceAtlas

/-! ### Cutting at separators -/

namespace Text

variable {α : Type} [DecidableEq α]

theorem splitAtEach_eq_splitOn (sep : α) (cs : List α) : splitAtEach sep cs = cs.splitOn sep := by
  induction cs with
  | nil => rfl
  | cons c cs ih =>
    rw [splitAtEach, ih, List.splitOn_cons_eq_if_modifyHead]
    by_cases hc : c = sep
    · simp [hc]
    · rw [if_neg hc, if_neg (by simpa using hc)]
      cases hpieces : List.splitOn sep cs with
      | nil => exact (List.splitOn_ne_nil sep cs hpieces).elim
      | cons piece pieces => rfl

/-- No piece has a separator in it. -/
theorem not_mem_of_mem_splitAtEach {sep : α} {cs piece : List α} (h : piece ∈ splitAtEach sep cs) :
    sep ∉ piece := by
  induction cs generalizing piece with
  | nil => simp_all [splitAtEach]
  | cons c cs ih =>
    rw [splitAtEach] at h
    split at h
    · rcases List.mem_cons.1 h with rfl | h
      · exact List.not_mem_nil
      · exact ih h
    · rename_i hc
      split at h
      · rw [List.mem_singleton.1 h]
        simpa using Ne.symm hc
      · rename_i first pieces hpieces
        rcases List.mem_cons.1 h with rfl | h
        · have hfirst : sep ∉ first := ih (hpieces ▸ List.mem_cons_self)
          simp [hfirst, Ne.symm hc]
        · exact ih (hpieces ▸ List.mem_cons_of_mem _ h)

theorem exists_splitAtEach_eq_cons (sep : α) (cs : List α) :
    ∃ first rest, splitAtEach sep cs = first :: rest := by
  refine List.exists_cons_of_ne_nil ?_
  rw [splitAtEach_eq_splitOn]
  exact List.splitOn_ne_nil sep cs

theorem splitAtEach_of_not_mem {sep : α} {piece : List α} (h : sep ∉ piece) :
    splitAtEach sep piece = [piece] := by
  rw [splitAtEach_eq_splitOn]
  exact List.splitOn_eq_singleton h

theorem splitAtEach_append (sep : α) (front back : List α) :
    splitAtEach sep (front ++ sep :: back) = splitAtEach sep front ++ splitAtEach sep back := by
  rw [splitAtEach_eq_splitOn, splitAtEach_eq_splitOn, splitAtEach_eq_splitOn]
  exact List.splitOn_append_cons_self front back

end Text

namespace Path

/-! ### The shape of steps -/

namespace Component

/-- A step that may stand anywhere: its text is one segment, and the segment is this step. -/
def IsInner (step : Component) : Prop :=
  '/' ∉ step.text.toList ∧ ofSegment? step.text.toList = some step

theorem text_of_ofSegment? {segment : List Char} {step : Component}
    (h : ofSegment? segment = some step) : step.text.toList = segment := by
  rw [ofSegment?] at h
  split at h
  · cases h
  · split at h
    · rename_i hup
      cases h
      rw [hup]
      rfl
    · cases h
      exact String.toList_ofList

theorem isInner_of_ofSegment? {segment : List Char} {step : Component} (hsegment : '/' ∉ segment)
    (h : ofSegment? segment = some step) : step.IsInner := by
  rw [IsInner, text_of_ofSegment? h]
  exact ⟨hsegment, h⟩

theorem IsInner.ne_dot {step : Component} (h : step.IsInner) : step.text.toList ≠ ['.'] := by
  intro hdot
  have hread := h.2
  rw [hdot] at hread
  cases hread

theorem IsInner.ne_nil {step : Component} (h : step.IsInner) : step.text.toList ≠ [] := by
  intro hnil
  have hread := h.2
  rw [hnil] at hread
  cases hread

end Component

/-- The root and a `.` stand at the beginning or not at all. -/
def IsSteps : List Component → Prop
  | [] => True
  | first :: rest => (first = .root ∨ first = .here ∨ first.IsInner) ∧ ∀ step ∈ rest, step.IsInner

theorem isSteps_of_isInner {steps : List Component} (h : ∀ step ∈ steps, step.IsInner) :
    IsSteps steps := by
  cases steps with
  | nil => trivial
  | cons first rest =>
    exact ⟨.inr (.inr (h first List.mem_cons_self)), fun step hstep =>
      h step (List.mem_cons_of_mem _ hstep)⟩

theorem isSteps_components (p : Path) : IsSteps p.components := by
  have hinner : ∀ segments ⊆ Text.splitAtEach '/' p.text.toList,
      ∀ step ∈ segments.filterMap Component.ofSegment?, step.IsInner := by
    intro segments hsegments step hstep
    obtain ⟨segment, hsegment, hread⟩ := List.mem_filterMap.1 hstep
    exact Component.isInner_of_ofSegment?
      (Text.not_mem_of_mem_splitAtEach (hsegments hsegment)) hread
  rw [components]
  split
  · trivial
  · rename_i first rest hsplit
    rw [hsplit] at hinner
    have hrest := hinner rest (List.subset_cons_self first rest)
    split
    · exact ⟨.inl rfl, hrest⟩
    · split
      · exact ⟨.inr (.inl rfl), hrest⟩
      · exact isSteps_of_isInner (hinner _ (List.Subset.refl _))

theorem IsSteps.of_prefix {front steps : List Component} (h : IsSteps steps)
    (hfront : front <+: steps) : IsSteps front := by
  cases front with
  | nil => trivial
  | cons first rest =>
    obtain ⟨back, rfl⟩ := hfront
    exact ⟨h.1, fun step hstep => h.2 step (List.mem_append_left _ hstep)⟩

/-! ### Writing and reading -/

/-- The segments of steps that are written one after the other. -/
theorem splitAtEach_intercalate {steps : List Component} (hne : steps ≠ [])
    (h : ∀ step ∈ steps, '/' ∉ step.text.toList) :
    Text.splitAtEach '/' ("/".intercalate (steps.map Component.text)).toList =
      steps.map fun step => step.text.toList := by
  have hsegments : (steps.map Component.text).map String.toList =
      steps.map fun step => step.text.toList := List.map_map
  rw [String.toList_intercalate, hsegments, Text.splitAtEach_eq_splitOn]
  refine List.splitOn_intercalate '/' (fun segment hsegment => ?_) (by simpa using hne)
  obtain ⟨step, hstep, rfl⟩ := List.mem_map.1 hsegment
  exact h step hstep

theorem filterMap_ofSegment? {steps : List Component} (h : ∀ step ∈ steps, step.IsInner) :
    (steps.map fun step => step.text.toList).filterMap Component.ofSegment? = steps := by
  rw [List.filterMap_map]
  calc steps.filterMap (Component.ofSegment? ∘ fun step => step.text.toList)
      = steps.filterMap some := List.filterMap_congr fun step hstep => (h step hstep).2
    _ = steps := List.filterMap_some

/-- What begins with a step other than the root is no absolute path. -/
theorem isAbsolute_intercalate {first : Component} (rest : List Component)
    (hne : first.text.toList ≠ []) (h : '/' ∉ first.text.toList) :
    isAbsolute ⟨"/".intercalate ((first :: rest).map Component.text)⟩ = false := by
  obtain ⟨c, cs, hfirst⟩ := List.exists_cons_of_ne_nil hne
  have hc : c ≠ '/' := fun e => h (by simp [hfirst, e])
  have hhead : ("/".intercalate ((first :: rest).map Component.text)).toList.head? = some c := by
    rw [String.toList_intercalate, List.map_cons, List.map_cons, hfirst]
    cases rest with
    | nil => rfl
    | cons second rest => rw [List.map_cons, List.map_cons, List.intercalate_cons_cons]; rfl
  rw [isAbsolute, hhead]
  simpa using hc

theorem components_absolute {rest : List Component} (hrest : ∀ step ∈ rest, step.IsInner) :
    (ofComponents (.root :: rest)).components = .root :: rest := by
  have hsplit : Text.splitAtEach '/' (ofComponents (.root :: rest)).text.toList =
      [] :: Text.splitAtEach '/' ("/".intercalate (rest.map Component.text)).toList := by
    rw [ofComponents, String.toList_append]
    rfl
  have habsolute : isAbsolute (ofComponents (.root :: rest)) = true := by
    rw [ofComponents, isAbsolute, String.toList_append]
    rfl
  rw [components, hsplit]
  simp only [habsolute, if_true]
  cases rest with
  | nil => rfl
  | cons step steps =>
    rw [splitAtEach_intercalate (List.cons_ne_nil _ _) fun step hstep => (hrest step hstep).1,
      filterMap_ofSegment? hrest]

theorem components_relative {first : Component} {rest : List Component}
    (hfirst : first = .here ∨ first.IsInner) (hrest : ∀ step ∈ rest, step.IsInner) :
    components ⟨"/".intercalate ((first :: rest).map Component.text)⟩ = first :: rest := by
  have hfree : '/' ∉ first.text.toList := by
    rcases hfirst with rfl | hfirst
    · decide
    · exact hfirst.1
  have hne : first.text.toList ≠ [] := by
    rcases hfirst with rfl | hfirst
    · decide
    · exact hfirst.ne_nil
  have hsteps : ∀ step ∈ first :: rest, '/' ∉ step.text.toList := by
    intro step hstep
    rcases List.mem_cons.1 hstep with rfl | hstep
    · exact hfree
    · exact (hrest step hstep).1
  rw [components, splitAtEach_intercalate (List.cons_ne_nil _ _) hsteps, List.map_cons]
  simp only [isAbsolute_intercalate rest hne hfree, Bool.false_eq_true, if_false]
  rcases hfirst with rfl | hfirst
  · exact congrArg (Component.here :: ·) (filterMap_ofSegment? hrest)
  · rw [if_neg hfirst.ne_dot, ← List.map_cons (f := fun step : Component => step.text.toList)]
    refine filterMap_ofSegment? fun step hstep => ?_
    rcases List.mem_cons.1 hstep with rfl | hstep
    · exact hfirst
    · exact hrest step hstep

/-- Steps are read back from the path that they are written as. -/
theorem components_ofComponents {steps : List Component} (h : IsSteps steps) :
    (ofComponents steps).components = steps := by
  cases steps with
  | nil => rfl
  | cons first rest =>
    obtain ⟨hfirst, hrest⟩ := h
    cases first with
    | root => exact components_absolute hrest
    | here => exact components_relative (.inl rfl) hrest
    | up => exact components_relative (.inr ⟨by decide, rfl⟩) hrest
    | name s =>
      rcases hfirst with hroot | hhere | hinner
      · cases hroot
      · cases hhere
      · exact components_relative (.inr hinner) hrest

/-! ### Segments and joining -/

section

variable {p q : Path} {first : List Char} {rest more : List (List Char)}

/-- The steps that the first segment of a path makes. -/
def topSteps (absolute : Bool) (first : List Char) : List Component :=
  if absolute then [.root]
  else if first = ['.'] then [.here]
  else (Component.ofSegment? first).toList

theorem components_eq_topSteps (h : Text.splitAtEach '/' p.text.toList = first :: rest) :
    p.components = topSteps p.isAbsolute first ++ rest.filterMap Component.ofSegment? := by
  rw [components, h, topSteps]
  cases p.isAbsolute with
  | true => rfl
  | false =>
    by_cases hdot : first = ['.']
    · simp [hdot]
    · cases hstep : Component.ofSegment? first <;> simp [hdot, hstep]

/-- Segments behind those of a path add the steps among them. -/
theorem components_of_splitAtEach_append (habsolute : q.isAbsolute = p.isAbsolute)
    (h : Text.splitAtEach '/' q.text.toList = Text.splitAtEach '/' p.text.toList ++ more) :
    q.components = p.components ++ more.filterMap Component.ofSegment? := by
  obtain ⟨first, rest, hsplit⟩ := Text.exists_splitAtEach_eq_cons '/' p.text.toList
  rw [hsplit, List.cons_append] at h
  rw [components_eq_topSteps h, components_eq_topSteps hsplit, habsolute, List.filterMap_append,
    List.append_assoc]

theorem ne_of_ofSegment? {segment : List Char} {step : Component}
    (h : Component.ofSegment? segment = some step) : step ≠ .root ∧ step ≠ .here := by
  rw [Component.ofSegment?] at h
  split at h
  · cases h
  · split at h <;> cases h <;> exact ⟨nofun, nofun⟩

/-- The steps of a relative path without a `.` at the beginning are those that its segments are. -/
theorem filter_components (h : p.isAbsolute = false) :
    p.components.filter (· ≠ .here) =
      (Text.splitAtEach '/' p.text.toList).filterMap Component.ofSegment? := by
  have hinner (segments : List (List Char)) :
      (segments.filterMap Component.ofSegment?).filter (· ≠ .here) =
        segments.filterMap Component.ofSegment? := by
    refine List.filter_eq_self.2 fun step hstep => decide_eq_true ?_
    obtain ⟨segment, -, hsegment⟩ := List.mem_filterMap.1 hstep
    exact (ne_of_ofSegment? hsegment).2
  obtain ⟨first, rest, hsplit⟩ := Text.exists_splitAtEach_eq_cons '/' p.text.toList
  rw [components_eq_topSteps hsplit, hsplit, List.filter_append, hinner, h, topSteps,
    if_neg Bool.false_ne_true]
  by_cases hdot : first = ['.']
  · rw [if_pos hdot, hdot]
    rfl
  · rw [if_neg hdot]
    cases hstep : Component.ofSegment? first with
    | none => simp [hstep]
    | some step => simp [hstep, (ne_of_ofSegment? hstep).2]

theorem isAbsolute_append_of_ne_nil (hne : p.text ≠ "") (more : String) :
    isAbsolute ⟨p.text ++ more⟩ = p.isAbsolute := by
  obtain ⟨c, cs, htext⟩ := List.exists_cons_of_ne_nil fun h => hne (String.toList_eq_nil_iff.1 h)
  rw [isAbsolute, isAbsolute, String.toList_append, htext]
  rfl

theorem components_join_relative (hp : p.components ≠ []) (hq : q.isAbsolute = false) :
    (p.join q).components = p.components ++ q.components.filter (· ≠ .here) := by
  have hne : p.text ≠ "" := by
    intro hempty
    apply hp
    rw [show p = ⟨""⟩ from congrArg Path.mk hempty]
    rfl
  rw [join, hq, filter_components hq]
  simp only [Bool.false_eq_true, if_false, Bool.or_eq_true, String.isEmpty_iff, hne, false_or,
    decide_eq_true_eq]
  split
  · rename_i hlast
    -- the separator at the end is not written again, so the last segment of `p`, an empty one, is lost
    obtain ⟨front, hfront⟩ := List.getLast?_eq_some_iff.1 hlast
    obtain ⟨first, rest, hsplit⟩ := Text.exists_splitAtEach_eq_cons '/' front
    have hp' : Text.splitAtEach '/' p.text.toList = first :: (rest ++ [[]]) := by
      rw [hfront, Text.splitAtEach_append, hsplit]
      rfl
    have hjoined : Text.splitAtEach '/' (p.text ++ q.text).toList =
        first :: (rest ++ Text.splitAtEach '/' q.text.toList) := by
      rw [String.toList_append, hfront, List.append_assoc, List.singleton_append,
        Text.splitAtEach_append, hsplit, List.cons_append]
    rw [components_eq_topSteps hjoined, components_eq_topSteps hp', isAbsolute_append_of_ne_nil hne,
      List.filterMap_append, List.filterMap_append, List.append_assoc, List.append_assoc]
    rfl
  · refine components_of_splitAtEach_append ?_ ?_
    · rw [String.append_assoc, isAbsolute_append_of_ne_nil hne]
    · rw [String.append_assoc, String.toList_append, String.toList_append]
      exact Text.splitAtEach_append '/' p.text.toList q.text.toList

end

/-! ### Excluded directories -/

/-- A directory above the path, as a front of its steps, with one of the excluded names. -/
def IsExcludedDir (p : Path) (excluded : List String) (dir : List Component) : Prop :=
  dir <+: p.components.dropLast ∧ ∃ name ∈ excluded, dir.getLast? = some (.name name)

/-- The excluded directory above the path that all other such directories lie below. -/
def IsTopmostExcludedDir (p : Path) (excluded : List String) (dir : List Component) : Prop :=
  p.IsExcludedDir excluded dir ∧ ∀ dir', p.IsExcludedDir excluded dir' → dir <+: dir'

theorem firstNamed_eq_none_iff (wanted : List String) (above steps : List Component) :
    firstNamed wanted above steps = none ↔ ∀ name ∈ wanted, .name name ∉ steps := by
  induction steps generalizing above with
  | nil => simp [firstNamed]
  | cons step rest ih =>
    cases step with
    | name s =>
      rw [firstNamed]
      split
      · rename_i hs
        simp only [reduceCtorEq, false_iff]
        exact fun h => h s hs (by simp)
      · rename_i hs
        rw [ih]
        refine forall₂_congr fun name hname => ?_
        have hne : name ≠ s := fun e => hs (e ▸ hname)
        simp [hne]
    | _ => simp [firstNamed, ih]

/-- The search stops at the first wanted name and hands back all it has passed. -/
theorem firstNamed_eq_some {wanted : List String} {above steps dir : List Component}
    (h : firstNamed wanted above steps = some dir) :
    ∃ front name back, steps = front ++ .name name :: back ∧ name ∈ wanted ∧
      (∀ other ∈ wanted, .name other ∉ front) ∧ dir = above ++ front ++ [.name name] := by
  fun_induction firstNamed wanted above steps with
  | case1 above => cases h
  | case2 above rest name hname =>
    cases h
    exact ⟨[], name, rest, rfl, hname, by simp, by simp⟩
  | case3 above rest s hs ih =>
    obtain ⟨front, name, back, rfl, hname, hfront, rfl⟩ := ih h
    refine ⟨.name s :: front, name, back, rfl, hname, fun other hother hmem => ?_, by simp⟩
    rcases List.mem_cons.1 hmem with heq | hmem
    · cases heq
      exact hs hother
    · exact hfront other hother hmem
  | case4 above step rest hstep ih =>
    obtain ⟨front, name, back, rfl, hname, hfront, rfl⟩ := ih h
    refine ⟨step :: front, name, back, rfl, hname, fun other hother hmem => ?_, by simp⟩
    rcases List.mem_cons.1 hmem with heq | hmem
    · exact hstep other heq.symm
    · exact hfront other hother hmem

theorem isTopmostExcludedDir_of_firstNamed {p : Path} {excluded : List String}
    {dir : List Component} (h : firstNamed excluded [] p.components.dropLast = some dir) :
    p.IsTopmostExcludedDir excluded dir := by
  obtain ⟨front, name, back, hsteps, hname, hfront, rfl⟩ := firstNamed_eq_some h
  rw [List.nil_append]
  have hdir : front ++ [.name name] <+: p.components.dropLast := by
    rw [hsteps]
    exact ⟨back, by simp⟩
  refine ⟨⟨hdir, name, hname, by simp⟩, ?_⟩
  rintro dir' ⟨hdir', other, hother, hlast⟩
  rcases List.prefix_or_prefix_of_prefix hdir hdir' with hle | hle
  · exact hle
  · -- above the first excluded name there is no other
    rcases List.prefix_concat_iff.1 hle with rfl | hle
    · exact List.prefix_rfl
    · exact (hfront other hother (hle.subset (List.mem_of_getLast? hlast))).elim

theorem IsTopmostExcludedDir.unique {p : Path} {excluded : List String} {dir dir' : List Component}
    (h : p.IsTopmostExcludedDir excluded dir) (h' : p.IsTopmostExcludedDir excluded dir') :
    dir = dir' :=
  (h.2 dir' h'.1).eq_of_length_le (h'.2 dir h.1).length_le

/-- The directory that is handed back is the front of the steps that was found. -/
theorem components_excludedAncestor? (p : Path) (excluded : List String) :
    (p.excludedAncestor? excluded).map components =
      firstNamed excluded [] p.components.dropLast := by
  rw [excludedAncestor?, parentSteps, Option.map_map]
  cases hfound : firstNamed excluded [] p.components.dropLast with
  | none => rfl
  | some dir =>
    have hdir : dir <+: p.components :=
      (isTopmostExcludedDir_of_firstNamed hfound).1.1.trans (List.dropLast_prefix _)
    exact congrArg some (components_ofComponents (p.isSteps_components.of_prefix hdir))

/-- A path is left out when a directory above it has an excluded name. -/
theorem isSome_excludedAncestor?_iff (p : Path) (excluded : List String) :
    (p.excludedAncestor? excluded).isSome = true ↔
      ∃ name ∈ excluded, .name name ∈ p.components.dropLast := by
  rw [← Option.ne_none_iff_isSome, excludedAncestor?, Ne, Option.map_eq_none_iff,
    firstNamed_eq_none_iff, parentSteps]
  simp

/-- A path is left out with the topmost directory above it that has an excluded name. -/
theorem excludedAncestor?_eq_some_iff (p : Path) (excluded : List String) (dir : List Component) :
    (p.excludedAncestor? excluded).map components = some dir ↔
      p.IsTopmostExcludedDir excluded dir := by
  rw [components_excludedAncestor?]
  refine ⟨isTopmostExcludedDir_of_firstNamed, fun htop => ?_⟩
  cases hfound : firstNamed excluded [] p.components.dropLast with
  | none =>
    obtain ⟨hdir, name, hname, hlast⟩ := htop.1
    have hmem : .name name ∈ p.components.dropLast := hdir.subset (List.mem_of_getLast? hlast)
    exact ((firstNamed_eq_none_iff _ _ _).1 hfound name hname hmem).elim
  | some found => rw [htop.unique (isTopmostExcludedDir_of_firstNamed hfound)]

end Path

end ServiceAtlas
