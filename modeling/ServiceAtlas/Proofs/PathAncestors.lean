import ServiceAtlas.Proofs.PathSteps

/-!
The way upwards from an absolute path. The path above it has its steps without the last
(`Path.parent?_of_isAbsolute`), so the walk goes through all fronts of the steps
(`Path.map_components_ancestors`), and the first thing found on it is the one in the deepest directory
(`Path.isNearest_ancestors`).
-/

namespace ServiceAtlas

/-! ### The path above a path -/

theorem Text.length_splitAtEach {α : Type} [DecidableEq α] (sep : α) (cs : List α) :
    (splitAtEach sep cs).length = cs.count sep + 1 := by
  induction cs with
  | nil => rfl
  | cons c cs ih =>
    rw [splitAtEach, List.count_cons]
    split
    · rename_i hc
      rw [List.length_cons, ih]
      simp [hc]
    · rename_i hc
      cases hpieces : splitAtEach sep cs with
      | nil => rw [hpieces] at ih; cases ih
      | cons piece pieces =>
        rw [hpieces] at ih
        simpa [hc] using ih

theorem Text.splitAtEach_intercalate_segments {segments : List (List Char)} (hne : segments ≠ [])
    (h : ∀ segment ∈ segments, '/' ∉ segment) :
    splitAtEach '/' (List.intercalate ['/'] segments) = segments := by
  rw [splitAtEach_eq_splitOn]
  exact List.splitOn_intercalate '/' h hne

namespace Path

variable {p : Path} {top : String} {first : List Char} {segments : List (List Char)}

/-- The segments of an absolute path, of which the first is empty. -/
theorem exists_segments (h : p.isAbsolute = true) :
    ∃ rest, Text.splitAtEach '/' p.text.toList = [] :: rest ∧
      p.components = .root :: rest.filterMap Component.ofSegment? := by
  have hhead : p.text.toList.head? = some '/' := of_decide_eq_true h
  cases htext : p.text.toList with
  | nil => rw [htext] at hhead; cases hhead
  | cons c cs =>
    rw [htext] at hhead
    cases hhead
    have hsplit : Text.splitAtEach '/' ('/' :: cs) = [] :: Text.splitAtEach '/' cs := rfl
    refine ⟨Text.splitAtEach '/' cs, hsplit, ?_⟩
    rw [components_eq_topSteps (htext ▸ hsplit), h]
    rfl

theorem isEmpty_first (h : Text.splitAtEach '/' p.text.toList = first :: segments)
    (hne : p.text ≠ "") : first.isEmpty = p.isAbsolute := by
  obtain ⟨c, cs, htext⟩ := List.exists_cons_of_ne_nil fun h => hne (String.toList_eq_nil_iff.1 h)
  rw [htext, Text.splitAtEach] at h
  rw [isAbsolute, htext]
  by_cases hc : c = '/'
  · rw [if_pos hc] at h
    cases h
    simp [hc]
  · rw [if_neg hc] at h
    split at h <;> cases h <;> simp [hc]

/-- What is written with at least two segments has the steps among them. -/
theorem components_intercalate (hne : segments ≠ [])
    (h : ∀ segment ∈ first :: segments, '/' ∉ segment) :
    components ⟨String.ofList (List.intercalate ['/'] (first :: segments))⟩ =
      topSteps first.isEmpty first ++ segments.filterMap Component.ofSegment? := by
  have hsplit : Text.splitAtEach '/'
      (Path.mk (String.ofList (List.intercalate ['/'] (first :: segments)))).text.toList =
        first :: segments := by
    rw [String.toList_ofList]
    exact Text.splitAtEach_intercalate_segments (List.cons_ne_nil _ _) h
  rw [components_eq_topSteps hsplit, isEmpty_first hsplit]
  obtain ⟨second, rest, rfl⟩ := List.exists_cons_of_ne_nil hne
  rw [List.intercalate_cons_cons]
  simp

/-- The texts up to the end of each step, if the first segment ends with `top`. -/
def endsIn (top : String) (first : List Char) (segments : List (List Char)) : List String :=
  top :: ((List.range segments.length).filter fun n =>
    (Component.ofSegment? (segments.getD n [])).isSome).map fun n =>
      String.ofList (List.intercalate ['/'] (first :: segments.take (n + 1)))

theorem isSome_ofSegment? (segment : List Char) :
    (Component.ofSegment? segment).isSome = (!segment.isEmpty && segment ≠ ['.']) := by
  rw [Component.ofSegment?]
  split
  · rename_i h
    rcases h with rfl | rfl <;> rfl
  · rename_i h
    rw [not_or] at h
    have hempty : segment.isEmpty = false := List.isEmpty_eq_false_iff.2 h.1
    split <;> simp [hempty, h.2]

theorem stepEnds_eq_endsIn (hne : p.text ≠ "")
    (hsplit : Text.splitAtEach '/' p.text.toList = first :: segments) :
    p.stepEnds = endsIn (if p.isAbsolute then "/" else String.ofList first) first segments := by
  have hfirst := isEmpty_first hsplit hne
  simp only [stepEnds, hsplit, List.length_cons, List.range_succ_eq_map, endsIn]
  rw [List.filter_cons_of_pos (by simp [hfirst]), List.map_cons, List.filter_map, List.map_map]
  refine congrArg₂ List.cons ?_ ?_
  · simp [List.intercalate]
  · have hsteps : (List.range segments.length).filter
        ((fun n => if ((first :: segments).getD n []).isEmpty = true then
          decide (n = 0) && p.isAbsolute
          else decide ((first :: segments).getD n [] ≠ ['.']) || decide (n = 0)) ∘ Nat.succ) =
        (List.range segments.length).filter fun n =>
          (Component.ofSegment? (segments.getD n [])).isSome := by
      refine List.filter_congr fun n _ => ?_
      rw [isSome_ofSegment?]
      cases hempty : (segments.getD n []).isEmpty <;> simp_all
    rw [hsteps]
    rfl

theorem endsIn_concat (top : String) (first : List Char) (segments : List (List Char))
    (segment : List Char) :
    endsIn top first (segments ++ [segment]) = endsIn top first segments ++
      if (Component.ofSegment? segment).isSome then
        [String.ofList (List.intercalate ['/'] (first :: (segments ++ [segment])))] else [] := by
  have hbefore : ∀ n ∈ List.range segments.length,
      (segments ++ [segment]).getD n [] = segments.getD n [] ∧
        (segments ++ [segment]).take (n + 1) = segments.take (n + 1) := by
    intro n hn
    have hlt := List.mem_range.1 hn
    refine ⟨?_, List.take_append_of_le_length hlt⟩
    rw [List.getD_eq_getElem?_getD, List.getElem?_append_left hlt, List.getD_eq_getElem?_getD]
  have hsteps : (List.range segments.length).filter (fun n =>
        (Component.ofSegment? ((segments ++ [segment]).getD n [])).isSome) =
      (List.range segments.length).filter fun n =>
        (Component.ofSegment? (segments.getD n [])).isSome :=
    List.filter_congr fun n hn => by rw [(hbefore n hn).1]
  have hlast : (segments ++ [segment]).getD segments.length [] = segment := by simp
  simp only [endsIn, List.length_append, List.length_singleton, List.range_succ, List.filter_append,
    List.map_append, hsteps, List.cons_append]
  refine congrArg₂ List.cons rfl (congrArg₂ (· ++ ·) ?_ ?_)
  · exact List.map_congr_left fun n hn => by rw [(hbefore n (List.mem_of_mem_filter hn)).2]
  · rw [List.filter_singleton, hlast]
    cases (Component.ofSegment? segment).isSome with
    | false => rfl
    | true =>
      rw [cond_true, List.map_singleton, List.take_of_length_le (by simp)]
      rfl

/-- The path up to the last of the ends has all the steps. -/
theorem components_getLast_endsIn (htop : components ⟨top⟩ = topSteps first.isEmpty first)
    (h : ∀ segment ∈ first :: segments, '/' ∉ segment) :
    ∃ front last, endsIn top first segments = front ++ [last] ∧ components ⟨last⟩ =
      topSteps first.isEmpty first ++ segments.filterMap Component.ofSegment? := by
  induction segments using List.reverseRecOn with
  | nil => exact ⟨[], top, rfl, by rw [htop]; exact (List.append_nil _).symm⟩
  | append_singleton segments segment ih =>
    rw [endsIn_concat, List.filterMap_append]
    cases hstep : Component.ofSegment? segment with
    | none =>
      obtain ⟨front, last, hends, hlast⟩ := ih fun s hs =>
        h s (List.cons_subset_cons first (List.subset_append_left _ _) hs)
      exact ⟨front, last, by simpa using hends, by simpa [hstep] using hlast⟩
    | some step =>
      exact ⟨endsIn top first segments, _, rfl, by
        rw [components_intercalate (by simp) h, List.filterMap_append]⟩

/-- The path up to the end before the last has all steps but the last. -/
theorem components_endsIn_dropLast (htop : components ⟨top⟩ = topSteps first.isEmpty first)
    (h : ∀ segment ∈ first :: segments, '/' ∉ segment) :
    endsIn top first segments = [top] ∧ segments.filterMap Component.ofSegment? = [] ∨
      ∃ front above last, endsIn top first segments = front ++ [above, last] ∧
        segments.filterMap Component.ofSegment? ≠ [] ∧ components ⟨above⟩ =
          topSteps first.isEmpty first ++ (segments.filterMap Component.ofSegment?).dropLast := by
  induction segments using List.reverseRecOn with
  | nil => exact .inl ⟨rfl, rfl⟩
  | append_singleton segments segment ih =>
    have hbefore : ∀ s ∈ first :: segments, '/' ∉ s := fun s hs =>
      h s (List.cons_subset_cons first (List.subset_append_left _ _) hs)
    rw [endsIn_concat, List.filterMap_append]
    cases hstep : Component.ofSegment? segment with
    | none => simpa [hstep] using ih hbefore
    | some step =>
      have hlast : [segment].filterMap Component.ofSegment? = [step] := by simp [hstep]
      obtain ⟨front, above, hends, habove⟩ := components_getLast_endsIn htop hbefore
      rw [hends, hlast, Option.isSome_some, if_pos rfl, List.append_assoc, List.dropLast_concat]
      exact .inr ⟨front, above, _, rfl, by simp, habove⟩

/-- The first segment of a path that is not empty makes one step, and the path up to its end has
that step. -/
theorem topSteps_eq_singleton (hne : p.text ≠ "")
    (hsplit : Text.splitAtEach '/' p.text.toList = first :: segments) :
    ∃ step, topSteps first.isEmpty first = [step] ∧ (step = .root ↔ p.isAbsolute = true) ∧
      components ⟨if p.isAbsolute then "/" else String.ofList first⟩ = [step] := by
  have hfirst := isEmpty_first hsplit hne
  cases habsolute : p.isAbsolute with
  | true =>
    rw [hfirst, habsolute, if_pos rfl]
    exact ⟨.root, rfl, by simp, by decide⟩
  | false =>
    rw [habsolute] at hfirst
    have hfree : '/' ∉ first := Text.not_mem_of_mem_splitAtEach (hsplit ▸ List.mem_cons_self)
    have halone : components ⟨String.ofList first⟩ = topSteps first.isEmpty first := by
      have hone : Text.splitAtEach '/' (Path.mk (String.ofList first)).text.toList = [first] := by
        rw [String.toList_ofList, Text.splitAtEach_eq_splitOn]
        exact List.splitOn_eq_singleton hfree
      rw [components_eq_topSteps hone, isEmpty_first hone (by simpa using hfirst)]
      exact List.append_nil _
    rw [if_neg Bool.false_ne_true, halone, hfirst, topSteps, if_neg Bool.false_ne_true]
    by_cases hdot : first = ['.']
    · exact ⟨.here, if_pos hdot, by simp, if_pos hdot⟩
    · have hsome : (Component.ofSegment? first).isSome = true := by
        rw [isSome_ofSegment?, hfirst]
        simpa using hdot
      obtain ⟨step, hstep⟩ := Option.isSome_iff_exists.1 hsome
      rw [if_neg hdot, hstep]
      exact ⟨step, rfl, by simp [(ne_of_ofSegment? hstep).1], rfl⟩

/-- The empty path and the root have no path above them; any other path has one, with all steps but
the last. -/
theorem parent?_cases (p : Path) :
    p.parent? = none ∧ (p.components = [] ∨ p.components = [.root]) ∨
      ∃ q, p.parent? = some q ∧ q.components = p.components.dropLast ∧ p.components ≠ [] ∧
        p.components ≠ [.root] := by
  by_cases hne : p.text = ""
  · left
    rw [show p = ⟨""⟩ from congrArg Path.mk hne]
    exact ⟨rfl, .inl rfl⟩
  obtain ⟨first, segments, hsplit⟩ := Text.exists_splitAtEach_eq_cons '/' p.text.toList
  have hfree : ∀ segment ∈ first :: segments, '/' ∉ segment := fun segment hsegment =>
    Text.not_mem_of_mem_splitAtEach (hsplit ▸ hsegment)
  obtain ⟨step, hstep, hroot, htop⟩ := topSteps_eq_singleton hne hsplit
  have hcomponents := components_eq_topSteps hsplit
  rw [← isEmpty_first hsplit hne, hstep] at hcomponents
  rw [parent?, stepEnds_eq_endsIn hne hsplit, hcomponents]
  rcases components_endsIn_dropLast (htop.trans hstep.symm) hfree with
    ⟨hends, hnone⟩ | ⟨front, above, last, hends, hsome, habove⟩
  · rw [hends, hnone, List.append_nil]
    cases habsolute : p.isAbsolute with
    | true => exact .inl ⟨rfl, .inr (by rw [hroot.2 habsolute])⟩
    | false =>
      have hslash : String.ofList first ≠ "/" := by
        intro heq
        have hfirst : first = ['/'] := by simpa using congrArg String.toList heq
        exact hfree first List.mem_cons_self (by simp [hfirst])
      have hother : step ≠ .root := fun heq => by simpa [habsolute] using hroot.1 heq
      exact .inr ⟨⟨""⟩, if_neg hslash, rfl, by simp, by simpa using hother⟩
  · right
    rw [hstep] at habove
    refine ⟨⟨above⟩, ?_, ?_, by simp, fun hroot => hsome (List.cons.inj hroot).2⟩
    · rw [hends, List.reverse_append]
      rfl
    · rw [habove, List.dropLast_append_of_ne_nil hsome]

/-- The root has no path above it; any other absolute path has one, with all steps but the last. -/
theorem parent?_of_isAbsolute (h : p.isAbsolute = true) :
    p.parent? = none ∧ p.components = [.root] ∨
      ∃ q, p.parent? = some q ∧ q.components = p.components.dropLast ∧ p.components ≠ [.root] := by
  obtain ⟨segments, -, hcomponents⟩ := exists_segments h
  rcases p.parent?_cases with ⟨hparent, hnil | hroot⟩ | ⟨q, hparent, hq, -, hroot⟩
  · rw [hcomponents] at hnil
    cases hnil
  · exact .inl ⟨hparent, hroot⟩
  · exact .inr ⟨q, hparent, hq, hroot⟩

theorem isAbsolute_iff : p.isAbsolute = true ↔ p.components.head? = some .root := by
  constructor
  · intro h
    obtain ⟨segments, -, hcomponents⟩ := exists_segments h
    rw [hcomponents]
    rfl
  · intro hhead
    by_contra h
    have hinner : ∀ segments : List (List Char),
        (segments.filterMap Component.ofSegment?).head? ≠ some .root := by
      intro segments hroot
      obtain ⟨segment, -, hsegment⟩ := List.mem_filterMap.1 (List.mem_of_head? hroot)
      exact (ne_of_ofSegment? hsegment).1 rfl
    rw [components] at hhead
    split at hhead
    · cases hhead
    · rw [if_neg h] at hhead
      split at hhead
      · cases hhead
      · exact hinner _ hhead

theorem length_components_le (h : p.isAbsolute = true) :
    p.components.length ≤ p.text.length + 1 := by
  obtain ⟨segments, hsplit, hcomponents⟩ := exists_segments h
  have hlength := Text.length_splitAtEach '/' p.text.toList
  rw [hsplit, List.length_cons] at hlength
  calc p.components.length = (segments.filterMap Component.ofSegment?).length + 1 := by
        rw [hcomponents, List.length_cons]
    _ ≤ segments.length + 1 := Nat.add_le_add_right (List.length_filterMap_le _ _) 1
    _ = p.text.toList.count '/' + 1 := hlength
    _ ≤ p.text.length + 1 := by
        rw [← String.length_toList]
        exact Nat.add_le_add_right List.count_le_length 1

theorem components_eq_root (h : p.isAbsolute = true) (hlength : p.components.length ≤ 1) :
    p.components = [.root] := by
  obtain ⟨segments, -, hcomponents⟩ := exists_segments h
  rw [hcomponents, List.length_cons] at hlength
  have hnil : segments.filterMap Component.ofSegment? = [] :=
    List.eq_nil_of_length_eq_zero (by omega)
  rw [hcomponents, hnil]

theorem fronts_concat (steps : List Component) (last : Component) :
    (steps ++ [last]).inits.tail.reverse = (steps ++ [last]) :: steps.inits.tail.reverse := by
  have hne : steps.inits ≠ [] := List.ne_nil_of_mem ((List.mem_inits [] steps).2 List.nil_prefix)
  rw [List.inits_append, List.tail_append_of_ne_nil hne, List.reverse_append]
  rfl

/-- The walk from an absolute path goes through every front of its steps, the longest first, and
ends at the root. -/
theorem map_components_upwards {fuel : Nat} (h : p.isAbsolute = true)
    (hfuel : p.components.length ≤ fuel + 1) :
    (upwards fuel p).map components = p.components.inits.tail.reverse := by
  induction fuel generalizing p with
  | zero =>
    rw [upwards, List.map_singleton, components_eq_root h hfuel]
    rfl
  | succ fuel ih =>
    rw [upwards]
    rcases parent?_of_isAbsolute h with ⟨hparent, hroot⟩ | ⟨q, hparent, hq, hne⟩
    · rw [hparent, List.map_singleton, hroot]
      rfl
    · obtain ⟨segments, -, hcomponents⟩ := exists_segments h
      obtain ⟨above, last, habove⟩ : ∃ above last, p.components = .root :: above ++ [last] := by
        rcases List.eq_nil_or_concat (segments.filterMap Component.ofSegment?) with
          hnil | ⟨above, last, hlast⟩
        · exact (hne (by rw [hcomponents, hnil])).elim
        · exact ⟨above, last, by rw [hcomponents, hlast, List.concat_eq_append]; rfl⟩
      rw [habove, List.dropLast_concat] at hq
      have habsolute : q.isAbsolute = true := by
        rw [isAbsolute_iff, hq]
        rfl
      have hlength : q.components.length ≤ fuel + 1 := by
        rw [habove, List.length_append] at hfuel
        rw [hq]
        exact Nat.le_of_succ_le_succ hfuel
      rw [hparent, List.map_cons, ih habsolute hlength, hq, habove, fronts_concat]

theorem map_components_ancestors (h : p.isAbsolute = true) :
    p.ancestors.map components = p.components.inits.tail.reverse :=
  map_components_upwards h (length_components_le h)

theorem isAbsolute_and_front_of_mem_ancestors {q : Path} (h : p.isAbsolute = true)
    (hq : q ∈ p.ancestors) : q.isAbsolute = true ∧ q.components <+: p.components := by
  have hmem : q.components ∈ p.components.inits.tail := by
    rw [← List.mem_reverse, ← map_components_ancestors h]
    exact List.mem_map_of_mem hq
  refine ⟨?_, (List.mem_inits _ _).1 (List.mem_of_mem_tail hmem)⟩
  obtain ⟨segments, -, hcomponents⟩ := exists_segments h
  rw [hcomponents, List.inits_cons, List.tail_cons] at hmem
  obtain ⟨front, -, hfront⟩ := List.mem_map.1 hmem
  rw [isAbsolute_iff, ← hfront]
  rfl

theorem findSome?_ancestors_congr {α : Type} {f g : Path → Option α} (h : p.isAbsolute = true)
    (hfg : ∀ q : Path, q.isAbsolute = true → q.components <+: p.components → f q = g q) :
    p.ancestors.findSome? f = p.ancestors.findSome? g := by
  rw [← List.head?_filterMap, ← List.head?_filterMap]
  refine congrArg List.head? (List.filterMap_congr fun q hq => ?_)
  obtain ⟨habsolute, hfront⟩ := isAbsolute_and_front_of_mem_ancestors h hq
  exact hfg q habsolute hfront

/-! ### The nearest directory -/

/-- What is found for a directory: of the directory with the given steps and all directories above it,
the deepest one in which there is something to be found decides. -/
def IsNearest {α : Type} (steps : List Component) (found : List Component → Option α) :
    Option α → Prop
  | some a => ∃ dir, dir <+: steps ∧ dir ≠ [] ∧ found dir = some a ∧
      ∀ deeper, deeper <+: steps → dir.length < deeper.length → found deeper = none
  | none => ∀ dir, dir <+: steps → dir ≠ [] → found dir = none

section

variable {α : Type} {steps : List Component} {found : List Component → Option α}

theorem isNearest_self {a : α} (hne : steps ≠ []) (h : found steps = some a) :
    IsNearest steps found (some a) := by
  refine ⟨steps, List.prefix_rfl, hne, h, fun deeper hdeeper hlt => ?_⟩
  have := hdeeper.length_le
  omega

/-- A directory in which nothing is found leaves it to the one above. -/
theorem IsNearest.concat {last : Component} {o : Option α} (h : IsNearest steps found o)
    (hnone : found (steps ++ [last]) = none) : IsNearest (steps ++ [last]) found o := by
  cases o with
  | none =>
    intro dir hdir hne
    rcases List.prefix_concat_iff.1 hdir with rfl | hdir
    · exact hnone
    · exact h dir hdir hne
  | some a =>
    obtain ⟨dir, hdir, hne, hfound, hdeepest⟩ := h
    refine ⟨dir, hdir.trans (List.prefix_append steps [last]), hne, hfound,
      fun deeper hdeeper hlt => ?_⟩
    rcases List.prefix_concat_iff.1 hdeeper with rfl | hdeeper
    · exact hnone
    · exact hdeepest deeper hdeeper hlt

theorem isNearest_inits (steps : List Component) (found : List Component → Option α) :
    IsNearest steps found (steps.inits.tail.reverse.findSome? found) := by
  induction steps using List.reverseRecOn with
  | nil =>
    intro dir hdir hne
    exact (hne (List.prefix_nil.1 hdir)).elim
  | append_singleton steps last ih =>
    rw [fronts_concat, List.findSome?_cons]
    cases hfound : found (steps ++ [last]) with
    | none => exact ih.concat hfound
    | some a => exact isNearest_self (by simp) hfound

end

theorem isNearest_ancestors {α : Type} {f : Path → Option α} {found : List Component → Option α}
    (h : p.isAbsolute = true) (hf : ∀ q : Path, q.isAbsolute = true → f q = found q.components) :
    IsNearest p.components found (p.ancestors.findSome? f) := by
  have hwalk := isNearest_inits p.components found
  rw [← map_components_ancestors h, List.findSome?_map] at hwalk
  rwa [findSome?_ancestors_congr h fun q hq _ => hf q hq]

/-! ### A file in a directory -/

theorem components_of_isAbsolute (h : p.isAbsolute = true) :
    p.components = .root :: (Text.splitAtEach '/' p.text.toList).filterMap Component.ofSegment? := by
  obtain ⟨segments, hsplit, hcomponents⟩ := exists_segments h
  rw [hcomponents, hsplit]
  rfl

theorem isEmpty_of_isAbsolute (h : p.isAbsolute = true) : p.text.isEmpty = false := by
  refine Bool.eq_false_iff.2 fun hempty => ?_
  rw [isAbsolute, String.isEmpty_iff.1 hempty] at h
  cases h

/-- The name of a file in a directory is the last segment of its path, and the steps before it are
those of the directory. -/
theorem exists_segments_join {name : String} (h : p.isAbsolute = true)
    (hname : (Component.name name).IsInner) :
    (p.join ⟨name⟩).isAbsolute = true ∧
      ∃ front, Text.splitAtEach '/' (p.join ⟨name⟩).text.toList = front ++ [name.toList] ∧
        front.filterMap Component.ofSegment? =
          (Text.splitAtEach '/' p.text.toList).filterMap Component.ofSegment? := by
  have hrelative : isAbsolute ⟨name⟩ = false := by
    refine decide_eq_false fun hhead => hname.1 ?_
    exact List.mem_of_mem_head? (Option.mem_def.2 hhead)
  have hone : Text.splitAtEach '/' name.toList = [name.toList] := by
    rw [Text.splitAtEach_eq_splitOn]
    exact List.splitOn_eq_singleton hname.1
  have hempty := isEmpty_of_isAbsolute h
  have hne : p.text ≠ "" := fun heq => Bool.eq_false_iff.1 hempty (String.isEmpty_iff.2 heq)
  rw [join, hrelative, hempty]
  simp only [Bool.false_eq_true, if_false, Bool.false_or, decide_eq_true_eq]
  split
  · rename_i hlast
    refine ⟨(isAbsolute_append_of_ne_nil hne name).trans h, ?_⟩
    obtain ⟨front, hfront⟩ := List.getLast?_eq_some_iff.1 hlast
    refine ⟨Text.splitAtEach '/' front, ?_, ?_⟩
    · rw [String.toList_append, hfront, List.append_assoc, ← hone]
      exact Text.splitAtEach_append '/' front name.toList
    · rw [hfront, Text.splitAtEach_append, List.filterMap_append]
      exact (List.append_nil _).symm
  · refine ⟨?_, Text.splitAtEach '/' p.text.toList, ?_, rfl⟩
    · rw [String.append_assoc, isAbsolute_append_of_ne_nil hne, h]
    · rw [String.toList_append, String.toList_append, List.append_assoc, ← hone]
      exact Text.splitAtEach_append '/' p.text.toList name.toList

theorem isInner_of_mem_tail (p : Path) : ∀ step ∈ p.components.tail, step.IsInner := by
  have hsteps := isSteps_components p
  cases hcomponents : p.components with
  | nil => exact fun step hstep => (List.not_mem_nil hstep).elim
  | cons first rest =>
    rw [hcomponents] at hsteps
    exact hsteps.2

theorem splitAtEach_ofComponents {name : String} (h : p.isAbsolute = true)
    (hname : (Component.name name).IsInner) :
    (ofComponents (p.components ++ [.name name])).isAbsolute = true ∧
      Text.splitAtEach '/' (ofComponents (p.components ++ [.name name])).text.toList =
        ([] :: p.components.tail.map fun step => step.text.toList) ++ [name.toList] := by
  have hinner := isInner_of_mem_tail p
  rw [components_of_isAbsolute h, List.tail_cons] at hinner ⊢
  rw [List.cons_append, ofComponents]
  constructor
  · rw [isAbsolute, String.toList_append]
    rfl
  · have hfree : ∀ step ∈ (Text.splitAtEach '/' p.text.toList).filterMap Component.ofSegment? ++
        [.name name], '/' ∉ step.text.toList := by
      intro step hstep
      rcases List.mem_append.1 hstep with hstep | hstep
      · exact (hinner step hstep).1
      · rw [List.mem_singleton.1 hstep]
        exact hname.1
    rw [String.toList_append]
    refine (congrArg (([] : List Char) :: ·) (splitAtEach_intercalate (by simp) hfree)).trans ?_
    rw [List.map_append]
    rfl

theorem components_join {name : String} (h : p.isAbsolute = true)
    (hname : (Component.name name).IsInner) :
    (p.join ⟨name⟩).components = p.components ++ [.name name] := by
  obtain ⟨habsolute, front, hsplit, hfront⟩ := exists_segments_join h hname
  have hlast : Component.ofSegment? name.toList = some (.name name) := hname.2
  rw [components_of_isAbsolute habsolute, hsplit, List.filterMap_append, hfront,
    components_of_isAbsolute h, List.filterMap_cons_some hlast]
  rfl

end Path

end ServiceAtlas
