import ServiceAtlas.Outline.Extraction
import ServiceAtlas.Proofs.PathAncestors
import ServiceAtlas.Service.Name
import ServiceAtlas.Url.Table
import Mathlib.Logic.Relation

/-!
Paths that are written in different ways. Further separators and further `.` segments leave the steps
of a path as they are (`Path.Respelled.components_eq`), and with them all that is told by a path. A
path that is written without such segments has its segments as names, so that its service is the name
of the directory two above it (`Path.exists_directory_of_isPlain`).
-/

namespace ServiceAtlas

namespace Path

variable {p q : Path}

/-! ### Spelling -/

/-- One separator written twice, or a `.` put in as a segment, behind the root, within the path or at
its end. -/
inductive Respelled : Path → Path → Prop
  | doubled (front back : String) : Respelled ⟨front ++ "/" ++ back⟩ ⟨front ++ "//" ++ back⟩
  | dotted (front back : String) : Respelled ⟨front ++ "/" ++ back⟩ ⟨front ++ "/." ++ "/" ++ back⟩
  | dottedEnd (front : String) (hne : front ≠ "") : Respelled ⟨front⟩ ⟨front ++ "/."⟩

/-- A segment that is no step makes no difference between two others. -/
theorem components_insert (front segment back : List Char) (hfree : '/' ∉ segment)
    (hnone : Component.ofSegment? segment = none) (hp : p.text.toList = front ++ '/' :: back)
    (hq : q.text.toList = front ++ '/' :: (segment ++ '/' :: back)) :
    q.components = p.components := by
  obtain ⟨first, rest, hfront⟩ := Text.exists_splitAtEach_eq_cons '/' front
  have hsplit : Text.splitAtEach '/' p.text.toList =
      first :: (rest ++ Text.splitAtEach '/' back) := by
    rw [hp, Text.splitAtEach_append, hfront]
    rfl
  have hsplit' : Text.splitAtEach '/' q.text.toList =
      first :: (rest ++ segment :: Text.splitAtEach '/' back) := by
    rw [hq, Text.splitAtEach_append, Text.splitAtEach_append, Text.splitAtEach_of_not_mem hfree, hfront]
    rfl
  have habsolute : q.isAbsolute = p.isAbsolute := by
    rw [isAbsolute, isAbsolute, hp, hq, List.head?_append, List.head?_append]
    rfl
  rw [components_eq_topSteps hsplit', components_eq_topSteps hsplit, habsolute,
    List.filterMap_append, List.filterMap_append, List.filterMap_cons_none hnone]

theorem Respelled.components_eq (h : Respelled p q) : q.components = p.components := by
  cases h with
  | doubled front back =>
    exact components_insert front.toList [] back.toList List.not_mem_nil rfl (by simp) (by simp)
  | dotted front back =>
    exact components_insert front.toList ['.'] back.toList (by decide) rfl (by simp) (by simp)
  | dottedEnd front hne =>
    have hsplit : Text.splitAtEach '/' (front ++ "/.").toList =
        Text.splitAtEach '/' front.toList ++ [['.']] := by
      rw [String.toList_append]
      exact Text.splitAtEach_append '/' front.toList ['.']
    rw [components_of_splitAtEach_append (isAbsolute_append_of_ne_nil hne "/.") hsplit]
    exact List.append_nil _

theorem components_of_respellings (h : Relation.ReflTransGen Respelled p q) :
    q.components = p.components := by
  induction h with
  | refl => rfl
  | tail _ hstep ih => rw [hstep.components_eq, ih]

/-! ### Paths of names -/

/-- The texts between separators; there is none where there is no text. -/
def segmentsIn (cs : List Char) : List String :=
  if cs.isEmpty then [] else (Text.splitAtEach '/' cs).map String.ofList

/-- The texts between the separators of a path, behind that of the root. -/
def segments (p : Path) : List String :=
  segmentsIn (if p.isAbsolute then p.text.toList.drop 1 else p.text.toList)

/-- No segment is empty, a `.` or a `..`. -/
def IsPlain (p : Path) : Prop := ∀ segment ∈ p.segments, segment ∉ ["", ".", ".."]

instance (p : Path) : Decidable p.IsPlain :=
  inferInstanceAs (Decidable (∀ segment ∈ p.segments, segment ∉ ["", ".", ".."]))

theorem ofSegment?_eq_name {segment : List Char} (h : String.ofList segment ∉ ["", ".", ".."]) :
    Component.ofSegment? segment = some (.name (String.ofList segment)) := by
  have hne (text : String) (htext : text ∈ ["", ".", ".."]) : segment ≠ text.toList := by
    rintro rfl
    exact h (by rwa [String.ofList_toList])
  have hskip : ¬ (segment = [] ∨ segment = ['.']) := by
    rintro (hnil | hdot)
    · exact hne "" (by simp) hnil
    · exact hne "." (by simp) hdot
  have hup : segment ≠ ['.', '.'] := hne ".." (by simp)
  rw [Component.ofSegment?, if_neg hskip, if_neg hup]

theorem filterMap_ofSegment?_segmentsIn {cs : List Char}
    (h : ∀ segment ∈ segmentsIn cs, segment ∉ ["", ".", ".."]) :
    (Text.splitAtEach '/' cs).filterMap Component.ofSegment? = (segmentsIn cs).map .name := by
  cases cs with
  | nil => rfl
  | cons c cs =>
    rw [segmentsIn, if_neg (by simp)] at h ⊢
    rw [List.map_map, ← List.filterMap_eq_map]
    exact List.filterMap_congr fun segment hsegment =>
      ofSegment?_eq_name (h _ (List.mem_map_of_mem hsegment))

/-- The steps of a plain path are its segments, as names. -/
theorem components_of_isPlain (h : p.IsPlain) :
    p.components = (if p.isAbsolute then [.root] else []) ++ p.segments.map .name := by
  rw [IsPlain, segments] at h
  rw [segments, ← filterMap_ofSegment?_segmentsIn h]
  cases habsolute : p.isAbsolute with
  | true =>
    have hhead : p.text.toList.head? = some '/' := of_decide_eq_true habsolute
    obtain ⟨cs, hcs⟩ := List.head?_eq_some_iff.1 hhead
    rw [components_of_isAbsolute habsolute, hcs]
    rfl
  | false =>
    obtain ⟨first, rest, hsplit⟩ := Text.exists_splitAtEach_eq_cons '/' p.text.toList
    rw [habsolute, if_neg Bool.false_ne_true] at h
    have hdot : first ≠ ['.'] := by
      rintro rfl
      have hne : p.text.toList.isEmpty = false := by
        refine List.isEmpty_eq_false_iff.2 fun hnil => ?_
        rw [hnil] at hsplit
        cases hsplit
      refine h "." ?_ (by simp)
      rw [segmentsIn, hne, if_neg Bool.false_ne_true, hsplit]
      exact List.mem_cons_self
    rw [components, hsplit]
    simp only [habsolute, hdot, Bool.false_eq_true, if_false, List.nil_append, hsplit]

theorem names_of_isPlain (h : p.IsPlain) : p.names = p.segments := by
  rw [names, components_of_isPlain h, List.filterMap_append, List.filterMap_map]
  have hnames : p.segments.filterMap (Component.name? ∘ .name) = p.segments :=
    List.filterMap_some
  rw [hnames]
  cases p.isAbsolute <;> rfl

theorem exists_parent_of_two_le (h : 2 ≤ p.components.length) :
    ∃ q, p.parent? = some q ∧ q.components = p.components.dropLast := by
  rcases p.parent?_cases with ⟨-, hnil | hroot⟩ | ⟨q, hparent, hq, -, -⟩
  · simp [hnil] at h
  · simp [hroot] at h
  · exact ⟨q, hparent, hq⟩

/-- Going up twice from a plain path leads to a directory whose name is the third segment from the
end. -/
theorem exists_directory_of_isPlain (h : p.IsPlain) {front : List String} {service dir file : String}
    (hsegments : p.segments = front ++ [service, dir, file]) :
    ∃ above, p.parent?.bind parent? = some above ∧ above.fileName? = some service := by
  have hsteps := components_of_isPlain h
  rw [hsegments, List.map_append, ← List.append_assoc] at hsteps
  generalize (if p.isAbsolute then [.root] else []) ++ front.map Component.name = steps at hsteps
  obtain ⟨q, hq, hqsteps⟩ := exists_parent_of_two_le (p := p) (by simp [hsteps])
  obtain ⟨above, habove, habovesteps⟩ := exists_parent_of_two_le (p := q) (by simp [hqsteps, hsteps])
  refine ⟨above, by rw [hq]; exact habove, ?_⟩
  rw [fileName?, habovesteps, hqsteps, hsteps]
  simp [Component.name?]

end Path

namespace Service

theorem ofNames_of_length_lt {names : List String} (h : names.length < 3) :
    ofNames names = rootName := by
  match names, h with
  | [], _ => rfl
  | [_], _ => rfl
  | [_, _], _ => rfl

theorem ofNames_cons {names : List String} (name : String) (h : 3 ≤ names.length) :
    ofNames (name :: names) = ofNames names := by
  match names, h with
  | _ :: _ :: _ :: _, _ => rfl

theorem ofNames_append (front : List String) (service dir file : String) :
    ofNames (front ++ [service, dir, file]) = service := by
  induction front with
  | nil => rfl
  | cons name front ih => rw [List.cons_append, ofNames_cons name (by simp), ih]

theorem ofPath_of_isPlain {p : Path} (h : p.IsPlain) : ofPath p = ofNames p.segments := by
  rw [ofPath, Path.names_of_isPlain h]

theorem exists_directory_named_ofPath {p : Path} (h : p.IsPlain) (hdepth : 3 ≤ p.segments.length) :
    ∃ above, p.parent?.bind Path.parent? = some above ∧ above.fileName? = some (ofPath p) := by
  obtain ⟨front, service, dir, file, hsegments⟩ :
      ∃ front service dir file, p.segments = front ++ [service, dir, file] := by
    have hthree : (p.segments.drop (p.segments.length - 3)).length = 3 := by
      rw [List.length_drop]
      omega
    obtain ⟨service, dir, file, hback⟩ := List.length_eq_three.1 hthree
    exact ⟨_, service, dir, file, by rw [← hback, List.take_append_drop]⟩
  rw [ofPath_of_isPlain h, hsegments, ofNames_append]
  exact Path.exists_directory_of_isPlain h hsegments

end Service

/-- What is told by a path does not hang on how the path is written. The service of a plain path is
the name of the directory two above it, if it lies that deep, so that it is the same for all files two
below one directory. -/
theorem Path.service_of_spelling :
    (∀ p q : Path, Relation.ReflTransGen Respelled p q →
      Service.ofPath q = Service.ofPath p ∧ Language.ofPath? q = Language.ofPath? p ∧
        Dialect.ofPath? q = Dialect.ofPath? p ∧
        ∀ excluded, (q.excludedAncestor? excluded).map components =
          (p.excludedAncestor? excluded).map components) ∧
    (∀ p : Path, p.IsPlain →
      (3 ≤ p.segments.length → ∃ above, p.parent?.bind parent? = some above ∧
        above.fileName? = some (Service.ofPath p)) ∧
      (p.segments.length < 3 → Service.ofPath p = "(root)")) ∧
    ∀ p q : Path, p.IsPlain → q.IsPlain → 3 ≤ p.segments.length → 3 ≤ q.segments.length →
      ∀ above above', p.parent?.bind parent? = some above → q.parent?.bind parent? = some above' →
        above.same above' = true → Service.ofPath p = Service.ofPath q := by
  refine ⟨fun p q hspelling => ?_, fun p hplain => ⟨?_, fun hshallow => ?_⟩, ?_⟩
  · have hsame := components_of_respellings hspelling
    have hextension : q.extension? = p.extension? := by
      rw [extension?, extension?, fileName?, fileName?, hsame]
    refine ⟨?_, ?_, ?_, fun excluded => ?_⟩
    · rw [Service.ofPath, Service.ofPath, names, names, hsame]
    · rw [Language.ofPath?, Language.ofPath?, hextension]
    · rw [Dialect.ofPath?, Dialect.ofPath?, hextension]
    · rw [components_excludedAncestor?, components_excludedAncestor?, hsame]
  · exact Service.exists_directory_named_ofPath hplain
  · rw [Service.ofPath_of_isPlain hplain, Service.ofNames_of_length_lt hshallow]
    rfl
  · intro p q hp hq hpdepth hqdepth above above' habove habove' hsame
    obtain ⟨dir, hdir, hname⟩ := Service.exists_directory_named_ofPath hp hpdepth
    obtain ⟨dir', hdir', hname'⟩ := Service.exists_directory_named_ofPath hq hqdepth
    cases hdir.symm.trans habove
    cases hdir'.symm.trans habove'
    rw [fileName?, of_decide_eq_true hsame, ← fileName?, hname'] at hname
    exact (Option.some_inj.1 hname).symm

theorem Path.service_of_spelling_orders :
    Service.ofPath ⟨"/r//orders/src/X.java/."⟩ = Service.ofPath ⟨"/r/orders/src/X.java"⟩ ∧
      (∃ above, (parent? ⟨"/r/orders/src/X.java"⟩).bind parent? = some above ∧
        above.fileName? = some (Service.ofPath ⟨"/r/orders/src/X.java"⟩)) ∧
      Service.ofPath ⟨"src/X.java"⟩ = "(root)" ∧
      Service.ofPath ⟨"/r/orders/src/X.java"⟩ = Service.ofPath ⟨"/r/orders/web/y.py"⟩ := by
  obtain ⟨hspelling, hplain, hshared⟩ := service_of_spelling
  have hdoubled : Respelled ⟨"/r/orders/src/X.java"⟩ ⟨"/r//orders/src/X.java"⟩ :=
    .doubled "/r" "orders/src/X.java"
  have hdotted : Respelled ⟨"/r//orders/src/X.java"⟩ ⟨"/r//orders/src/X.java/."⟩ :=
    .dottedEnd "/r//orders/src/X.java" (by decide)
  refine ⟨(hspelling _ _ (.tail (.single hdoubled) hdotted)).1, ?_, ?_, ?_⟩
  · exact (hplain _ (by decide)).1 (by decide)
  · exact (hplain _ (by decide)).2 (by decide)
  · exact hshared _ _ (by decide) (by decide) (by decide) (by decide) ⟨"/r/orders"⟩ ⟨"/r/orders"⟩
      (by decide) (by decide) (by decide)

end ServiceAtlas
