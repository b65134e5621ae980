import ServiceAtlas.Proofs.SettingsLayers
import Mathlib.Data.List.Nodup

/-!
Lists in settings files. No two entries of a document have the same key (`Toml.keysDistinct_read?`), so
each section of a settings file is read once, and a list that the file gives for a setting is the list
that is read for it (`SettingsFile.list?_read?`). A project's file replaces such a list by its own,
whatever the user's file says, with one exception: an empty list of patterns is taken for none.
-/

namespace ServiceAtlas

/-! ### Keys of a document -/

namespace Toml

/-- No two entries of the table have the same key. -/
def Value.KeysDistinct : Value → Prop
  | .table _ entries => (entries.map Prod.fst).Nodup
  | _ => True

namespace Value

variable {origin : Origin} {entries : List (String × Value)} {key : String} {v t t' : Value}

theorem map_fst_write (key : String) (v : Value) (entries : List (String × Value)) :
    (write key v entries).map Prod.fst =
      if key ∈ entries.map Prod.fst then entries.map Prod.fst
      else entries.map Prod.fst ++ [key] := by
  induction entries with
  | nil => simp [write]
  | cons e rest ih =>
    by_cases h : e.1 = key
    · simp [write, h]
    · have h' : ¬ key = e.1 := fun e => h e.symm
      simp only [write, h, if_false, List.map_cons, ih, List.mem_cons, h', false_or]
      split <;> simp

theorem not_mem_keys_of_lookup (h : entries.lookup key = none) : key ∉ entries.map Prod.fst := by
  intro hkey
  obtain ⟨e, he, rfl⟩ := List.mem_map.1 hkey
  have hne := List.lookup_eq_none_iff.1 h e he
  simp at hne

theorem KeysDistinct.concat (h : (table origin entries).KeysDistinct)
    (hnew : key ∉ entries.map Prod.fst) (v : Value) :
    (table origin (entries ++ [(key, v)])).KeysDistinct := by
  rw [KeysDistinct, List.map_append, List.map_singleton, ← List.concat_eq_append]
  exact List.Nodup.concat hnew h

theorem KeysDistinct.write (h : (table origin entries).KeysDistinct) (key : String) (v : Value) :
    (table origin (Value.write key v entries)).KeysDistinct := by
  rw [KeysDistinct, map_fst_write]
  split
  · exact h
  · rename_i hnew
    rw [← List.concat_eq_append]
    exact List.Nodup.concat hnew h

theorem KeysDistinct.enter? (h : t.KeysDistinct) (ht : t.enter? key v = some t') :
    t'.KeysDistinct := by
  revert ht
  fun_cases Value.enter? t key v with
  | case1 => rintro ⟨⟩
  | case2 origin entries hnone =>
    rintro ⟨⟩
    exact h.concat (not_mem_keys_of_lookup (Option.not_isSome_iff_eq_none.1 hnone)) v
  | case3 => rintro ⟨⟩

/-- A step into a table changes one entry of it, whatever happens further down. -/
theorem KeysDistinct.putDotted? {path : List String} (h : t.KeysDistinct)
    (ht : Value.putDotted? v key path t = some t') : t'.KeysDistinct := by
  revert ht
  fun_cases Value.putDotted? v key path t with
  | case1 => exact h.enter?
  | case3 step path origin entries | case4 step path origin entries
  | case5 step path origin entries | case6 step path origin entries =>
    intro ht
    obtain ⟨below, -, rfl⟩ := Option.map_eq_some_iff.1 ht
    exact h.write step below
  | _ => rintro ⟨⟩

theorem KeysDistinct.put? {path : List String} (h : t.KeysDistinct)
    (ht : t.put? path key v = some t') : t'.KeysDistinct := by
  rw [Value.put?] at ht
  split at ht
  · exact h.enter? ht
  · exact h.putDotted? ht

theorem KeysDistinct.atHeader? {f : Value → Option Value} {path : List String}
    (hf : ∀ {t t'}, t.KeysDistinct → f t = some t' → t'.KeysDistinct) (h : t.KeysDistinct)
    (ht : Value.atHeader? f path t = some t') : t'.KeysDistinct := by
  revert ht
  fun_cases Value.atHeader? f path t with
  | case1 => exact hf h
  | case2 step path origin entries | case4 step path origin entries
  | case5 step path origin entries =>
    intro ht
    obtain ⟨below, -, rfl⟩ := Option.map_eq_some_iff.1 ht
    exact h.write step below
  | _ => rintro ⟨⟩

theorem KeysDistinct.openAt? {first : Value} {again : Value → Option Value} {path : List String}
    (h : t.KeysDistinct) (ht : Value.openAt? first again t path key = some t') : t'.KeysDistinct := by
  refine h.atHeader? (fun {t t'} hparent heq => ?_) ht
  split at heq
  · split at heq
    · rename_i hnone
      cases heq
      exact hparent.concat (not_mem_keys_of_lookup hnone) first
    · obtain ⟨v, -, rfl⟩ := Option.map_eq_some_iff.1 heq
      exact hparent.write key v
  · cases heq

end Value

variable {d d' : Draft} {cs rest : List Char}

theorem keysDistinct_header? (h : d.root.KeysDistinct) (hd : header? d cs = some (d', rest)) :
    d'.root.KeysDistinct := by
  revert hd
  fun_cases header? d cs with
  | case1 cs =>
    intro hd
    obtain ⟨⟨⟨path, key⟩, r₁⟩, -, hd⟩ := Option.bind_eq_some_iff.1 hd
    obtain ⟨⟨_, r₂⟩, -, hd⟩ := Option.bind_eq_some_iff.1 hd
    obtain ⟨⟨_, r₃⟩, -, hd⟩ := Option.bind_eq_some_iff.1 hd
    obtain ⟨root, hroot, hd⟩ := Option.bind_eq_some_iff.1 hd
    cases hd
    exact h.openAt? hroot
  | case2 =>
    intro hd
    obtain ⟨⟨⟨path, key⟩, r₁⟩, -, hd⟩ := Option.bind_eq_some_iff.1 hd
    obtain ⟨⟨_, r₂⟩, -, hd⟩ := Option.bind_eq_some_iff.1 hd
    obtain ⟨root, hroot, hd⟩ := Option.bind_eq_some_iff.1 hd
    cases hd
    exact h.openAt? hroot

theorem keysDistinct_pair? (h : d.root.KeysDistinct) (hd : pair? d cs = some (d', rest)) :
    d'.root.KeysDistinct := by
  obtain ⟨⟨⟨path, key⟩, r₁⟩, -, hd⟩ := Option.bind_eq_some_iff.1 hd
  obtain ⟨⟨_, r₂⟩, -, hd⟩ := Option.bind_eq_some_iff.1 hd
  obtain ⟨⟨v, r₃⟩, -, hd⟩ := Option.bind_eq_some_iff.1 hd
  obtain ⟨root, hroot, hd⟩ := Option.bind_eq_some_iff.1 hd
  cases hd
  exact h.atHeader? (fun hparent heq => hparent.put? heq) hroot

theorem keysDistinct_lines? {fuel : Nat} (h : d.root.KeysDistinct)
    (hd : lines? fuel d cs = some d') : d'.root.KeysDistinct := by
  induction fuel generalizing d cs with
  | zero => cases hd
  | succ fuel ih =>
    -- each kind of line gives a draft with which the lines behind it go on
    have hnext : ∀ {line : Option (Draft × List Char)},
        (∀ {next rest}, line = some (next, rest) → next.root.KeysDistinct) →
        (line >>= fun read => lineEnd? read.2 >>= lines? fuel read.1) = some d' →
        d'.root.KeysDistinct := by
      intro line hline hd
      obtain ⟨⟨next, rest⟩, heq, hd⟩ := Option.bind_eq_some_iff.1 hd
      obtain ⟨behind, -, hd⟩ := Option.bind_eq_some_iff.1 hd
      exact ih (hline heq) hd
    rw [lines?] at hd
    split at hd
    · cases hd
      exact h
    · dsimp only at hd
      split at hd
      · exact hnext (keysDistinct_header? h) hd
      · split at hd
        · exact hnext (fun heq => by cases heq; exact h) hd
        · exact hnext (keysDistinct_pair? h) hd

/-- No two entries of a document have the same key. -/
theorem keysDistinct_read? {text : String} {document : Value} (h : read? text = some document) :
    document.KeysDistinct := by
  obtain ⟨d, hd, rfl⟩ := Option.map_eq_some_iff.1 h
  exact keysDistinct_lines? (d := .start) List.nodup_nil hd

end Toml

/-! ### What a file gives for a setting -/

/-- The section of a settings file that a setting stands in, and its name there. -/
def Setting.place : Setting → String × String
  | .format => ("defaults", "format")
  | .quiet => ("defaults", "quiet")
  | .exclude => ("targeting", "exclude")
  | .excludedDirs => ("targeting", "excluded_dirs")
  | .respectGitignore => ("targeting", "respect_gitignore")
  | .endpointAnnotations => ("java", "endpoint_annotations")
  | .entityMarkers => ("java", "entity_markers")
  | .routeDecorators => ("python", "route_decorators")
  | .modelBase => ("python", "model_base")
  | .verbs => ("calls", "verbs")

/-- A setting that is a list of strings. -/
def Settings.list? (s : Settings) : Setting → Option (List String)
  | .exclude => some s.exclude
  | .excludedDirs => some s.excludedDirs
  | .endpointAnnotations => some s.java.endpointAnnotations
  | .entityMarkers => some s.java.entityMarkers
  | .routeDecorators => some s.python.routeDecorators
  | .verbs => some s.verbs
  | _ => none

namespace SettingsFile

open Toml (Value)

/-- The text has the section of the setting as a table, with the list of strings under its name. -/
def Gives (text : String) (k : Setting) (items : List String) : Prop :=
  ∃ origin entries origin' fields, Toml.read? text = some (.table origin entries) ∧
    entries.lookup k.place.1 = some (.table origin' fields) ∧
    fields.lookup k.place.2 = some (.array (items.map .string))

/-- The list that a file has for a setting. -/
def list? (f : SettingsFile) : Setting → Option (List String)
  | .exclude => some f.exclude
  | .excludedDirs => f.excludedDirs
  | .endpointAnnotations => f.endpointAnnotations
  | .entityMarkers => f.entityMarkers
  | .routeDecorators => f.routeDecorators
  | .verbs => f.verbs
  | _ => none

variable {f f' : SettingsFile} {v : Value} {k : Setting} {items : List String}

theorem strings?_array (items : List String) : strings? (.array (items.map .string)) = some items := by
  rw [strings?]
  induction items with
  | nil => rfl
  | cons item items ih =>
    rw [List.map_cons, List.mapM_cons, ih]
    rfl

theorem strings?_eq_some_iff : strings? v = some items ↔ v = .array (items.map .string) := by
  refine ⟨fun h => ?_, fun h => h ▸ strings?_array items⟩
  cases v with
  | array values =>
    rw [strings?] at h
    congr 1
    induction values generalizing items with
    | nil =>
      cases h
      rfl
    | cons w values ih =>
      rw [List.mapM_cons] at h
      obtain ⟨item, hitem, h⟩ := Option.bind_eq_some_iff.1 h
      obtain ⟨rest, hrest, h⟩ := Option.bind_eq_some_iff.1 h
      cases h
      rw [List.map_cons, ← ih hrest]
      cases w with
      | string s =>
        cases hitem
        rfl
      | _ => cases hitem
  | _ => cases h

/-- What a table has under a key. -/
def under? (key : String) : Value → Option Value
  | .table _ entries => entries.lookup key
  | _ => none

theorem under?_eq_some_iff {key : String} {w : Value} : under? key v = some w ↔
    ∃ origin entries, v = .table origin entries ∧ entries.lookup key = some w := by
  cases v <;> simp [under?]

theorem gives_iff {text : String} : Gives text k items ↔
    (((Toml.read? text).bind (under? k.place.1)).bind (under? k.place.2)).bind strings? =
      some items := by
  simp only [Option.bind_eq_some_iff, under?_eq_some_iff, strings?_eq_some_iff]
  constructor
  · rintro ⟨origin, entries, origin', fields, htext, hsection, hfield⟩
    exact ⟨_, ⟨_, ⟨_, htext, origin, entries, rfl, hsection⟩, origin', fields, rfl, hfield⟩, rfl⟩
  · rintro ⟨_, ⟨_, ⟨_, htext, origin, entries, rfl, hsection⟩, origin', fields, rfl, hfield⟩, rfl⟩
    exact ⟨origin, entries, origin', fields, htext, hsection, hfield⟩

instance (text : String) (k : Setting) (items : List String) : Decidable (Gives text k items) :=
  decidable_of_iff _ gives_iff.symm

theorem fieldPair?_eq_some {α β : Type} {first : String × (Value → Option α)}
    {second : String × (Value → Option β)} {set : Option α → Option β → SettingsFile}
    (h : fieldPair? first second set v = some f') :
    ∃ x y a b, fields? [first.1, second.1] v = some [x, y] ∧ given? first.2 x = some a ∧
      given? second.2 y = some b ∧ f' = set a b := by
  obtain ⟨fields, hfields, h⟩ := Option.bind_eq_some_iff.1 h
  split at h
  · obtain ⟨a, ha, h⟩ := Option.bind_eq_some_iff.1 h
    obtain ⟨b, hb, h⟩ := Option.bind_eq_some_iff.1 h
    cases h
    exact ⟨_, _, a, b, hfields, ha, hb, rfl⟩
  · cases h

theorem targeting?_eq_some (h : targeting? f v = some f') :
    ∃ exclude dirs respect a b c,
      fields? ["exclude", "excluded_dirs", "respect_gitignore"] v = some [exclude, dirs, respect] ∧
      given? strings? exclude = some a ∧ given? strings? dirs = some b ∧
      given? bool? respect = some c ∧
      f' = { f with exclude := a.getD [], excludedDirs := b, respectGitignore := c } := by
  obtain ⟨fields, hfields, h⟩ := Option.bind_eq_some_iff.1 h
  split at h
  · obtain ⟨a, ha, h⟩ := Option.bind_eq_some_iff.1 h
    obtain ⟨b, hb, h⟩ := Option.bind_eq_some_iff.1 h
    obtain ⟨c, hc, h⟩ := Option.bind_eq_some_iff.1 h
    cases h
    exact ⟨_, _, _, a, b, c, hfields, ha, hb, hc, rfl⟩
  · cases h

theorem calls?_eq_some (h : calls? f v = some f') :
    ∃ verbs a, fields? ["verbs"] v = some [verbs] ∧ given? strings? verbs = some a ∧
      f' = { f with verbs := a } := by
  obtain ⟨fields, hfields, h⟩ := Option.bind_eq_some_iff.1 h
  split at h
  · obtain ⟨a, ha, h⟩ := Option.bind_eq_some_iff.1 h
    cases h
    exact ⟨_, a, hfields, ha, rfl⟩
  · cases h

/-- A section says nothing about the settings of the others. -/
theorem list?_section?_of_ne {e : String × Value} (h : section? f e = some f')
    (hne : e.1 ≠ k.place.1) : f'.list? k = f.list? k := by
  revert h
  fun_cases section? f e with
  | case1 hname =>
    intro h
    obtain ⟨_, _, _, _, -, -, -, rfl⟩ := fieldPair?_eq_some h
    cases k <;> rfl
  | case2 hname =>
    intro h
    obtain ⟨_, _, _, _, _, _, -, -, -, -, rfl⟩ := targeting?_eq_some h
    cases k <;> first | rfl | exact absurd hname hne
  | case3 hname =>
    intro h
    obtain ⟨_, _, _, _, -, -, -, rfl⟩ := fieldPair?_eq_some h
    cases k <;> first | rfl | exact absurd hname hne
  | case4 hname =>
    intro h
    obtain ⟨_, _, _, _, -, -, -, rfl⟩ := fieldPair?_eq_some h
    cases k <;> first | rfl | exact absurd hname hne
  | case5 hname =>
    intro h
    obtain ⟨_, _, -, -, rfl⟩ := calls?_eq_some h
    cases k <;> first | rfl | exact absurd hname hne
  | case6 => rintro ⟨⟩

/-- A section that has a list under the name of a setting is read with that list; for a setting that is
no list it is refused. -/
theorem list?_section?_self {origin : Toml.Origin} {fields : List (String × Value)}
    (h : section? f (k.place.1, .table origin fields) = some f')
    (hfield : fields.lookup k.place.2 = some (.array (items.map .string))) :
    f'.list? k = some items := by
  have hlist : given? strings? (fields.lookup k.place.2) = some (some items) := by
    rw [hfield, given?, strings?_array]
    rfl
  have hstring : given? string? (fields.lookup k.place.2) = none := by rw [hfield]; rfl
  have hbool : given? bool? (fields.lookup k.place.2) = none := by rw [hfield]; rfl
  cases k with
  | format =>
    obtain ⟨_, _, _, _, hfields, ha, -⟩ := fieldPair?_eq_some h
    cases hfields
    cases ha.symm.trans hstring
  | quiet =>
    obtain ⟨_, _, _, _, hfields, -, hb, -⟩ := fieldPair?_eq_some h
    cases hfields
    cases hb.symm.trans hbool
  | exclude =>
    obtain ⟨_, _, _, _, _, _, hfields, ha, -, -, rfl⟩ := targeting?_eq_some h
    cases hfields
    cases ha.symm.trans hlist
    rfl
  | excludedDirs =>
    obtain ⟨_, _, _, _, _, _, hfields, -, hb, -, rfl⟩ := targeting?_eq_some h
    cases hfields
    cases hb.symm.trans hlist
    rfl
  | respectGitignore =>
    obtain ⟨_, _, _, _, _, _, hfields, -, -, hc, -⟩ := targeting?_eq_some h
    cases hfields
    cases hc.symm.trans hbool
  | endpointAnnotations =>
    obtain ⟨_, _, _, _, hfields, ha, -, rfl⟩ := fieldPair?_eq_some h
    cases hfields
    cases ha.symm.trans hlist
    rfl
  | entityMarkers =>
    obtain ⟨_, _, _, _, hfields, -, hb, rfl⟩ := fieldPair?_eq_some h
    cases hfields
    cases hb.symm.trans hlist
    rfl
  | routeDecorators =>
    obtain ⟨_, _, _, _, hfields, ha, -, rfl⟩ := fieldPair?_eq_some h
    cases hfields
    cases ha.symm.trans hlist
    rfl
  | modelBase =>
    obtain ⟨_, _, _, _, hfields, -, hb, -⟩ := fieldPair?_eq_some h
    cases hfields
    cases hb.symm.trans hstring
  | verbs =>
    obtain ⟨_, _, hfields, ha, rfl⟩ := calls?_eq_some h
    cases hfields
    cases ha.symm.trans hlist
    rfl

theorem list?_foldlM_of_not_mem {entries : List (String × Value)}
    (h : entries.foldlM section? f = some f') (hnot : k.place.1 ∉ entries.map Prod.fst) :
    f'.list? k = f.list? k := by
  induction entries generalizing f with
  | nil =>
    cases h
    rfl
  | cons e entries ih =>
    obtain ⟨next, hnext, h⟩ := Option.bind_eq_some_iff.1 h
    rw [List.map_cons, List.mem_cons, not_or] at hnot
    rw [ih h hnot.2, list?_section?_of_ne hnext (Ne.symm hnot.1)]

/-- A list that the text of a file gives for a setting is the one that is read from it. -/
theorem list?_read? {text : String} (h : read? text = some f) (hgives : Gives text k items) :
    f.list? k = some items := by
  obtain ⟨origin, entries, origin', fields, htext, hsection, hfield⟩ := hgives
  have hdistinct : (entries.map Prod.fst).Nodup := Toml.keysDistinct_read? htext
  rw [read?, htext] at h
  obtain ⟨before, after, rfl, -⟩ := List.lookup_eq_some_iff.1 hsection
  rw [List.map_append, List.map_cons] at hdistinct
  have hafter : k.place.1 ∉ after.map Prod.fst :=
    (List.nodup_cons.1 (List.nodup_append.1 hdistinct).2.1).1
  simp only [List.foldlM_append] at h
  obtain ⟨f₁, -, h⟩ := Option.bind_eq_some_iff.1 h
  obtain ⟨f₂, hf₂, h⟩ := Option.bind_eq_some_iff.1 h
  rw [list?_foldlM_of_not_mem h hafter, list?_section?_self hf₂ hfield]

end SettingsFile

/-! ### Lists of two files -/

namespace ResolvedSettings

variable {r : ResolvedSettings} {layers : List Layer} {f : SettingsFile} {source : Source}
  {k : Setting} {items : List String}

/-- A list that a file has for a setting replaces the one below, unless it is an empty list of
patterns. -/
theorem Reflects.list? (h : r.Reflects (f.layer source :: layers)) (hlist : f.list? k = some items)
    (hfull : k = .exclude → items ≠ []) :
    r.list? k = some items ∧ r.provenance.get? k.key = some source := by
  have hvalue := h.values k
  have hsource := h.sources k
  rw [Layer.topmost] at hvalue hsource
  cases k with
  | exclude =>
    cases hlist
    rw [SettingsFile.layer, if_neg (hfull rfl)] at hvalue hsource
    exact ⟨congrArg some hvalue, hsource⟩
  | excludedDirs | endpointAnnotations | entityMarkers | routeDecorators | verbs =>
    rw [SettingsFile.list?] at hlist
    rw [SettingsFile.layer, hlist] at hvalue hsource
    exact ⟨congrArg some hvalue, hsource⟩
  | format | quiet | respectGitignore | modelBase => cases hlist

/-- An empty list of patterns says nothing. -/
theorem Reflects.exclude_of_nil (h : r.Reflects (f.layer source :: layers)) (hnil : f.exclude = []) :
    r.exclude = (Layer.topmost layers .exclude).2 ∧
      r.provenance.get? Setting.exclude.key = some (Layer.topmost layers .exclude).1 := by
  have hvalue := h.values .exclude
  have hsource := h.sources .exclude
  rw [Layer.topmost, SettingsFile.layer, if_pos hnil] at hvalue hsource
  exact ⟨hvalue, hsource⟩

end ResolvedSettings

namespace Surroundings

/-- Patterns from the user's file or the defaults come from no project's file. -/
theorem source_user_ne (user : Option (Path × SettingsFile)) (file : Path) :
    (Layer.topmost (user.toList.map fun e => e.2.layer (.userFile e.1)) .exclude).1 ≠
      .projectFile file := by
  cases user with
  | none => exact Source.noConfusion
  | some found =>
    rw [Option.toList_some, List.map_singleton, Layer.topmost, SettingsFile.layer]
    split <;> exact Source.noConfusion

/-- A project's file that gives a list for a setting replaces that setting by its own, value and origin,
unless it is the list of patterns and is empty; then the patterns stay as the user's file or the
defaults have them. -/
theorem project_list_replaces_iff (s : Surroundings) (dir : Path)
    {user : Option (Path × SettingsFile)} {file : Path} {bytes : List Nat} {text : List Char}
    {f : SettingsFile} {k : Setting} {items : List String}
    (huser : SettingsFile.Says s.userSettings? user)
    (hproject : s.projectSettings? dir = some (file, bytes))
    (hdecode : Text.decode? bytes = some text)
    (hread : SettingsFile.read? (String.ofList text) = some f)
    (hgives : SettingsFile.Gives (String.ofList text) k items) :
    ∃ below r, s.layUser .default = .ok below ∧ s.layProject dir below = .ok r ∧
      (r.list? k = some items ∧ r.provenance.get? k.key = some (.projectFile file) ↔
        (k = .exclude → items ≠ [])) ∧
      (k = .exclude → items = [] → r.exclude = below.exclude ∧
        r.provenance.get? k.key = below.provenance.get? k.key) := by
  obtain ⟨below, hbelow, hbelows⟩ :=
    layFound_reflects huser ResolvedSettings.reflects_default .user .userFile
  rw [List.append_nil] at hbelows
  obtain ⟨r, hr, hreflects⟩ :=
    layFound_reflects (hproject ▸ SettingsFile.Says.file hdecode hread) hbelows .project .projectFile
  have hlist := SettingsFile.list?_read? hread hgives
  refine ⟨below, r, hbelow, hr, ⟨?_, hreflects.list? hlist⟩, ?_⟩
  · -- an empty list leaves the origin below, which is no project's file
    rintro ⟨-, hsource⟩ rfl rfl
    rw [(hreflects.exclude_of_nil (Option.some.inj hlist)).2] at hsource
    exact source_user_ne user file (Option.some.inj hsource)
  · rintro rfl rfl
    obtain ⟨hvalue, hsource⟩ := hreflects.exclude_of_nil (Option.some.inj hlist)
    exact ⟨hvalue.trans (hbelows.values .exclude).symm,
      hsource.trans (hbelows.sources .exclude).symm⟩

/-- Both files have verbs: those of the project's file count, even though there are none. -/
theorem project_list_replaces_verbs :
    let bytes (text : String) : List Nat := text.toList.map Char.toNat
    let userText := "[calls]\nverbs = [\"put\"]\n"
    let projectText := "[calls]\nverbs = []\n"
    let disk : Disk := ⟨.directory [("u.toml", .file (bytes userText)),
      ("p", .directory [(".svcmap.toml", .file (bytes projectText))])], []⟩
    let s : Surroundings := ⟨disk, {}, some ⟨"/u.toml"⟩⟩
    SettingsFile.Says s.userSettings? (some (⟨"/u.toml"⟩, { verbs := some ["put"] })) ∧
    SettingsFile.Gives projectText .verbs [] ∧
    ∃ below r, s.layUser .default = .ok below ∧ s.layProject ⟨"/p"⟩ below = .ok r ∧
      r.list? .verbs = some [] ∧
      r.provenance.get? "calls.verbs" = some (.projectFile ⟨"/p/.svcmap.toml"⟩) := by
  intro bytes userText projectText disk s
  have hfound : s.userSettings? = some (⟨"/u.toml"⟩, bytes userText) := by decide +kernel
  have huser : SettingsFile.Says s.userSettings?
      (some (⟨"/u.toml"⟩, { verbs := some ["put"] })) := by
    rw [hfound]
    exact .file (by decide +kernel : Text.decode? _ = some userText.toList) (by decide +kernel)
  have hproject : s.projectSettings? ⟨"/p"⟩ = some (⟨"/p/.svcmap.toml"⟩, bytes projectText) := by
    decide +kernel
  have hread : SettingsFile.read? (String.ofList projectText.toList) =
      some { verbs := some [] } := by decide +kernel
  have hgives : SettingsFile.Gives projectText .verbs [] := by decide +kernel
  obtain ⟨below, r, hbelow, hr, hreplaced, -⟩ := project_list_replaces_iff s ⟨"/p"⟩ huser hproject
    (by decide +kernel : Text.decode? _ = some projectText.toList) hread
    (by rw [String.ofList_toList]; exact hgives)
  exact ⟨huser, hgives, below, r, hbelow, hr, hreplaced.2 (by decide)⟩

/-- The project's file has an empty list of patterns, and those of the user's file stay. -/
theorem empty_exclude_passed_over :
    let bytes (text : String) : List Nat := text.toList.map Char.toNat
    let projectText := "[targeting]\nexclude = []\n"
    let disk : Disk := ⟨.directory [("u.toml", .file (bytes "[targeting]\nexclude = [\"a\"]\n")),
      ("p", .directory [(".svcmap.toml", .file (bytes projectText))])], []⟩
    let s : Surroundings := ⟨disk, {}, some ⟨"/u.toml"⟩⟩
    SettingsFile.Gives projectText .exclude [] ∧
    s.projectSettings? ⟨"/p"⟩ = some (⟨"/p/.svcmap.toml"⟩, bytes projectText) ∧
    ((s.layUser .default >>= s.layProject ⟨"/p"⟩).toOption.map fun r =>
      (r.exclude, r.provenance.get? "targeting.exclude")) =
        some (["a"], some (.userFile ⟨"/u.toml"⟩)) := by
  intro bytes projectText disk s
  exact ⟨by decide +kernel, by decide +kernel, by decide +kernel⟩

end Surroundings

end ServiceAtlas
