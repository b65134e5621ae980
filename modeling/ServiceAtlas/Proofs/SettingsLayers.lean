import ServiceAtlas.Proofs.OrderedMapHistory
import ServiceAtlas.Settings.Resolve
import ServiceAtlas.Settings.Show

/-!
Where settings come from. A layer says something about some of the settings (`Layer`), and of
several layers the strongest one that says anything about a setting counts (`Layer.topmost`). Each
of the steps that make up the settings of a directory lays one such layer over what is there
(`LaysAt`), value and origin together, so that the settings reflect all layers (`Reflects`).
-/

namespace ServiceAtlas

/-! ### Settings as a family of values -/

/-- What a setting can be set to. -/
abbrev Setting.Value : Setting → Type
  | .format => Option String
  | .quiet | .respectGitignore => Bool
  | .modelBase => String
  | .exclude | .excludedDirs | .endpointAnnotations | .entityMarkers | .routeDecorators | .verbs =>
    List String

def Settings.get (s : Settings) : (k : Setting) → k.Value
  | .format => s.format
  | .quiet => s.quiet
  | .exclude => s.exclude
  | .excludedDirs => s.excludedDirs
  | .respectGitignore => s.respectGitignore
  | .endpointAnnotations => s.java.endpointAnnotations
  | .entityMarkers => s.java.entityMarkers
  | .routeDecorators => s.python.routeDecorators
  | .modelBase => s.python.modelBase
  | .verbs => s.verbs

def Settings.put (s : Settings) : (k : Setting) → k.Value → Settings
  | .format, v => { s with format := v }
  | .quiet, v => { s with quiet := v }
  | .exclude, v => { s with exclude := v }
  | .excludedDirs, v => { s with excludedDirs := v }
  | .respectGitignore, v => { s with respectGitignore := v }
  | .endpointAnnotations, v => { s with java := { s.java with endpointAnnotations := v } }
  | .entityMarkers, v => { s with java := { s.java with entityMarkers := v } }
  | .routeDecorators, v => { s with python := { s.python with routeDecorators := v } }
  | .modelBase, v => { s with python := { s.python with modelBase := v } }
  | .verbs, v => { s with verbs := v }

@[simp] theorem Settings.get_put_self (s : Settings) (k : Setting) (v : k.Value) :
    (s.put k v).get k = v := by
  cases k <;> rfl

theorem Settings.get_put_of_ne (s : Settings) {j k : Setting} (h : j ≠ k) (v : j.Value) :
    (s.put j v).get k = s.get k := by
  cases j <;> cases k <;> first | contradiction | rfl

namespace Setting

theorem mem_all (k : Setting) : k ∈ all := by
  cases k <;> decide

theorem nodup_keys : (all.map key).Nodup := by
  decide +kernel

theorem key_injective : Function.Injective key := fun j k h =>
  List.inj_on_of_nodup_map nodup_keys (mem_all j) (mem_all k) h

theorem ofKey?_key (k : Setting) : ofKey? k.key = some k := by
  have h : (fun j : Setting => decide (j.key = k.key)) = fun j => decide (j = k) := by
    funext j
    rw [decide_eq_decide, key_injective.eq_iff]
  rw [ofKey?, h]
  cases k <;> rfl

end Setting

/-! ### Layers -/

/-- What a layer says about each setting: where it is set and to what, or nothing. -/
def Layer := (k : Setting) → Option (Source × k.Value)

/-- What is said about a setting by the strongest layer that says anything about it; the strongest
comes first, and the defaults lie below all. -/
def Layer.topmost : List Layer → (k : Setting) → Source × k.Value
  | [], k => (.default, Settings.default.get k)
  | layer :: weaker, k => (layer k).getD (topmost weaker k)

/-- A file sets what it has a field for; an empty list of patterns sets nothing. -/
def SettingsFile.layer (f : SettingsFile) (source : Source) : Layer
  | .format => f.format.map fun v => (source, some v)
  | .quiet => f.quiet.map fun v => (source, v)
  | .exclude => if f.exclude = [] then none else some (source, f.exclude)
  | .excludedDirs => f.excludedDirs.map fun v => (source, v)
  | .respectGitignore => f.respectGitignore.map fun v => (source, v)
  | .endpointAnnotations => f.endpointAnnotations.map fun v => (source, v)
  | .entityMarkers => f.entityMarkers.map fun v => (source, v)
  | .routeDecorators => f.routeDecorators.map fun v => (source, v)
  | .modelBase => f.modelBase.map fun v => (source, v)
  | .verbs => f.verbs.map fun v => (source, v)

/-- The environment sets what it has a variable for. -/
def Environment.layer (e : Environment) : Layer
  | .format => e.format.map fun v => (.environment "SVCMAP_FORMAT", some v)
  | .quiet => e.quiet.map fun v =>
    (.environment "SVCMAP_QUIET", v == "1" || Text.lower v == "true")
  | .exclude => e.exclude.map fun v =>
    (.environment "SVCMAP_EXCLUDE", ResolvedSettings.splitList v)
  | _ => none

/-- Flags can switch on but not off, and their patterns are added to those that hold below. -/
def Overrides.layer (o : Overrides) (below : List String) : Layer
  | .format => o.format.map fun f => (.flag "--format", some f.name)
  | .quiet => if o.quiet then some (.flag "--quiet", true) else none
  | .exclude => if o.exclude = [] then none else some (.flag "--exclude", below ++ o.exclude)
  | .respectGitignore =>
    if o.respectGitignore then some (.flag "--respect-gitignore", true) else none
  | _ => none

namespace ResolvedSettings

/-- The settings are those of the layers, each with the origin of its value. -/
structure Reflects (r : ResolvedSettings) (layers : List Layer) : Prop where
  keys : r.provenance.keys = Setting.all.map Setting.key
  sources : ∀ k : Setting, r.provenance.get? k.key = some (Layer.topmost layers k).1
  values : ∀ k : Setting, r.get k = (Layer.topmost layers k).2

/-! ### Laying a layer setting by setting -/

/-- Of a setting, `r'` has what is said about it, value and origin; if nothing is, then what `r`
has. -/
structure LaysAt (k : Setting) (said : Option (Source × k.Value)) (r r' : ResolvedSettings) :
    Prop where
  source : r'.provenance.get? k.key = (said.map Prod.fst).or (r.provenance.get? k.key)
  value : r'.get k = (said.map Prod.snd).getD (r.get k)

/-- Takes over what the layer says about one setting. -/
def layOne (layer : Layer) (r : ResolvedSettings) (k : Setting) : ResolvedSettings :=
  match layer k with
  | none => r
  | some (source, v) => r.set k source fun s => s.put k v

variable {r r' r'' : ResolvedSettings} {layer : Layer} {layers : List Layer} {j k : Setting}

theorem LaysAt.refl : LaysAt k none r r := ⟨rfl, rfl⟩

theorem LaysAt.trans {a b : Option (Source × k.Value)} (h : LaysAt k a r r')
    (h' : LaysAt k b r' r'') : LaysAt k (b.or a) r r'' := by
  refine ⟨?_, ?_⟩
  · rw [h'.source, h.source]
    cases b <;> rfl
  · rw [h'.value, h.value]
    cases b <;> rfl

theorem laysAt_set (r : ResolvedSettings) (k : Setting) (source : Source) (v : k.Value) :
    LaysAt k (some (source, v)) r (r.set k source fun s => s.put k v) := by
  refine ⟨?_, Settings.get_put_self _ k v⟩
  rw [set, OrderedMap.insert, OrderedMap.get?_alter, if_pos rfl]
  rfl

theorem laysAt_set_of_ne (h : j ≠ k) (r : ResolvedSettings) (source : Source) (v : j.Value) :
    LaysAt k none r (r.set j source fun s => s.put j v) := by
  refine ⟨?_, Settings.get_put_of_ne _ h v⟩
  rw [set, OrderedMap.insert, OrderedMap.get?_alter, if_neg (Setting.key_injective.ne h)]
  rfl

theorem laysAt_layOne (layer : Layer) (r : ResolvedSettings) (j k : Setting) :
    LaysAt k (if j = k then layer k else none) r (layOne layer r j) := by
  rw [layOne]
  by_cases hjk : j = k
  · subst hjk
    rw [if_pos rfl]
    cases layer j with
    | none => exact .refl
    | some said => exact laysAt_set r j said.1 said.2
  · rw [if_neg hjk]
    cases layer j with
    | none => exact .refl
    | some said => exact laysAt_set_of_ne hjk r said.1 said.2

theorem laysAt_foldl (layer : Layer) (ks : List Setting) (k : Setting) (r : ResolvedSettings) :
    LaysAt k (if k ∈ ks then layer k else none) r (ks.foldl (layOne layer) r) := by
  induction ks generalizing r with
  | nil => exact .refl
  | cons j ks ih =>
    have h := (laysAt_layOne layer r j k).trans (ih (layOne layer r j))
    rw [List.foldl_cons]
    convert h using 1
    -- what a later step says wins, but it says what the first one did
    by_cases hj : j = k
    · subst hj
      by_cases hk : j ∈ ks <;> simp [hk]
    · have hj' : ¬ k = j := fun e => hj e.symm
      by_cases hk : k ∈ ks <;> simp [hk, hj, hj']

theorem keys_layOne (h : r.provenance.keys = Setting.all.map Setting.key) (k : Setting) :
    (layOne layer r k).provenance.keys = Setting.all.map Setting.key := by
  rw [layOne]
  split
  · exact h
  · rw [set, OrderedMap.insert, OrderedMap.keys_alter, h, if_pos (List.mem_map_of_mem k.mem_all)]

theorem keys_foldl_layOne (h : r.provenance.keys = Setting.all.map Setting.key)
    (ks : List Setting) :
    (ks.foldl (layOne layer) r).provenance.keys = Setting.all.map Setting.key := by
  induction ks generalizing r with
  | nil => exact h
  | cons k ks ih => exact ih (keys_layOne h k)

/-- A layer lies over all others once it is laid for each setting about which it says anything. -/
theorem Reflects.foldl (h : r.Reflects layers) (ks : List Setting)
    (hks : ∀ k, k ∉ ks → layer k = none) :
    (ks.foldl (layOne layer) r).Reflects (layer :: layers) := by
  have hlays : ∀ k, LaysAt k (layer k) r (ks.foldl (layOne layer) r) := by
    intro k
    have hk := laysAt_foldl layer ks k r
    split at hk
    · exact hk
    · rename_i hmem
      rwa [hks k hmem]
  refine ⟨keys_foldl_layOne h.keys ks, fun k => ?_, fun k => ?_⟩
  · rw [(hlays k).source, h.sources, Layer.topmost]
    cases layer k <;> rfl
  · rw [(hlays k).value, h.values, Layer.topmost]
    cases layer k <;> rfl

/-! ### The layers of a directory -/

theorem reflects_default : default.Reflects [] := by
  refine ⟨by decide +kernel, fun k => ?_, fun k => rfl⟩
  cases k <;> decide +kernel

theorem setGiven_eq_layOne {α : Type} (layer : Layer) (k : Setting) (value : α → k.Value)
    {source : Source} {given : Option α} {change : α → Settings → Settings}
    (hlayer : layer k = given.map fun v => (source, value v))
    (hchange : ∀ v, change v r.toSettings = r.toSettings.put k (value v)) :
    r.setGiven k source given change = layOne layer r k := by
  rw [layOne, hlayer]
  cases given with
  | none => rfl
  | some v =>
    show r.set k source (change v) = r.set k source fun s => s.put k (value v)
    rw [set, set, hchange]

theorem layFile_eq_foldl (r : ResolvedSettings) (source : Source) (f : SettingsFile) :
    r.layFile source f = Setting.all.foldl (layOne (f.layer source)) r := by
  have hexclude : f.layer source .exclude =
      (if f.exclude.isEmpty then none else some f.exclude).map fun v => (source, v) := by
    rw [SettingsFile.layer]
    cases f.exclude <;> rfl
  rw [layFile, setGiven_eq_layOne (f.layer source) .format some rfl,
    setGiven_eq_layOne (f.layer source) .quiet id rfl,
    setGiven_eq_layOne (f.layer source) .exclude id hexclude,
    setGiven_eq_layOne (f.layer source) .excludedDirs id rfl,
    setGiven_eq_layOne (f.layer source) .respectGitignore id rfl,
    setGiven_eq_layOne (f.layer source) .endpointAnnotations id rfl,
    setGiven_eq_layOne (f.layer source) .entityMarkers id rfl,
    setGiven_eq_layOne (f.layer source) .routeDecorators id rfl,
    setGiven_eq_layOne (f.layer source) .modelBase id rfl,
    setGiven_eq_layOne (f.layer source) .verbs id rfl]
  · rfl
  all_goals exact fun _ => rfl

theorem layEnvironment_eq_foldl (r : ResolvedSettings) (e : Environment) :
    r.layEnvironment e = [.format, .quiet, .exclude].foldl (layOne e.layer) r := by
  rw [layEnvironment, setGiven_eq_layOne e.layer .format some rfl,
    setGiven_eq_layOne e.layer .quiet saysYes rfl,
    setGiven_eq_layOne e.layer .exclude splitList rfl]
  · rfl
  all_goals exact fun _ => rfl

theorem layFlags_eq_foldl (r : ResolvedSettings) (o : Overrides) :
    r.layFlags o =
      [.format, .quiet, .exclude, .respectGitignore].foldl (layOne (o.layer r.exclude)) r := by
  have hquiet : o.layer r.exclude .quiet =
      (if o.quiet then some () else none).map fun _ => (.flag "--quiet", true) := by
    rw [Overrides.layer]
    cases o.quiet <;> rfl
  have hexclude : o.layer r.exclude .exclude =
      (if o.exclude.isEmpty then none else some o.exclude).map fun v =>
        (.flag "--exclude", r.exclude ++ v) := by
    rw [Overrides.layer]
    cases o.exclude <;> rfl
  have hrespect : o.layer r.exclude .respectGitignore =
      (if o.respectGitignore then some () else none).map fun _ =>
        (.flag "--respect-gitignore", true) := by
    rw [Overrides.layer]
    cases o.respectGitignore <;> rfl
  -- the patterns that flags add to are those of `r`: neither earlier step touches them
  have hkept : (layOne (o.layer r.exclude) (layOne (o.layer r.exclude) r .format) .quiet).exclude =
      r.exclude :=
    (laysAt_foldl (o.layer r.exclude) [.format, .quiet] .exclude r).value
  rw [layFlags, setGiven_eq_layOne (o.layer r.exclude) .format (fun f => some f.name) rfl,
    setGiven_eq_layOne (o.layer r.exclude) .quiet (fun _ => true) hquiet,
    setGiven_eq_layOne (o.layer r.exclude) .exclude (r.exclude ++ ·) hexclude,
    setGiven_eq_layOne (o.layer r.exclude) .respectGitignore (fun _ => true) hrespect]
  · rfl
  · exact fun _ => rfl
  · intro v
    rw [hkept]
    rfl
  · exact fun _ => rfl
  · exact fun _ => rfl

theorem Reflects.layFile (h : r.Reflects layers) (source : Source) (f : SettingsFile) :
    (r.layFile source f).Reflects (f.layer source :: layers) := by
  rw [layFile_eq_foldl]
  exact h.foldl _ fun k hk => (hk k.mem_all).elim

theorem Reflects.layEnvironment (h : r.Reflects layers) (e : Environment) :
    (r.layEnvironment e).Reflects (e.layer :: layers) := by
  rw [layEnvironment_eq_foldl]
  refine h.foldl _ fun k => ?_
  cases k <;> simp [Environment.layer]

theorem Reflects.layFlags (h : r.Reflects layers) (o : Overrides) :
    (r.layFlags o).Reflects (o.layer (Layer.topmost layers .exclude).2 :: layers) := by
  have hbelow : r.exclude = (Layer.topmost layers .exclude).2 := h.values .exclude
  rw [layFlags_eq_foldl, hbelow]
  refine h.foldl _ fun k => ?_
  cases k <;> simp [Overrides.layer]

theorem Reflects.withLoadedFiles (h : r.Reflects layers) (files : List Path) :
    Reflects { r with loadedFiles := files } layers :=
  ⟨h.keys, h.sources, h.values⟩

theorem Reflects.withIgnorePatterns (h : r.Reflects layers) (patterns : List String) :
    Reflects { r with ignorePatterns := patterns } layers := by
  refine ⟨h.keys, h.sources, fun k => ?_⟩
  rw [← h.values k]
  cases k <;> rfl

end ResolvedSettings

/-! ### Settings files -/

/-- What is said by what is found: a file that can be read says what it holds, and where there is no
file nothing is said. -/
inductive SettingsFile.Says : Option (Path × List Nat) → Option (Path × SettingsFile) → Prop
  | nothing : Says none none
  | file {path : Path} {bytes : List Nat} {text : List Char} {f : SettingsFile}
    (hdecode : Text.decode? bytes = some text)
    (hread : SettingsFile.read? (String.ofList text) = some f) :
    Says (some (path, bytes)) (some (path, f))

namespace Surroundings

open ResolvedSettings

variable {s : Surroundings} {r : ResolvedSettings} {layers : List Layer}

theorem laySettingsFile_reflects {bytes : List Nat} {text : List Char} {f : SettingsFile}
    (hdecode : Text.decode? bytes = some text)
    (hread : SettingsFile.read? (String.ofList text) = some f)
    (h : r.Reflects layers) (layer : SettingsLayer) (source : Source) (file : Path) :
    ∃ r', laySettingsFile layer source file bytes r = .ok r' ∧
      r'.Reflects (f.layer source :: layers) := by
  simp only [laySettingsFile, hdecode, hread]
  exact ⟨_, rfl, (h.layFile source f).withLoadedFiles _⟩

theorem layFound_reflects {found : Option (Path × List Nat)} {said : Option (Path × SettingsFile)}
    (hfound : SettingsFile.Says found said) (h : r.Reflects layers) (layer : SettingsLayer)
    (source : Path → Source) :
    ∃ r', layFound layer source found r = .ok r' ∧
      r'.Reflects (said.toList.map (fun e => e.2.layer (source e.1)) ++ layers) := by
  cases hfound with
  | nothing => exact ⟨r, rfl, h⟩
  | file hdecode hread => exact laySettingsFile_reflects hdecode hread h _ _ _

end Surroundings

/-! ### The display -/

namespace Setting

/-- A value as it is shown. -/
def text : (k : Setting) → k.Value → String
  | .format, v => v.getD "(command default)"
  | .quiet, v | .respectGitignore, v => if v then "true" else "false"
  | .modelBase, v => v
  | .exclude, v | .excludedDirs, v | .endpointAnnotations, v | .entityMarkers, v
  | .routeDecorators, v | .verbs, v => Text.quotedList v

/-- All settings in the order of their keys. -/
def inKeyOrder : List Setting :=
  [.verbs, .format, .quiet, .endpointAnnotations, .entityMarkers, .modelBase, .routeDecorators,
   .exclude, .excludedDirs, .respectGitignore]

theorem perm_inKeyOrder : inKeyOrder.Perm all := by decide

theorem mergeSort_all :
    all.mergeSort (fun j k => decide (j.key ≤ k.key)) = inKeyOrder := by
  have htrans : ∀ i j k : Setting, decide (i.key ≤ j.key) = true → decide (j.key ≤ k.key) = true →
      decide (i.key ≤ k.key) = true := by
    intro i j k hij hjk
    exact decide_eq_true (String.le_trans (of_decide_eq_true hij) (of_decide_eq_true hjk))
  have htotal : ∀ j k : Setting, (decide (j.key ≤ k.key) || decide (k.key ≤ j.key)) = true := by
    intro j k
    simpa using String.le_total j.key k.key
  refine List.Perm.eq_of_pairwise (fun j k _ _ hjk hkj => ?_)
    (List.pairwise_mergeSort htrans htotal all) (by decide +kernel)
    ((List.mergeSort_perm _ _).trans perm_inKeyOrder.symm)
  exact key_injective (String.le_antisymm (of_decide_eq_true hjk) (of_decide_eq_true hkj))

end Setting

theorem Settings.valueText_eq (s : Settings) (k : Setting) : s.valueText k = k.text (s.get k) := by
  cases k <;> rfl

namespace ResolvedSettings

variable {r : ResolvedSettings} {layers : List Layer}

theorem settingLine_key (r : ResolvedSettings) (k : Setting) (source : Source) :
    r.settingLine (k.key, source) =
      "  " ++ k.key ++ ": " ++ k.text (r.get k) ++ " <- " ++ source.text := by
  rw [settingLine, Setting.ofKey?_key, Option.map_some, Option.getD_some, Settings.valueText_eq]

theorem Reflects.sorted (h : r.Reflects layers) :
    r.provenance.sorted =
      Setting.inKeyOrder.map fun k => (k.key, (Layer.topmost layers k).1) := by
  have hentries : r.provenance.entries =
      Setting.all.map fun k => (k.key, (Layer.topmost layers k).1) := by
    rw [OrderedMap.entries_eq_filterMap, h.keys, List.filterMap_map, ← List.filterMap_eq_map]
    refine List.filterMap_congr fun k _ => ?_
    rw [Function.comp_apply, Function.comp_apply, h.sources]
    rfl
  rw [Provenance.sorted, hentries, ← Setting.mergeSort_all, List.map_mergeSort]
  exact fun _ _ _ _ => rfl

theorem Reflects.showLines (h : r.Reflects layers) :
    r.showLines = r.fileLines ++ ["", "Resolved settings:"] ++
      Setting.inKeyOrder.map (fun k => "  " ++ k.key ++ ": " ++ k.text (r.get k) ++ " <- " ++
        (Layer.topmost layers k).1.text) ++ r.patternLines := by
  have hlines : (Setting.inKeyOrder.map fun k => (k.key, (Layer.topmost layers k).1)).map
      r.settingLine = Setting.inKeyOrder.map fun k => "  " ++ k.key ++ ": " ++ k.text (r.get k) ++
        " <- " ++ (Layer.topmost layers k).1.text := by
    rw [List.map_map]
    exact List.map_congr_left fun k _ => settingLine_key r k _
  rw [ResolvedSettings.showLines, h.sorted, hlines]

end ResolvedSettings

namespace Surroundings

/-- Each setting of a directory is as the strongest layer has it that says anything about it: the
flags, the environment, the project's file, the user's file or the defaults. The display has one
line for each, with its value and its origin. -/
theorem settings_reflect_layers (s : Surroundings) (dir : Path) (o : Overrides)
    (user project : Option (Path × SettingsFile))
    (huser : SettingsFile.Says s.userSettings? user)
    (hproject : SettingsFile.Says (s.projectSettings? dir) project) :
    let below : List Layer := s.environment.layer ::
      (project.toList.map (fun e => e.2.layer (.projectFile e.1)) ++
        user.toList.map fun e => e.2.layer (.userFile e.1))
    let layers := o.layer (Layer.topmost below .exclude).2 :: below
    ∃ r, s.settings dir o = .ok r ∧ r.value.Reflects layers ∧
      r.value.showLines = r.value.fileLines ++ ["", "Resolved settings:"] ++
        Setting.inKeyOrder.map (fun k => "  " ++ k.key ++ ": " ++ k.text (r.value.get k) ++
          " <- " ++ (Layer.topmost layers k).1.text) ++ r.value.patternLines ∧
      Setting.inKeyOrder.Perm Setting.all := by
  intro below layers
  obtain ⟨r₁, hr₁, h₁⟩ := layFound_reflects huser ResolvedSettings.reflects_default .user .userFile
  obtain ⟨r₂, hr₂, h₂⟩ := layFound_reflects hproject h₁ .project .projectFile
  rw [List.append_nil] at h₂
  have h := ((h₂.layEnvironment s.environment).layFlags o).withIgnorePatterns
    (s.disk.ignorePatterns dir.ancestors).value
  refine ⟨⟨_, (s.disk.ignorePatterns dir.ancestors).log⟩, ?_, h, h.showLines,
    Setting.perm_inKeyOrder⟩
  simp only [settings, layUser, layProject, hr₁, bind, Except.bind, hr₂]
  rfl

/-- All layers at once: verbs from the user's file, patterns from the project's file with one more
from a flag, quiet by the environment. -/
theorem settings_of_five_layers :
    let bytes (text : String) : List Nat := text.toList.map Char.toNat
    let userText := "[calls]\nverbs=[\"put\"]\n[targeting]\nexclude=[\"a\"]"
    let projectText := "[targeting]\nexclude=[\"b\"]"
    let disk : Disk := ⟨.directory [("u.toml", .file (bytes userText)),
      ("p", .directory [(".svcmap.toml", .file (bytes projectText))])], []⟩
    let s : Surroundings := ⟨disk, { quiet := some "True" }, some ⟨"/u.toml"⟩⟩
    let user : SettingsFile := { exclude := ["a"], verbs := some ["put"] }
    let project : SettingsFile := { exclude := ["b"] }
    SettingsFile.Says s.userSettings? (some (⟨"/u.toml"⟩, user)) ∧
    SettingsFile.Says (s.projectSettings? ⟨"/p"⟩) (some (⟨"/p/.svcmap.toml"⟩, project)) ∧
    ∃ r, s.settings ⟨"/p"⟩ { exclude := ["c"] } = .ok r ∧
      (r.value.verbs = ["put"] ∧
        r.value.provenance.get? "calls.verbs" = some (.userFile ⟨"/u.toml"⟩)) ∧
      (r.value.exclude = ["b", "c"] ∧
        r.value.provenance.get? "targeting.exclude" = some (.flag "--exclude")) ∧
      (r.value.quiet = true ∧
        r.value.provenance.get? "defaults.quiet" = some (.environment "SVCMAP_QUIET")) := by
  intro bytes userText projectText disk s user project
  have huser : s.userSettings? = some (⟨"/u.toml"⟩, bytes userText) := by decide +kernel
  have hproject : s.projectSettings? ⟨"/p"⟩ = some (⟨"/p/.svcmap.toml"⟩, bytes projectText) := by
    decide +kernel
  have huser' : SettingsFile.Says s.userSettings? (some (⟨"/u.toml"⟩, user)) := by
    rw [huser]
    exact .file (by decide +kernel : Text.decode? _ = some userText.toList) (by decide +kernel)
  have hproject' : SettingsFile.Says (s.projectSettings? ⟨"/p"⟩)
      (some (⟨"/p/.svcmap.toml"⟩, project)) := by
    rw [hproject]
    exact .file (by decide +kernel : Text.decode? _ = some projectText.toList) (by decide +kernel)
  obtain ⟨r, hr, hreflects, -⟩ :=
    settings_reflect_layers s ⟨"/p"⟩ { exclude := ["c"] } _ _ huser' hproject'
  exact ⟨huser', hproject', r, hr, ⟨hreflects.values .verbs, hreflects.sources .verbs⟩,
    ⟨hreflects.values .exclude, hreflects.sources .exclude⟩,
    ⟨hreflects.values .quiet, hreflects.sources .quiet⟩⟩

end Surroundings

end ServiceAtlas
