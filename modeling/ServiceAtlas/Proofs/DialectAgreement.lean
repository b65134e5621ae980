import ServiceAtlas.Proofs.PropertiesWriting
import ServiceAtlas.Proofs.UrlTableHistory
import ServiceAtlas.Proofs.Yaml.FlatMapping

/-!
Assignments that both dialects of configuration files write alike: a key, a colon and a URL on each
line. Each reader goes its own way, through logical lines that are cut at their first separator or
through tokens and events, and both give these assignments (`Dialect.urlPairs_fileText`).
-/

namespace ServiceAtlas

/-- A URL under a key of letters that mentions one. Of signs, its address holds only slashes, full
stops and hyphens. -/
structure UrlAssignment where
  key : String
  address : String
  letters : ∀ c ∈ key.toList, c.isAlpha = true
  short : key.length ≤ 1000
  mentionsUrl : MentionsUrl key
  plain : ∀ c ∈ address.toList, c.isLower = true ∨ c.isDigit = true ∨ c ∈ ['/', '.', '-']

namespace UrlAssignment

variable (a : UrlAssignment)

def value : String := "http://" ++ a.address

def pair : String × String := (a.key, a.value)

def line : String := a.key ++ ": " ++ a.value

/-- A file with one assignment on each line. -/
def fileText (as : List UrlAssignment) (ending : String) : String :=
  "\n".intercalate (as.map line) ++ ending

/-! ### Characters -/

/-- The characters of keys and values. -/
def IsPlainChar (c : Char) : Prop := c.isAlphanum = true ∨ c ∈ [':', '/', '.', '-']

theorem IsPlainChar.isPrintable {c : Char} (h : IsPlainChar c) : IsPrintable c ∧ c ≠ ' ' := by
  rcases h with h | h
  · exact ⟨isPrintable_of_isAlphanum h, by rintro rfl; cases h⟩
  · simp only [List.mem_cons, List.not_mem_nil, or_false] at h
    rcases h with rfl | rfl | rfl | rfl <;> decide

theorem isPlainChar_of_isAlpha {c : Char} (h : c.isAlpha = true) : IsPlainChar c :=
  .inl (Bool.or_eq_true_iff.2 (.inl h))

theorem isPlainChar_of_mem_value : ∀ c ∈ a.value.toList, IsPlainChar c := by
  rw [value, String.toList_append, List.forall_mem_append]
  constructor
  · simp [IsPlainChar]
  · intro c hc
    rcases a.plain c hc with h | h | h
    · exact isPlainChar_of_isAlpha (Bool.or_eq_true_iff.2 (.inr h))
    · exact .inl (Bool.or_eq_true_iff.2 (.inr h))
    · exact .inr (List.mem_cons_of_mem _ h)

theorem exists_key_eq : ∃ c cs, a.key.toList = c :: cs ∧ c.isAlpha = true := by
  cases hkey : a.key.toList with
  | nil =>
    have hurl := a.mentionsUrl
    rw [MentionsUrl, hkey] at hurl
    exact absurd hurl (by decide)
  | cons c cs => exact ⟨c, cs, rfl, a.letters c (by rw [hkey]; exact List.mem_cons_self)⟩

theorem toList_value : a.value.toList = 'h' :: ("ttp://".toList ++ a.address.toList) := by
  simp [value]

theorem getLast?_value_ne : a.value.toList.getLast? ≠ some ':' := by
  intro hlast
  rw [value, String.toList_append, List.getLast?_append] at hlast
  cases haddress : a.address.toList.getLast? with
  | none =>
    rw [haddress] at hlast
    exact absurd hlast (by decide)
  | some c =>
    rw [haddress] at hlast
    cases hlast
    exact absurd (a.plain ':' (List.mem_of_getLast? haddress)) (by decide)

/-! ### In YAML -/

def plainPair : Yaml.PlainPair where
  key := a.key
  value := a.value
  plainKey := by
    obtain ⟨c, cs, hkey, hc⟩ := a.exists_key_eq
    have hletters := a.letters
    rw [hkey] at hletters ⊢
    refine Yaml.isPlainWord_of_isAlpha hc
      (fun d hd => (isPlainChar_of_isAlpha (hletters d hd)).isPrintable) fun hlast => ?_
    cases hletters _ (List.mem_of_getLast? hlast)
  shortKey := by
    have hshort := a.short
    rw [← String.length_toList] at hshort
    omega
  plainValue := by
    have hchars := a.isPlainChar_of_mem_value
    have hlast := a.getLast?_value_ne
    rw [toList_value] at hchars hlast ⊢
    exact Yaml.isPlainWord_of_isAlpha rfl (fun d hd => (hchars d hd).isPrintable) hlast

theorem readsAsStrings : Yaml.Value.ReadsAsStrings a.pair := by
  obtain ⟨c, cs, hkey, hc⟩ := a.exists_key_eq
  refine ⟨Yaml.Value.ofPlain?_of_isAlpha hkey hc fun hmem => ?_,
    Yaml.Value.ofPlain?_of_isAlpha a.toList_value rfl fun hmem => ?_⟩
  · have hwords : ∀ w ∈ Yaml.Value.keywords, ¬ MentionsUrl w := by decide
    exact hwords _ hmem a.mentionsUrl
  · have hwords : ∀ w ∈ Yaml.Value.keywords, w.toList.head? ≠ some 'h' := by decide
    exact hwords _ hmem (congrArg List.head? a.toList_value)

theorem toList_line : a.line.toList = a.key.toList ++ ':' :: ' ' :: a.value.toList := by
  simp [line]

theorem toList_fileText (as : List UrlAssignment) (ending : String) :
    (fileText as ending).toList = Yaml.PlainPair.text (as.map plainPair) ending.toList := by
  have hlines : (as.map line).map String.toList = (as.map plainPair).map Yaml.PlainPair.line := by
    rw [List.map_map, List.map_map]
    exact List.map_congr_left fun a _ => a.toList_line
  rw [fileText, String.toList_append, String.toList_intercalate, hlines]
  rfl

/-! ### In a flat file -/

theorem IsPlainChar.isBlank {c : Char} (h : IsPlainChar c) : Text.isBlank c = false :=
  h.isPrintable.1.isBlank h.isPrintable.2

theorem trim_eq_self {cs : List Char} (h : ∀ c ∈ cs, IsPlainChar c) : Text.trim cs = cs :=
  Text.IsTrimmed.trim_eq ⟨fun c hc => (h c (List.mem_of_head? hc)).isBlank,
    fun c hc => (h c (List.mem_of_getLast? hc)).isBlank⟩

theorem getLast?_line : ∀ c ∈ a.line.toList.getLast?, IsPlainChar c := by
  intro c hc
  have hvalue : a.value.toList ≠ [] := by simp [toList_value]
  rw [line, String.toList_append, List.getLast?_append_of_ne_nil _ hvalue] at hc
  exact a.isPlainChar_of_mem_value c (List.mem_of_getLast? hc)

theorem trim_line : Text.trim a.line.toList = a.line.toList := by
  refine Text.IsTrimmed.trim_eq ⟨?_, fun c hc => (a.getLast?_line c hc).isBlank⟩
  obtain ⟨c, cs, hkey, hc⟩ := a.exists_key_eq
  rw [toList_line, hkey]
  rintro _ ⟨⟩
  exact (isPlainChar_of_isAlpha hc).isBlank

theorem tells_line : Properties.Tells a.line.toList (some (.assign a.key a.value)) := by
  have hkey : Text.trim a.key.toList = a.key.toList :=
    trim_eq_self fun c hc => isPlainChar_of_isAlpha (a.letters c hc)
  have hvalue : Text.trim (' ' :: a.value.toList) = a.value.toList :=
    (congrArg Text.trimEnd (List.dropWhile_cons_of_pos (by decide))).trans
      (trim_eq_self a.isPlainChar_of_mem_value)
  have hnot (c : Char) (hc : c.isAlpha = false) : c ∉ a.key.toList :=
    fun hmem => ne_of_isAlpha (a.letters c hmem) hc rfl
  have hopening : ∀ c ∈ a.key.toList.head?, c ∉ ['#', ';', '!', '['] := by
    intro c hc hmem
    simp only [List.mem_cons, List.not_mem_nil, or_false] at hmem
    rcases hmem with rfl | rfl | rfl | rfl <;> exact hnot _ rfl (List.mem_of_head? hc)
  have hne : Text.trim a.key.toList ≠ [] := by
    obtain ⟨c, cs, hcons, -⟩ := a.exists_key_eq
    rw [hkey, hcons]
    exact List.cons_ne_nil c cs
  have htrim := a.trim_line
  have hending : a.line.toList.getLast? ≠ some '\\' :=
    fun h => absurd (a.getLast?_line _ h) (by simp [IsPlainChar])
  rw [toList_line] at htrim hending ⊢
  have htells := Properties.tells_assign (.inr rfl) ⟨hnot '=' rfl, hnot ':' rfl⟩ hopening hne htrim
    hending
  rwa [hkey, hvalue, String.ofList_toList, String.ofList_toList] at htells

theorem newline_not_mem_line : '\n' ∉ a.line.toList := by
  rw [toList_line, List.mem_append, List.mem_cons, List.mem_cons]
  rintro (h | h | h | h)
  · cases a.letters _ h
  · cases h
  · cases h
  · exact absurd (a.isPlainChar_of_mem_value _ h) (by simp [IsPlainChar])

theorem dropReturn_line : Text.dropReturn a.line.toList = a.line.toList :=
  if_neg fun h => absurd (a.getLast?_line _ h) (by simp [IsPlainChar])

end UrlAssignment

namespace Dialect

open UrlAssignment

variable {as : List UrlAssignment} {ending : String}

theorem toList_ending (h : ending ∈ ["", "\n"]) :
    ending.toList = [] ∨ ending.toList = ['\n'] := by
  simp only [List.mem_cons, List.not_mem_nil, or_false] at h
  rcases h with rfl | rfl
  · exact .inl rfl
  · exact .inr rfl

theorem pairs_properties_fileText (hne : as ≠ []) (hkeys : (as.map key).Nodup)
    (hending : ending ∈ ["", "\n"]) :
    Dialect.properties.pairs (fileText as ending) = .ok (as.map pair) := by
  have hlines : Text.lines (fileText as ending).toList = as.map fun a => a.line.toList := by
    rw [fileText, String.toList_append, String.toList_intercalate, List.map_map]
    refine Text.lines_intercalate (by simpa using hne) (toList_ending hending)
      (List.forall_mem_map.2 fun a _ => ?_)
    exact ⟨by simp [toList_line], a.newline_not_mem_line, a.dropReturn_line⟩
  have htells : List.Forall₂ Properties.Tells (Text.lines (fileText as ending).toList)
      ((as.map fun a => .assign a.key a.value).map some) := by
    rw [hlines, List.map_map, List.forall₂_map_left_iff, List.forall₂_map_right_iff,
      List.forall₂_same]
    exact fun a _ => a.tells_line
  have hsection : Properties.defaultSection (fileText as ending) = .ok (.ofPairs (as.map pair)) := by
    have hassign := Properties.pairsBehind_assign (as.map pair) Properties.inDefault_nil
    rw [List.map_map] at hassign
    rw [Properties.defaultSection_of_tells_lines htells, List.reduceOption, List.filterMap_map,
      Function.id_comp, List.filterMap_some, Properties.defaultPairs_eq]
    exact congrArg (fun pairs => Except.ok (OrderedMap.ofPairs pairs)) hassign
  rw [pairs, hsection]
  exact congrArg Except.ok (OrderedMap.entries_ofPairs_of_nodup (by rwa [List.map_map]))

theorem pairs_yaml_fileText (hne : as ≠ []) (hkeys : (as.map key).Nodup)
    (hending : ending ∈ ["", "\n"]) :
    Dialect.yaml.pairs (fileText as ending) = .ok (as.map pair) := by
  have htop : Yaml.topLevel (fileText as ending) =
      .ok ((as.map plainPair).map Yaml.PlainPair.pair) :=
    Yaml.topLevel_lines (by simpa using hne) (toList_ending hending)
      (List.forall_mem_map.2 fun a _ => a.readsAsStrings) (by rwa [List.map_map])
      (toList_fileText as ending)
  rw [pairs, htop, List.map_map]
  rfl

/-- Both dialects read a file of such assignments alike, whether its last line is ended or not. -/
theorem urlPairs_fileText (as : List UrlAssignment) (hne : as ≠ [])
    (hkeys : (as.map key).Nodup) (ending : String) (hending : ending ∈ ["", "\n"]) :
    Dialect.properties.urlPairs (fileText as ending) = .ok (as.map pair) ∧
      Dialect.yaml.urlPairs (fileText as ending) = .ok (as.map pair) := by
  have hfilter : (as.map pair).filter (fun p => isUrlKey p.1) = as.map pair := by
    refine List.filter_eq_self.2 (List.forall_mem_map.2 fun a _ => ?_)
    exact (isUrlKey_iff a.key).2 a.mentionsUrl
  rw [urlPairs, urlPairs, pairs_properties_fileText hne hkeys hending,
    pairs_yaml_fileText hne hkeys hending, Except.map, hfilter]
  exact ⟨rfl, rfl⟩

/-- Separators and signs of either dialect stand within the values. -/
theorem urlPairs_fileText_signs :
    Dialect.properties.urlPairs "ordersURL: http://-a.b//1/\nUrlS: http://" =
        .ok [("ordersURL", "http://-a.b//1/"), ("UrlS", "http://")] ∧
      Dialect.yaml.urlPairs "ordersURL: http://-a.b//1/\nUrlS: http://" =
        .ok [("ordersURL", "http://-a.b//1/"), ("UrlS", "http://")] :=
  urlPairs_fileText
    [⟨"ordersURL", "-a.b//1/", List.all_eq_true.1 (by decide), by decide, by decide, by simp⟩,
      ⟨"UrlS", "", List.all_eq_true.1 (by decide), by decide, by decide, by simp⟩]
    (by simp) (by decide) "" (by decide)

end Dialect

end ServiceAtlas
