import ServiceAtlas.Proofs.CallSiteSearch

/-!
The colours of the calls that are found. A verb is found by folding its characters, and its colour is
looked up by lowering them. The two agree on the letters `A` to `Z`, but a long s folds to `s` and is
not changed by lowering. For the verbs that have a colour nothing else comes between the two
(`Text.lower_eq_iff`), so a call is drawn in the colour of its verb exactly if it is written without a
long s.
-/

namespace ServiceAtlas

/-! ### Folding and lowering -/

namespace Text

theorem isLower_iff {c : Char} : c.isLower = true ↔ 0x61 ≤ c.toNat ∧ c.toNat ≤ 0x7A := by
  unfold Char.isLower
  simp [UInt32.le_iff_toNat_le]

theorem toNat_toLower (c : Char) :
    c.toLower.toNat = if 0x41 ≤ c.toNat ∧ c.toNat ≤ 0x5A then c.toNat + 0x20 else c.toNat := by
  have hupper : (c.val ≥ 'A'.val ∧ c.val ≤ 'Z'.val) ↔ 0x41 ≤ c.toNat ∧ c.toNat ≤ 0x5A := by
    simp [UInt32.le_iff_toNat_le]
  unfold Char.toLower
  split
  · rename_i h
    rw [if_pos (hupper.1 h)]
    have hlast := (hupper.1 h).2
    have hgap : ('a'.val - 'A'.val).toNat = 0x20 := by decide
    simp only [Char.toNat, UInt32.toNat_add, hgap] at hlast ⊢
    omega
  · rename_i h
    rw [if_neg (mt hupper.2 h)]

/-- No small letter is folded, and only the capital letters, the long s and the Kelvin sign are folded to
one. -/
theorem foldShifts_beside_small : ∀ r ∈ foldShifts,
    (r.last < 0x61 ∨ 0x7A < r.first) ∧
      (r.first = 0x41 ∧ r.last = 0x5A ∧ r.shift = 0x20 ∨
        r.first = 'ſ'.toNat ∧ r.last = 'ſ'.toNat ∨
        r.first = '\u212A'.toNat ∧ r.last = '\u212A'.toNat ∨
        0x7A < (r.first : Int) + r.shift) := by
  decide +kernel

/-- Folding that gives a small letter is lowering, the long s and the Kelvin sign apart. -/
theorem toLower_eq_fold {c : Char} (h : (fold c).isLower = true) (hlong : c ≠ 'ſ')
    (hkelvin : c ≠ '\u212A') : c.toLower = fold c := by
  rw [isLower_iff] at h
  apply Char.toNat_inj.1
  rw [toNat_toLower]
  rcases moveBy_cases foldShifts c with hstays | ⟨r, hr, hfirst, hlast, hcode | hnul⟩
  · rw [fold, hstays] at h ⊢
    rw [if_neg (by omega)]
  · rw [fold, hcode] at h ⊢
    rcases (foldShifts_beside_small r hr).2 with hlatin | hs | hk | hbeyond
    · rw [if_pos (by omega)]
      omega
    · exact (hlong (Char.toNat_inj.1 (by omega))).elim
    · exact (hkelvin (Char.toNat_inj.1 (by omega))).elim
    · omega
  · rw [fold, hnul] at h
    have hzero := h.1
    contradiction

theorem fold_of_isLower {c : Char} (h : c.isLower = true) : fold c = c := by
  rw [isLower_iff] at h
  rcases moveBy_cases foldShifts c with hstays | ⟨r, hr, hfirst, hlast, -⟩
  · exact hstays
  · have := (foldShifts_beside_small r hr).1
    omega

/-- A word of small letters; with a `k` in it, it could also be written with a Kelvin sign. -/
def IsSmallWord (word : String) : Prop := ∀ c ∈ word.toList, c.isLower = true ∧ c ≠ 'k'

instance (word : String) : Decidable (IsSmallWord word) :=
  decidable_of_iff (word.toList.all fun c => c.isLower && c != 'k') (by simp [IsSmallWord])

theorem not_isSmallWord_of_long_s {word : String} (h : 'ſ' ∈ word.toList) : ¬ IsSmallWord word := by
  intro hword
  have hletter := (hword _ h).1
  revert hletter
  decide

theorem mem_lower_long_s {label : String} (h : 'ſ' ∈ label.toList) : 'ſ' ∈ (lower label).toList := by
  rw [lower, String.toList_ofList]
  exact List.mem_map.2 ⟨'ſ', h, rfl⟩

variable {word label : String}

theorem IsSmallWord.toList_eq_map_fold (hword : IsSmallWord word)
    (hfold : word.toList.map fold = label.toList.map fold) : word.toList = label.toList.map fold := by
  calc word.toList = word.toList.map id := (List.map_id _).symm
    _ = word.toList.map fold := List.map_congr_left fun c hc => (fold_of_isLower (hword c hc).1).symm
    _ = label.toList.map fold := hfold

/-- Where folding takes a label for the word, so does lowering, unless there is a long s in it. -/
theorem lower_eq_iff (hword : IsSmallWord word)
    (hfold : word.toList.map fold = label.toList.map fold) :
    lower label = word ↔ 'ſ' ∉ label.toList := by
  have hletters := hword.toList_eq_map_fold hfold
  have hsmall : ∀ c ∈ label.toList, (fold c).isLower = true ∧ fold c ≠ 'k' := fun c hc =>
    hword _ (hletters ▸ List.mem_map_of_mem hc)
  constructor
  · rintro rfl hlong
    exact not_isSmallWord_of_long_s (mem_lower_long_s hlong) hword
  · intro hlong
    rw [lower, ← String.toList_inj, String.toList_ofList, hletters]
    refine List.map_congr_left fun c hc => toLower_eq_fold (hsmall c hc).1 ?_ ?_
    · rintro rfl
      exact hlong hc
    · rintro rfl
      exact (hsmall _ hc).2 rfl

end Text

/-! ### Colours -/

namespace Colour

variable {verb label colour : String}

theorem isSmallWord_of_mem_palette {e : String × String} (he : e ∈ palette) :
    Text.IsSmallWord e.1 := by
  have hall : ∀ e ∈ palette, Text.IsSmallWord e.1 := by decide
  exact hall e he

theorem ofLabel_of_long_s (h : 'ſ' ∈ label.toList) : ofLabel label = other := by
  have hnone : palette.lookup (Text.lower label) = none := by
    refine List.lookup_eq_none_iff.2 fun e he => ?_
    have hne : Text.lower label ≠ e.1 := fun heq =>
      Text.not_isSmallWord_of_long_s (heq ▸ Text.mem_lower_long_s h) (isSmallWord_of_mem_palette he)
    simpa using hne
  rw [ofLabel, hnone]
  rfl

/-- A label that folding takes for a verb with a colour has that colour unless there is a long s in
it. -/
theorem ofLabel_eq_iff (hverb : (verb, colour) ∈ palette)
    (hfold : verb.toList.map Text.fold = label.toList.map Text.fold) :
    ofLabel label = colour ↔ 'ſ' ∉ label.toList := by
  have hentries : ∀ e ∈ palette, palette.lookup e.1 = some e.2 ∧ e.2 ≠ other := by decide
  obtain ⟨hlookup, hother⟩ := hentries _ hverb
  constructor
  · intro hcolour hlong
    exact hother (hcolour.symm.trans (ofLabel_of_long_s hlong))
  · intro hlong
    rw [ofLabel, (Text.lower_eq_iff (isSmallWord_of_mem_palette hverb) hfold).2 hlong, hlookup]
    rfl

end Colour

namespace CallSite

/-- A call found by the usual verbs is by one of them, and it is drawn in the colour of that verb exactly
if it is written without a long s. Only in `post` can there be one, and then the call is drawn like one
by a verb without a colour. -/
theorem found_call_colour (plan : ScanPlan) (urls : UrlTable) (service text : String) :
    ∀ d ∈ { plan with verbs := defaultVerbs }.dependencies urls service text,
      ∃ verb ∈ defaultVerbs, ∃ colour, verb.toList.map Text.fold = d.label.toList.map Text.fold ∧
        (verb, colour) ∈ [("get", "blue"), ("post", "green"), ("put", "orange"), ("delete", "red")] ∧
        (Colour.ofLabel d.label = colour ↔ 'ſ' ∉ d.label.toList) ∧
        ('ſ' ∈ d.label.toList → verb = "post" ∧ Colour.ofLabel d.label = "black") := by
  have hcolours : ∀ verb ∈ defaultVerbs, ∃ e ∈ Colour.palette, e.1 = verb := by decide
  have hpost : ∀ verb ∈ defaultVerbs, 's' ∈ verb.toList → verb = "post" := by decide
  intro d hd
  obtain ⟨call, hcall, rfl⟩ := List.mem_map.1 hd
  obtain ⟨-, after, -, -, -, hcall⟩ :=
    (finds_findFrom defaultVerbs 0 1 text.toList).sound call hcall
  obtain ⟨_, hverb, hfold⟩ := hcall.listed
  obtain ⟨⟨verb, colour⟩, hcolour, rfl⟩ := hcolours _ hverb
  refine ⟨verb, hverb, colour, hfold, hcolour, Colour.ofLabel_eq_iff hcolour hfold, ?_⟩
  intro hlong
  refine ⟨hpost verb hverb ?_, Colour.ofLabel_of_long_s hlong⟩
  have hletters := (Colour.isSmallWord_of_mem_palette hcolour).toList_eq_map_fold hfold
  rw [hletters]
  exact List.mem_map.2 ⟨'ſ', hlong, rfl⟩

/-- Capital letters make no difference to the colour, a long s does. -/
theorem found_call_colour_both_ways :
    let plan : ScanPlan := ⟨Settings.default.rules, [], [], []⟩
    let text := "client.PoSt(url);\nclient.poſt(url);"
    { plan with verbs := defaultVerbs }.dependencies .empty "a" text =
      [⟨"a", "unknown", "PoSt"⟩, ⟨"a", "unknown", "poſt"⟩] ∧
    (∃ verb ∈ defaultVerbs, ∃ colour,
      (verb, colour) ∈ [("get", "blue"), ("post", "green"), ("put", "orange"), ("delete", "red")] ∧
        verb.toList.map Text.fold = "PoSt".toList.map Text.fold ∧ Colour.ofLabel "PoSt" = colour) ∧
    Colour.ofLabel "poſt" = "black" := by
  intro plan text
  have hfound : { plan with verbs := defaultVerbs }.dependencies .empty "a" text =
      [⟨"a", "unknown", "PoSt"⟩, ⟨"a", "unknown", "poſt"⟩] := by decide +kernel
  have hcolours := found_call_colour plan .empty "a" text
  rw [hfound] at hcolours
  obtain ⟨verb, hverb, colour, hfold, hcolour, hplain, -⟩ := hcolours _ List.mem_cons_self
  obtain ⟨_, -, _, -, -, -, hlong⟩ := hcolours ⟨"a", "unknown", "poſt"⟩ (by simp)
  refine ⟨hfound, ⟨verb, hverb, colour, hcolour, hfold, hplain.2 ?_⟩, (hlong ?_).2⟩
  · simp
  · simp

/-- A call by `post` with a long s is found and has no colour of its own. -/
theorem long_s_found_without_colour :
    find defaultVerbs "client.poſt(url)".toList = [⟨6, 1, "poſt", ".poſt(url)"⟩] ∧
      Colour.palette.lookup "post" = some "green" ∧ Colour.ofLabel "poſt" = Colour.other := by
  decide +kernel

end CallSite

end ServiceAtlas
