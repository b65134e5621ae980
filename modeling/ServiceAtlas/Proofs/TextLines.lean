import ServiceAtlas.Proofs.PrintedText
import Mathlib.Data.List.DropRight

/-!
Trimmed texts, and the lines that a text is made of.
-/

namespace ServiceAtlas.Text

variable {c : Char} {cs : List Char}

/-! ### Trimming -/

/-- A text that neither begins nor ends with a blank. -/
structure IsTrimmed (cs : List Char) : Prop where
  first : ∀ c ∈ cs.head?, isBlank c = false
  last : ∀ c ∈ cs.getLast?, isBlank c = false

instance (cs : List Char) : Decidable (IsTrimmed cs) :=
  decidable_of_iff (cs.head?.all (!isBlank ·) = true ∧ cs.getLast?.all (!isBlank ·) = true) (by
    simp only [Option.all_eq_true, Bool.not_eq_true']
    exact ⟨fun h => ⟨h.1, h.2⟩, fun h => ⟨h.first, h.last⟩⟩)

theorem trimStart_eq_self (h : ∀ c ∈ cs.head?, isBlank c = false) : trimStart cs = cs := by
  cases cs with
  | nil => rfl
  | cons c cs => exact List.dropWhile_cons_of_neg (by simp [h c rfl])

theorem isBlank_head?_trimStart (cs : List Char) :
    ∀ c ∈ (trimStart cs).head?, isBlank c = false := by
  intro c hc
  have hhead := List.head?_dropWhile_not isBlank cs
  rw [← trimStart, hc] at hhead
  simpa using hhead

theorem trimEnd_concat_of_blank (h : isBlank c = true) : trimEnd (cs ++ [c]) = trimEnd cs :=
  List.rdropWhile_concat_pos isBlank cs c h

theorem trimEnd_eq_self (h : ∀ c ∈ cs.getLast?, isBlank c = false) : trimEnd cs = cs := by
  refine List.rdropWhile_eq_self_iff.2 fun hne => ?_
  simp [h _ (List.getLast?_eq_some_getLast hne)]

theorem trimEnd_isPrefix (cs : List Char) : trimEnd cs <+: cs := List.rdropWhile_prefix isBlank cs

theorem IsTrimmed.trim_eq (h : IsTrimmed cs) : trim cs = cs := by
  rw [trim, trimStart_eq_self h.first, trimEnd_eq_self h.last]

theorem isTrimmed_trim (cs : List Char) : IsTrimmed (trim cs) where
  first c hc := by
    obtain ⟨tail, htail⟩ := trimEnd_isPrefix (trimStart cs)
    apply isBlank_head?_trimStart cs
    rw [← htail, List.head?_append, ← trim, hc]
    rfl
  last c hc := by
    have hne : trim cs ≠ [] := List.ne_nil_of_mem (List.mem_of_getLast? hc)
    rw [List.getLast?_eq_some_getLast hne] at hc
    cases hc
    exact Bool.eq_false_iff.2 (List.rdropWhile_last_not isBlank (trimStart cs) hne)

theorem trim_eq_nil_of_blank (h : ∀ c ∈ cs, isBlank c = true) : trim cs = [] := by
  rw [trim, trimStart, List.dropWhile_eq_nil_iff.2 h]
  rfl

theorem trim_eq_nil_iff : trim cs = [] ↔ ∀ c ∈ cs, isBlank c = true := by
  refine ⟨fun h => ?_, trim_eq_nil_of_blank⟩
  have hblank : ∀ c ∈ trimStart cs, isBlank c = true := List.rdropWhile_eq_nil_iff.1 h
  cases hstart : trimStart cs with
  | nil => exact List.dropWhile_eq_nil_iff.1 hstart
  | cons c ds =>
    have hc := isBlank_head?_trimStart cs c (by rw [hstart]; rfl)
    rw [hblank c (hstart ▸ List.mem_cons_self)] at hc
    cases hc

theorem head?_trim (h : isBlank c = false) (cs : List Char) : (trim (c :: cs)).head? = some c := by
  have hstart : trimStart (c :: cs) = c :: cs := List.dropWhile_cons_of_neg (by simp [h])
  obtain ⟨tail, htail⟩ := trimEnd_isPrefix (c :: cs)
  rw [trim, hstart]
  cases hend : trimEnd (c :: cs) with
  | nil =>
    have hc := List.rdropWhile_eq_nil_iff.1 hend c List.mem_cons_self
    rw [h] at hc
    cases hc
  | cons d ds =>
    rw [hend] at htail
    cases htail
    rfl

theorem mem_of_mem_trimStart (h : c ∈ trimStart cs) : c ∈ cs :=
  (List.dropWhile_sublist isBlank).subset h

theorem mem_of_mem_trim (h : c ∈ trim cs) : c ∈ cs :=
  mem_of_mem_trimStart ((trimEnd_isPrefix _).subset h)

theorem trim_eq_trimStart (h : ∀ c ∈ (trimStart cs).getLast?, isBlank c = false) :
    trim cs = trimStart cs := trimEnd_eq_self h

/-- A blank at the end is trimmed away. -/
theorem trim_concat_of_blank (h : isBlank c = true) : trim (cs ++ [c]) = trim cs := by
  rw [trim, trim, trimStart, trimStart, List.dropWhile_append]
  cases hdrop : cs.dropWhile isBlank with
  | nil => simp [h]
  | cons d ds => exact trimEnd_concat_of_blank h

/-! ### Lines -/

theorem dropReturn_isPrefix (cs : List Char) : dropReturn cs <+: cs := by
  rw [dropReturn]
  split
  · exact List.dropLast_prefix cs
  · exact List.prefix_rfl

/-- A carriage return at the end of a line makes no difference once the line is trimmed. -/
theorem trim_dropReturn (cs : List Char) : trim (dropReturn cs) = trim cs := by
  rw [dropReturn]
  split
  · rename_i hlast
    obtain ⟨ds, rfl⟩ := List.getLast?_eq_some_iff.1 hlast
    rw [List.dropLast_concat, trim_concat_of_blank (by decide)]
  · rfl

theorem lines_append_newline {line : List Char} (h : '\n' ∉ line) (rest : List Char) :
    lines (line ++ '\n' :: rest) = dropReturn line :: lines rest := by
  have hline : ∀ c ∈ line, (c != '\n') = true := fun c hc => bne_iff_ne.2 fun heq => h (heq ▸ hc)
  have hdrop : (line ++ '\n' :: rest).dropWhile (· != '\n') = '\n' :: rest := by
    rw [List.dropWhile_append_of_pos hline]
    rfl
  have htake : (line ++ '\n' :: rest).takeWhile (· != '\n') = line := by
    rw [List.takeWhile_append_of_pos hline]
    exact List.append_nil line
  rw [lines, if_neg (by simp)]
  split
  · rename_i hnil
    rw [hdrop] at hnil
    cases hnil
  · rename_i c others hcons
    rw [hdrop] at hcons
    cases hcons
    rw [htake]

theorem newline_not_mem_of_mem_lines {line : List Char} (h : line ∈ lines cs) : '\n' ∉ line := by
  fun_induction lines cs with
  | case1 => cases h
  | case2 cs _ hdrop =>
    cases List.mem_singleton.1 h
    intro hmem
    simpa using List.dropWhile_eq_nil_iff.1 hdrop _ hmem
  | case3 cs _ c rest hdrop ih =>
    rcases List.mem_cons.1 h with rfl | h
    · intro hmem
      simpa using List.mem_takeWhile_imp ((dropReturn_isPrefix _).subset hmem)
    · exact ih h

theorem lines_of_newline_not_mem {line : List Char} (hne : line ≠ []) (h : '\n' ∉ line) :
    lines line = [line] := by
  have hdrop : line.dropWhile (· != '\n') = [] :=
    List.dropWhile_eq_nil_iff.2 fun c hc => bne_iff_ne.2 fun heq => h (heq ▸ hc)
  rw [lines, if_neg (by simpa using hne)]
  split
  · rfl
  · rename_i hcons
    rw [hdrop] at hcons
    cases hcons

/-- Lines that are set apart by newlines; a newline behind the last one makes no difference. -/
theorem lines_intercalate {ls : List (List Char)} {ending : List Char} (hne : ls ≠ [])
    (hending : ending = [] ∨ ending = ['\n'])
    (h : ∀ l ∈ ls, l ≠ [] ∧ '\n' ∉ l ∧ dropReturn l = l) :
    lines (List.intercalate ['\n'] ls ++ ending) = ls := by
  obtain ⟨line, ls, rfl⟩ := List.exists_cons_of_ne_nil hne
  induction ls generalizing line with
  | nil =>
    obtain ⟨hne, hline, hreturn⟩ := h line List.mem_cons_self
    rw [List.intercalate_singleton]
    rcases hending with rfl | rfl
    · rw [List.append_nil, lines_of_newline_not_mem hne hline]
    · rw [lines_append_newline hline, hreturn, lines]
      rfl
  | cons next ls ih =>
    obtain ⟨⟨-, hline, hreturn⟩, hls⟩ := List.forall_mem_cons.1 h
    rw [List.intercalate_cons_cons, List.append_assoc, List.append_assoc, List.singleton_append,
      lines_append_newline hline, hreturn, ih next (List.cons_ne_nil next ls) hls]

/-- A text that is printed line by line has these lines. -/
theorem lines_textOfLines {ls : List String} (h : ∀ l ∈ ls, '\n' ∉ l.toList) :
    lines (textOfLines ls).toList = ls.map fun l => dropReturn l.toList := by
  rw [toList_textOfLines]
  induction ls with
  | nil =>
    rw [List.flatMap_nil, lines]
    rfl
  | cons l ls ih =>
    obtain ⟨hl, hls⟩ := List.forall_mem_cons.1 h
    rw [List.flatMap_cons, List.append_assoc, List.singleton_append, lines_append_newline hl,
      ih hls, List.map_cons]

end ServiceAtlas.Text
