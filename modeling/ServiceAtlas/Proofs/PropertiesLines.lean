import ServiceAtlas.Proofs.TextLines
import ServiceAtlas.Url.Properties

/-!
The logical lines of a flat configuration file. `Joins` says how the text of a logical line is put
together from physical lines, and `Cut` how the physical lines of a file are divided among its logical
lines. A file is cut in one way only, and its logical lines are those of the cut
(`exists_cut_iff`, `Cut.group_eq`).
-/

namespace ServiceAtlas.Properties

variable {text whole : List Char} {line : List Char} {more rest lines : List (List Char)} {n : Nat}

/-! ### Continued texts -/

theorem isContinued_iff : isContinued text = true ↔ ∃ front, text = front ++ ['\\'] := by
  rw [isContinued, beq_iff_eq, List.getLast?_eq_some_iff]

theorem isContinued_concat (text : List Char) : isContinued (text ++ ['\\']) = true :=
  isContinued_iff.2 ⟨text, rfl⟩

/-! ### The cut into logical lines -/

/-- A logical line that begins with `text` takes in the lines `more` of those that follow and leaves
`rest`; `whole` is its text in the end. A backslash at the end of the text so far is dropped, and
stands for the next line without its leading blanks, as long as there is a next line. -/
inductive Joins : (text : List Char) → (more rest : List (List Char)) → (whole : List Char) → Prop
  | closed {text : List Char} {rest : List (List Char)} (h : text.getLast? ≠ some '\\') :
    Joins text [] rest text
  | last {text : List Char} : Joins (text ++ ['\\']) [] [] text
  | onward {text line whole : List Char} {more rest : List (List Char)}
    (next : Joins (text ++ Text.trimStart line) more rest whole) :
    Joins (text ++ ['\\']) (line :: more) rest whole

/-- A logical line with the physical lines that it takes in behind its first. -/
structure Block extends LogicalLine where
  more : List (List Char)
  deriving DecidableEq, Repr

/-- The cut of physical lines, of which the first has the number `n`. Blank lines and comments stand
alone and are left out; a header stands alone too. -/
inductive Cut : (n : Nat) → (lines : List (List Char)) → List Block → Prop
  | nil {n : Nat} : Cut n [] []
  | skip {n : Nat} {line : List Char} {rest : List (List Char)} {blocks : List Block}
    (hskip : Text.trim line = [] ∨ ∃ c ∈ ['#', ';', '!'], (Text.trim line).head? = some c)
    (next : Cut (n + 1) rest blocks) : Cut n (line :: rest) blocks
  | header {n : Nat} {line : List Char} {rest : List (List Char)} {blocks : List Block}
    (hheader : (Text.trim line).head? = some '[') (next : Cut (n + 1) rest blocks) :
    Cut n (line :: rest) (⟨⟨n, Text.trim line, Text.trim line⟩, []⟩ :: blocks)
  | entry {n : Nat} {line text : List Char} {more rest : List (List Char)} {blocks : List Block}
    (hentry : ∃ c, (Text.trim line).head? = some c ∧ c ∉ ['#', ';', '!', '['])
    (joins : Joins (Text.trim line) more rest text) (next : Cut (n + 1 + more.length) rest blocks) :
    Cut n (line :: (more ++ rest)) (⟨⟨n, Text.trim line, text⟩, more⟩ :: blocks)

theorem Joins.cases_on_end (h : Joins text more rest whole) :
    (isContinued text = false ∧ more = [] ∧ whole = text) ∨ ∃ front, text = front ++ ['\\'] ∧
      ((more = [] ∧ rest = [] ∧ whole = front) ∨
        ∃ line others, more = line :: others ∧
          Joins (front ++ Text.trimStart line) others rest whole) := by
  cases h with
  | closed h => exact .inl ⟨by simpa [isContinued] using h, rfl, rfl⟩
  | last => exact .inr ⟨whole, rfl, .inl ⟨rfl, rfl, rfl⟩⟩
  | onward next => exact .inr ⟨_, rfl, .inr ⟨_, _, rfl, next⟩⟩

theorem exists_joins (text : List Char) (lines : List (List Char)) :
    ∃ more rest whole, lines = more ++ rest ∧ Joins text more rest whole := by
  induction lines generalizing text with
  | nil =>
    by_cases h : text.getLast? = some '\\'
    · obtain ⟨front, rfl⟩ := List.getLast?_eq_some_iff.1 h
      exact ⟨[], [], front, rfl, .last⟩
    · exact ⟨[], [], text, rfl, .closed h⟩
  | cons line lines ih =>
    by_cases h : text.getLast? = some '\\'
    · obtain ⟨front, rfl⟩ := List.getLast?_eq_some_iff.1 h
      obtain ⟨more, rest, whole, rfl, hjoins⟩ := ih (front ++ Text.trimStart line)
      exact ⟨line :: more, rest, whole, rfl, .onward hjoins⟩
    · exact ⟨[], line :: lines, text, rfl, .closed h⟩

theorem Joins.unique {more' rest' : List (List Char)} {whole' : List Char}
    (h : Joins text more rest whole) (h' : Joins text more' rest' whole')
    (hlines : more ++ rest = more' ++ rest') : more = more' ∧ rest = rest' ∧ whole = whole' := by
  induction h generalizing more' with
  | @closed text rest h =>
    obtain ⟨-, rfl, rfl⟩ | ⟨front, rfl, -⟩ := h'.cases_on_end
    · exact ⟨rfl, hlines, rfl⟩
    · simp at h
  | @last text =>
    obtain ⟨h, -⟩ | ⟨front, heq, hmore⟩ := h'.cases_on_end
    · rw [isContinued_concat] at h
      cases h
    · cases List.append_cancel_right heq
      obtain ⟨rfl, rfl, rfl⟩ | ⟨line, others, rfl, -⟩ := hmore
      · exact ⟨rfl, rfl, rfl⟩
      · cases hlines
  | @onward text line whole more rest next ih =>
    obtain ⟨h, -⟩ | ⟨front, heq, hmore⟩ := h'.cases_on_end
    · rw [isContinued_concat] at h
      cases h
    · cases List.append_cancel_right heq
      obtain ⟨rfl, rfl, rfl⟩ | ⟨line, others, rfl, hothers⟩ := hmore
      · cases hlines
      · obtain ⟨rfl, htail⟩ := List.cons.inj hlines
        obtain ⟨rfl, rfl, rfl⟩ := ih hothers htail
        exact ⟨rfl, rfl, rfl⟩

/-! ### What a physical line begins -/

theorem isSkipped_iff {head : List Char} :
    isSkipped head = true ↔ head = [] ∨ ∃ c ∈ ['#', ';', '!'], head.head? = some c := by
  cases head with
  | nil => simp [isSkipped]
  | cons c cs => simp [isSkipped, or_assoc]

theorem isHeader_iff {head : List Char} : isHeader head = true ↔ head.head? = some '[' := by
  rw [isHeader, beq_iff_eq]

theorem isSkipped_of_isHeader {head : List Char} (h : isHeader head = true) :
    isSkipped head = false := by
  cases head with
  | nil => cases h
  | cons c cs =>
    cases isHeader_iff.1 h
    rfl

theorem isEntry_iff {head : List Char} : isSkipped head = false ∧ isHeader head = false ↔
    ∃ c, head.head? = some c ∧ c ∉ ['#', ';', '!', '['] := by
  cases head with
  | nil => simp [isSkipped]
  | cons c cs => simp [isSkipped, isHeader, and_assoc]

theorem exists_cut (n : Nat) (lines : List (List Char)) : ∃ blocks, Cut n lines blocks := by
  induction hlength : lines.length using Nat.strongRecOn generalizing n lines with
  | ind k ih =>
    cases lines with
    | nil => exact ⟨[], .nil⟩
    | cons line lines =>
      have hshort : lines.length < k := hlength ▸ Nat.lt_succ_self _
      cases hskip : isSkipped (Text.trim line) with
      | true =>
        obtain ⟨blocks, hcut⟩ := ih _ hshort (n + 1) lines rfl
        exact ⟨blocks, .skip (isSkipped_iff.1 hskip) hcut⟩
      | false =>
        cases hheader : isHeader (Text.trim line) with
        | true =>
          obtain ⟨blocks, hcut⟩ := ih _ hshort (n + 1) lines rfl
          exact ⟨_, .header (isHeader_iff.1 hheader) hcut⟩
        | false =>
          obtain ⟨more, rest, text, rfl, hjoins⟩ := exists_joins (Text.trim line) lines
          have hrest : rest.length < k := by
            rw [List.length_append] at hshort
            omega
          obtain ⟨blocks, hcut⟩ := ih _ hrest (n + 1 + more.length) rest rfl
          exact ⟨_, .entry (isEntry_iff.1 ⟨hskip, hheader⟩) hjoins hcut⟩

theorem Cut.cases_on_line {blocks : List Block} (h : Cut n (line :: lines) blocks) :
    (isSkipped (Text.trim line) = true ∧ Cut (n + 1) lines blocks) ∨
    (isHeader (Text.trim line) = true ∧ ∃ others, Cut (n + 1) lines others ∧
      blocks = ⟨⟨n, Text.trim line, Text.trim line⟩, []⟩ :: others) ∨
    (isSkipped (Text.trim line) = false ∧ isHeader (Text.trim line) = false ∧
      ∃ more rest text others, lines = more ++ rest ∧ Joins (Text.trim line) more rest text ∧
        Cut (n + 1 + more.length) rest others ∧
        blocks = ⟨⟨n, Text.trim line, text⟩, more⟩ :: others) := by
  cases h with
  | skip hskip next => exact .inl ⟨isSkipped_iff.2 hskip, next⟩
  | header hheader next => exact .inr (.inl ⟨isHeader_iff.2 hheader, _, next, rfl⟩)
  | entry hentry joins next =>
    obtain ⟨hskip, hheader⟩ := isEntry_iff.2 hentry
    exact .inr (.inr ⟨hskip, hheader, _, _, _, _, rfl, joins, next, rfl⟩)

theorem Cut.unique {blocks blocks' : List Block} (h : Cut n lines blocks)
    (h' : Cut n lines blocks') : blocks = blocks' := by
  induction h generalizing blocks' with
  | nil =>
    cases h'
    rfl
  | skip hskip next ih =>
    have hskip := isSkipped_iff.2 hskip
    obtain ⟨-, hcut⟩ | ⟨hheader, -⟩ | ⟨hentry, -⟩ := h'.cases_on_line
    · exact ih hcut
    · rw [isSkipped_of_isHeader hheader] at hskip
      cases hskip
    · rw [hentry] at hskip
      cases hskip
  | header hheader next ih =>
    have hheader := isHeader_iff.2 hheader
    obtain ⟨hskip, -⟩ | ⟨-, others, hcut, rfl⟩ | ⟨-, hentry, -⟩ := h'.cases_on_line
    · rw [isSkipped_of_isHeader hheader] at hskip
      cases hskip
    · rw [ih hcut]
    · rw [hentry] at hheader
      cases hheader
  | entry hentry joins next ih =>
    obtain ⟨hskip, hheader⟩ := isEntry_iff.2 hentry
    obtain ⟨hskip', -⟩ | ⟨hheader', -⟩ |
      ⟨-, -, more', rest', text', others, hlines, joins', hcut, rfl⟩ := h'.cases_on_line
    · rw [hskip] at hskip'
      cases hskip'
    · rw [hheader] at hheader'
      cases hheader'
    · obtain ⟨rfl, rfl, rfl⟩ := joins.unique joins' hlines
      rw [ih hcut]

/-- Physical lines are cut in exactly one way. -/
theorem exists_cut_iff (n : Nat) (lines : List (List Char)) :
    ∃ blocks, ∀ bs, Cut n lines bs ↔ bs = blocks := by
  obtain ⟨blocks, hcut⟩ := exists_cut n lines
  exact ⟨blocks, fun bs => ⟨fun h => h.unique hcut, fun h => h ▸ hcut⟩⟩

/-! ### The grouping -/

/-- A logical line that goes on takes in what it joins. -/
theorem Joins.group_eq (h : Joins text more rest whole) (htext : isContinued text = true)
    (number : Nat) (head : List Char) (n : Nat) :
    group (some ⟨number, head, text.dropLast⟩) n (more ++ rest) =
      ⟨number, head, whole⟩ :: group none (n + more.length) rest := by
  induction h generalizing n with
  | closed h => simp [isContinued, h] at htext
  | last => rw [List.dropLast_concat, List.append_nil, group, group]
  | @onward text line whole more rest next ih =>
    rw [List.dropLast_concat, List.cons_append, group]
    cases hnext : isContinued (text ++ Text.trimStart line) with
    | true =>
      simp only [if_true, ih hnext, List.length_cons, Nat.add_assoc, Nat.add_comm 1]
    | false =>
      obtain ⟨-, rfl, rfl⟩ | ⟨front, heq, -⟩ := next.cases_on_end
      · simp
      · rw [heq, isContinued_concat] at hnext
        cases hnext

/-- The logical lines are those of the cut. -/
theorem Cut.group_eq {blocks : List Block} (h : Cut n lines blocks) :
    group none n lines = blocks.map Block.toLogicalLine := by
  induction h with
  | nil => rfl
  | skip hskip next ih =>
    rw [group, if_pos (isSkipped_iff.2 hskip), ih]
  | @header n line rest blocks hheader next ih =>
    have hhead := isHeader_iff.2 hheader
    simp [group, hhead, isSkipped_of_isHeader hhead, ih]
  | @entry n line text more rest blocks hentry joins next ih =>
    obtain ⟨hskip, hheader⟩ := isEntry_iff.2 hentry
    cases hcontinued : isContinued (Text.trim line) with
    | true => simp [group, hskip, hheader, hcontinued, joins.group_eq hcontinued, ih]
    | false =>
      obtain ⟨-, rfl, rfl⟩ | ⟨front, heq, -⟩ := joins.cases_on_end
      · simpa [group, hskip, hheader, hcontinued] using ih
      · rw [heq, isContinued_concat] at hcontinued
        cases hcontinued

/-! ### The characters of a logical line -/

theorem Joins.mem_lines (h : Joins text more rest whole) {c : Char} (hc : c ∈ whole) :
    c ∈ text ∨ ∃ line ∈ more, c ∈ line := by
  induction h with
  | closed => exact .inl hc
  | last => exact .inl (List.mem_append_left _ hc)
  | @onward text line whole more rest next ih =>
    rcases ih hc with hc | ⟨other, hother, hc⟩
    · rcases List.mem_append.1 hc with hc | hc
      · exact .inl (List.mem_append_left _ hc)
      · exact .inr ⟨line, List.mem_cons_self, Text.mem_of_mem_trimStart hc⟩
    · exact .inr ⟨other, List.mem_cons_of_mem _ hother, hc⟩

/-- A logical line is made of the characters of the physical lines. -/
theorem Cut.mem_lines {blocks : List Block} (h : Cut n lines blocks) {b : Block} (hb : b ∈ blocks)
    {c : Char} (hc : c ∈ b.text) : ∃ line ∈ lines, c ∈ line := by
  induction h with
  | nil => cases hb
  | skip _ _ ih =>
    obtain ⟨other, hother, hc⟩ := ih hb
    exact ⟨other, List.mem_cons_of_mem _ hother, hc⟩
  | header _ _ ih =>
    rcases List.mem_cons.1 hb with rfl | hb
    · exact ⟨_, List.mem_cons_self, Text.mem_of_mem_trim hc⟩
    · obtain ⟨other, hother, hc⟩ := ih hb
      exact ⟨other, List.mem_cons_of_mem _ hother, hc⟩
  | entry _ joins _ ih =>
    rcases List.mem_cons.1 hb with rfl | hb
    · rcases joins.mem_lines hc with hc | ⟨other, hother, hc⟩
      · exact ⟨_, List.mem_cons_self, Text.mem_of_mem_trim hc⟩
      · exact ⟨other, List.mem_cons_of_mem _ (List.mem_append_left _ hother), hc⟩
    · obtain ⟨other, hother, hc⟩ := ih hb
      exact ⟨other, List.mem_cons_of_mem _ (List.mem_append_right _ hother), hc⟩

end ServiceAtlas.Properties
