import ServiceAtlas.Proofs.Python.TokenReading

/-!
The characters of a printed program, in the order of its tokens. They are those of its text
(`Program.chars_append_trail`), and behind every line of it stands a break (`Program.break_chars`).
-/

namespace ServiceAtlas.Python

/-- Strings after the first one. -/
def moreStrings (ps : List PathText) : List Char := ps.flatMap fun p => ' ' :: p.quoted.toList

/-- Names after the first one. -/
def moreNames (ws : List Name) : List Char := ws.flatMap fun w => ',' :: ' ' :: w.text.toList

def nameList : List Name → List Char
  | [] => []
  | w :: ws => w.text.toList ++ moreNames ws

namespace Function

def callChars (f : Function) : List Char :=
  f.object.text.toList ++ '.' :: (f.verb.text.toList ++ '(' ::
    (f.piece.quoted.toList ++ (moreStrings f.morePieces ++ [')'])))

def headerChars (f : Function) : List Char :=
  "def".toList ++ ' ' :: (f.name.text.toList ++ '(' :: (nameList f.parameters ++ [')', ':']))

end Function

/-- The characters of a body, which is never empty. -/
def suiteChars (width : Nat) : List Char → List Char
  | [] => lineStart width ++ "pass".toList
  | cs => cs

namespace Program

def classChars (name base : Name) : List Char :=
  "class".toList ++ ' ' :: (name.text.toList ++ '(' :: (base.text.toList ++ [')', ':']))

/-- The characters of a program that is `width` in, with `lead` before the first line. -/
def chars (width : Nat) (lead : List Char) : Program → List Char
  | .done => []
  | .type name base body rest =>
    lead ++ (classChars name base ++ (suiteChars (width + 4) (body.chars (width + 4)
      (lineStart (width + 4))) ++ rest.chars width (lineStart width)))
  | .function f body rest =>
    lead ++ ('@' :: f.callChars ++ (lineStart width ++ (f.headerChars ++
      (suiteChars (width + 4) (body.chars (width + 4) (lineStart (width + 4))) ++
        rest.chars width (lineStart width)))))

/-- What follows the last line. -/
def trail : Program → List Char
  | .done => []
  | .type .. => ['\n']
  | .function .. => ['\n']

end Program

/-! ### The text -/

theorem toList_strings (p : PathText) (ps : List PathText) :
    (" ".intercalate ((p :: ps).map PathText.quoted)).toList =
      p.quoted.toList ++ moreStrings ps := by
  induction ps generalizing p with
  | nil => simp [moreStrings]
  | cons q qs ih =>
    have hq := ih q
    rw [List.map_cons] at hq
    simp [String.intercalate_cons_cons, hq, moreStrings]

theorem toList_names (ws : List Name) :
    (", ".intercalate (ws.map (·.text))).toList = nameList ws := by
  cases ws with
  | nil => rfl
  | cons w ws =>
    induction ws generalizing w with
    | nil => simp [nameList, moreNames]
    | cons v vs ih =>
      have hv := ih v
      rw [List.map_cons, nameList] at hv
      simp [String.intercalate_cons_cons, hv, nameList, moreNames]

theorem Function.toList_decoratorLine (f : Function) :
    f.decoratorLine.toList = '@' :: f.callChars := by
  simp only [decoratorLine, callChars, pieces, String.toList_append, toList_strings]
  simp

theorem Function.toList_headerLine (f : Function) : f.headerLine.toList = f.headerChars := by
  simp only [headerLine, headerChars, String.toList_append, toList_names]
  simp

/-- Lines, each of them `width` in and behind a line end. -/
def lineChars (width : Nat) (ls : List String) : List Char :=
  ls.flatMap fun l => lineStart width ++ l.toList

theorem lineStart_add_four (width : Nat) (l : String) :
    lineStart (width + 4) ++ l.toList = lineStart width ++ ("    " ++ l).toList := by
  simp [lineStart, ← List.replicate_append_replicate]

theorem suiteChars_lineChars (width : Nat) (ls : List String) :
    suiteChars (width + 4) (lineChars (width + 4) ls) = lineChars width (suiteLines ls) := by
  cases ls with
  | nil =>
    have hpass := lineStart_add_four width "pass"
    simpa [suiteChars, lineChars, suiteLines] using hpass
  | cons l ls =>
    have hsuite : suiteChars (width + 4) (lineChars (width + 4) (l :: ls)) =
        lineChars (width + 4) (l :: ls) := rfl
    rw [hsuite, suiteLines, lineChars, lineChars, List.flatMap_map]
    · simp only [lineStart_add_four]
    · simp

/-- The line ends stand behind the lines in a text and before them in `lineChars`. -/
theorem lineChars_append_newline (ls : List String) :
    lineChars 0 ls ++ ['\n'] = '\n' :: (textOfLines ls).toList := by
  rw [toList_textOfLines]
  induction ls with
  | nil => rfl
  | cons l ls ih =>
    rw [lineChars, List.flatMap_cons, ← lineChars, List.append_assoc, ih]
    simp [lineStart]

namespace Program

theorem toList_classLine (name base : Name) :
    (classLine name base).toList = classChars name base := by
  simp [classLine, classChars]

theorem chars_eq_lineChars (width : Nat) (p : Program) :
    p.chars width (lineStart width) = lineChars width p.lines := by
  induction p generalizing width with
  | done => rfl
  | type name base body rest ihb ihr =>
    rw [chars, ihb, ihr, suiteChars_lineChars, ← toList_classLine]
    simp [lines, lineChars]
  | function f body rest ihb ihr =>
    rw [chars, ihb, ihr, suiteChars_lineChars, ← f.toList_decoratorLine, ← f.toList_headerLine]
    simp [lines, lineChars]

theorem chars_append_trail (p : Program) : p.chars 0 [] ++ p.trail = p.text.toList := by
  have hlines := lineChars_append_newline p.lines
  rw [← chars_eq_lineChars] at hlines
  cases p with
  | done => rfl
  | type name base body rest => exact List.cons.inj hlines |>.2
  | function f body rest => exact List.cons.inj hlines |>.2

end Program

/-! ### Lines -/

theorem isPrintable_moreStrings (ps : List PathText) : ∀ c ∈ moreStrings ps, IsPrintable c := by
  intro c hc
  obtain ⟨p, -, hc⟩ := List.mem_flatMap.1 hc
  rcases List.mem_cons.1 hc with rfl | hc
  · decide
  · exact p.printable_quoted c hc

theorem isPrintable_moreNames (ws : List Name) : ∀ c ∈ moreNames ws, IsPrintable c := by
  intro c hc
  obtain ⟨w, -, hc⟩ := List.mem_flatMap.1 hc
  rcases List.mem_cons.1 hc with rfl | hc
  · decide
  rcases List.mem_cons.1 hc with rfl | hc
  · decide
  · exact IsWord.isPrintable w.isWord c hc

theorem isPrintable_nameList (ws : List Name) : ∀ c ∈ nameList ws, IsPrintable c := by
  cases ws with
  | nil => simp [nameList]
  | cons w ws =>
    exact List.forall_mem_append.2 ⟨IsWord.isPrintable w.isWord, isPrintable_moreNames ws⟩

theorem Function.isPrintable_callChars (f : Function) : ∀ c ∈ f.callChars, IsPrintable c := by
  simp only [callChars, List.forall_mem_append, List.forall_mem_cons]
  exact ⟨IsWord.isPrintable f.object.isWord, by decide, IsWord.isPrintable f.verb.isWord, by decide,
    f.piece.printable_quoted, isPrintable_moreStrings _, by decide, by simp⟩

theorem Function.isPrintable_headerChars (f : Function) : ∀ c ∈ f.headerChars, IsPrintable c := by
  simp only [headerChars, List.forall_mem_append, List.forall_mem_cons]
  exact ⟨IsWord.isPrintable (by decide), by decide, IsWord.isPrintable f.name.isWord, by decide,
    isPrintable_nameList _, by decide, by decide, by simp⟩

theorem isPrintable_classChars (name base : Name) :
    ∀ c ∈ Program.classChars name base, IsPrintable c := by
  simp only [Program.classChars, List.forall_mem_append, List.forall_mem_cons]
  exact ⟨IsWord.isPrintable (by decide), by decide, IsWord.isPrintable name.isWord, by decide,
    IsWord.isPrintable base.isWord, by decide, by decide, by simp⟩

theorem isPrintable_suiteLines {ls : List String} (h : ∀ l ∈ ls, ∀ c ∈ l.toList, IsPrintable c) :
    ∀ l ∈ suiteLines ls, ∀ c ∈ l.toList, IsPrintable c := by
  have hblanks : ∀ c ∈ "    ".toList, IsPrintable c := by
    intro c hc
    obtain rfl : c = ' ' := by simpa using hc
    decide
  cases ls with
  | nil =>
    have hpass : "    pass".toList = "    ".toList ++ "pass".toList := by decide
    rw [suiteLines, List.forall_mem_singleton, hpass, List.forall_mem_append]
    exact ⟨hblanks, IsWord.isPrintable (by decide)⟩
  | cons l ls =>
    intro l' hl'
    obtain ⟨l'', hl'', rfl⟩ := List.mem_map.1 hl'
    rw [String.toList_append, List.forall_mem_append]
    exact ⟨hblanks, h l'' hl''⟩

namespace Program

theorem isPrintable_lines (p : Program) : ∀ l ∈ p.lines, ∀ c ∈ l.toList, IsPrintable c := by
  induction p with
  | done => simp [lines]
  | type name base body rest ihb ihr =>
    simp only [lines, List.cons_append, List.forall_mem_cons, List.forall_mem_append,
      toList_classLine]
    exact ⟨isPrintable_classChars name base, isPrintable_suiteLines ihb, ihr⟩
  | function f body rest ihb ihr =>
    simp only [lines, List.cons_append, List.forall_mem_cons, List.forall_mem_append,
      f.toList_decoratorLine, f.toList_headerLine]
    exact ⟨⟨by decide, f.isPrintable_callChars⟩, f.isPrintable_headerChars,
      isPrintable_suiteLines ihb, ihr⟩

end Program

theorem newlines_lineChars {ls : List String} (h : ∀ l ∈ ls, ∀ c ∈ l.toList, IsPrintable c)
    (width : Nat) : Text.newlines (lineChars width ls) = ls.length := by
  induction ls with
  | nil => rfl
  | cons l ls ih =>
    obtain ⟨hl, hls⟩ := List.forall_mem_cons.1 h
    rw [lineChars, List.flatMap_cons, ← lineChars, newlines_append, newlines_append,
      newlines_lineStart, newlines_of_printable hl, ih hls, List.length_cons]
    omega

theorem Program.newlines_suiteChars (width : Nat) (p : Program) :
    Text.newlines (suiteChars (width + 4) (p.chars (width + 4) (lineStart (width + 4)))) =
      (suiteLines p.lines).length := by
  rw [p.chars_eq_lineChars, suiteChars_lineChars,
    newlines_lineChars (isPrintable_suiteLines p.isPrintable_lines)]

/-! ### Breaks -/

namespace Program

variable {width j : Nat} {rest : List Char}

theorem break_chars_of_ne (p : Program) (hp : p ≠ .done) :
    Break width (p.chars width (lineStart width) ++ rest) := by
  cases p with
  | done => exact absurd rfl hp
  | type name base body more =>
    rw [chars, List.append_assoc]
    exact .line width ⟨by decide, by decide, by decide⟩
  | function f body more =>
    rw [chars, List.append_assoc]
    exact .line width ⟨by decide, by decide, by decide⟩

theorem suiteChars_chars (p : Program) (hp : p ≠ .done) :
    suiteChars width (p.chars width (lineStart width)) = p.chars width (lineStart width) := by
  cases p with
  | done => exact absurd rfl hp
  | type => rfl
  | function => rfl

/-- Behind a program comes a line that is no further in. -/
theorem break_chars (p : Program) (hrest : Break j rest) (hj : j ≤ width) :
    ∃ i ≤ width, Break i (p.chars width (lineStart width) ++ rest) := by
  by_cases hp : p = .done
  · subst hp
    exact ⟨j, hj, hrest⟩
  · exact ⟨width, Nat.le_refl width, p.break_chars_of_ne hp⟩

theorem break_suiteChars (p : Program) :
    Break width (suiteChars width (p.chars width (lineStart width)) ++ rest) := by
  by_cases hp : p = .done
  · subst hp
    rw [chars, suiteChars, List.append_assoc]
    exact .line width ⟨by decide, by decide, by decide⟩
  · rw [p.suiteChars_chars hp]
    exact p.break_chars_of_ne hp

end Program

end ServiceAtlas.Python
