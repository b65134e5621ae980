import ServiceAtlas.Proofs.PropertiesSection
import Mathlib.Data.List.ReduceOption

/-!
Flat configuration files as they are written: pairs, each on a line of its own, and between them blank
lines, comments and whole sections of other names. Each of these lines is complete in itself
(`Tells`), so that the file is read line by line, and what is read is the pairs
(`defaultSection_written`).
-/

namespace ServiceAtlas.Properties

variable {line : List Char} {lines : List (List Char)} {ss before : List Statement}

/-! ### What is written -/

/-- A pair that can be written on a line. The line is not taken for a comment or a header, and does
not go on. -/
structure Pair where
  key : String
  value : String
  plain : IsPlainPair key value
  opening : ∀ c ∈ key.toList.head?, c ∉ ['#', ';', '!', '[']
  ending : value.toList.getLast? ≠ some '\\'

/-- A line that is written within a section. -/
inductive Line where
  | pair (p : Pair)
  | blank (text : String) (isBlank : ∀ c ∈ text.toList, Text.isBlank c = true)
    (oneLine : '\n' ∉ text.toList)
  | comment (mark : Char) (text : String) (isMark : mark ∈ ['#', ';', '!'])
    (oneLine : '\n' ∉ text.toList)

def headerText (name : String) : String := "[" ++ name ++ "]"

/-- What stands in a file: a line of the default section, or another section, behind which the default
section is opened again. -/
inductive Piece where
  | line (l : Line)
  | foreign (name : String) (oneLine : '\n' ∉ name.toList)
    (other : Text.trim name.toList ≠ defaultName.toList) (lines : List Line)

namespace Line

def text : Line → String
  | .pair p => p.key ++ "=" ++ p.value
  | .blank text _ _ => text
  | .comment mark text _ _ => String.singleton mark ++ text

def statement? : Line → Option Statement
  | .pair p => some (.assign p.key p.value)
  | .blank _ _ _ => none
  | .comment _ _ _ _ => none

end Line

namespace Piece

def texts : Piece → List String
  | .line l => [l.text]
  | .foreign name _ _ lines => headerText name :: (lines.map Line.text ++ [headerText defaultName])

/-- The pairs of the default section. -/
def pairs : Piece → List (String × String)
  | .line (.pair p) => [(p.key, p.value)]
  | _ => []

/-- What each line of the piece says, if anything. -/
def told : Piece → List (Option Statement)
  | .line l => [l.statement?]
  | .foreign name _ _ lines => some (.header (String.ofList (Text.trim name.toList))) ::
    (lines.map Line.statement? ++ [some (.header defaultName)])

end Piece

/-! ### Lines that are complete in themselves -/

/-- A physical line that makes a statement, or none, whatever stands around it. -/
inductive Tells (line : List Char) : Option Statement → Prop
  | nothing (hskip : isSkipped (Text.trim line) = true) : Tells line none
  | header {s : Statement} (hheader : isHeader (Text.trim line) = true)
    (hs : ∀ n, Says ⟨n, Text.trim line, Text.trim line⟩ s) : Tells line (some s)
  | entry {s : Statement}
    (hentry : isSkipped (Text.trim line) = false ∧ isHeader (Text.trim line) = false)
    (hclosed : (Text.trim line).getLast? ≠ some '\\')
    (hs : ∀ n, Says ⟨n, Text.trim line, Text.trim line⟩ s) : Tells line (some s)

theorem Tells.dropReturn {o : Option Statement} (h : Tells line o) :
    Tells (Text.dropReturn line) o := by
  have htrim := (Text.trim_dropReturn line).symm
  cases h with
  | nothing hskip => exact .nothing (htrim ▸ hskip)
  | header hheader hs => exact .header (htrim ▸ hheader) (htrim ▸ hs)
  | entry hentry hclosed hs => exact .entry (htrim ▸ hentry) (htrim ▸ hclosed) (htrim ▸ hs)

theorem exists_cut_of_tells {told : List (Option Statement)} (h : List.Forall₂ Tells lines told)
    (n : Nat) : ∃ blocks, Cut n lines blocks ∧
      List.Forall₂ Says (blocks.map Block.toLogicalLine) told.reduceOption := by
  induction h generalizing n with
  | nil => exact ⟨[], .nil, .nil⟩
  | cons htells _ ih =>
    obtain ⟨blocks, hcut, hblocks⟩ := ih (n + 1)
    cases htells with
    | nothing hskip => exact ⟨blocks, .skip (isSkipped_iff.1 hskip) hcut, hblocks⟩
    | header hheader hs =>
      exact ⟨_, .header (isHeader_iff.1 hheader) hcut, .cons (hs n) hblocks⟩
    | entry hentry hclosed hs =>
      exact ⟨_, .entry (isEntry_iff.1 hentry) (.closed hclosed) hcut, .cons (hs n) hblocks⟩

theorem toList_headerText (name : String) :
    (headerText name).toList = '[' :: (name.toList ++ [']']) := by
  simp [headerText]

theorem tells_headerText (name : String) :
    Tells (headerText name).toList (some (.header (String.ofList (Text.trim name.toList)))) := by
  have htrimmed : Text.IsTrimmed ('[' :: name.toList ++ [']']) := by
    constructor
    · rintro _ ⟨⟩
      decide
    · rw [List.getLast?_concat]
      rintro _ ⟨⟩
      decide
  have htrim : Text.trim (headerText name).toList = '[' :: (name.toList ++ [']']) := by
    rw [toList_headerText]
    exact htrimmed.trim_eq
  refine .header ?_ fun n => .header htrim
  rw [htrim]
  rfl

/-- A trimmed line that is neither a comment nor a header and does not go on. -/
theorem tells_assign {key value : List Char} {sep : Char} (hsep : sep = '=' ∨ sep = ':')
    (hkey : '=' ∉ key ∧ ':' ∉ key) (hopening : ∀ c ∈ key.head?, c ∉ ['#', ';', '!', '['])
    (hne : Text.trim key ≠ []) (htrim : Text.trim (key ++ sep :: value) = key ++ sep :: value)
    (hending : (key ++ sep :: value).getLast? ≠ some '\\') : Tells (key ++ sep :: value)
      (some (.assign (String.ofList (Text.trim key)) (String.ofList (Text.trim value)))) := by
  obtain ⟨c, cs, rfl⟩ : ∃ c cs, key = c :: cs :=
    List.exists_cons_of_ne_nil fun h => hne (by rw [h]; rfl)
  have hc : c ∉ ['#', ';', '!', '['] := hopening c rfl
  refine .entry ?_ ?_ fun n => ?_ <;> rw [htrim]
  · exact isEntry_iff.2 ⟨c, rfl, hc⟩
  · exact hending
  · refine .assign ?_ rfl hsep hkey hne
    rintro ⟨⟩
    simp at hc

namespace Pair

variable (p : Pair)

theorem exists_key_eq : ∃ c cs, p.key.toList = c :: cs :=
  List.exists_cons_of_ne_nil fun h => p.plain.nonempty (String.toList_eq_nil_iff.1 h)

theorem eq_or_mem_getLast? {c : Char} (h : c ∈ (p.key.toList ++ '=' :: p.value.toList).getLast?) :
    c = '=' ∨ c ∈ p.value.toList.getLast? := by
  rw [List.getLast?_append, List.getLast?_cons] at h
  cases hlast : p.value.toList.getLast? with
  | none =>
    rw [hlast] at h
    cases h
    exact .inl rfl
  | some d =>
    rw [hlast] at h
    exact .inr h

theorem trim_text : Text.trim (p.key.toList ++ '=' :: p.value.toList) =
    p.key.toList ++ '=' :: p.value.toList := by
  apply Text.IsTrimmed.trim_eq
  constructor
  · obtain ⟨c, cs, hkey⟩ := p.exists_key_eq
    have hfirst := p.plain.trimmed_key.first
    rw [hkey] at hfirst ⊢
    exact hfirst
  · intro c hc
    rcases p.eq_or_mem_getLast? hc with rfl | hc
    · decide
    · exact p.plain.trimmed_value.last c hc

theorem tells_text : Tells (p.key.toList ++ '=' :: p.value.toList) (some (.assign p.key p.value)) := by
  have hne : Text.trim p.key.toList ≠ [] := by
    obtain ⟨c, cs, hkey⟩ := p.exists_key_eq
    rw [p.plain.trimmed_key.trim_eq, hkey]
    exact List.cons_ne_nil c cs
  have hending : (p.key.toList ++ '=' :: p.value.toList).getLast? ≠ some '\\' := by
    intro hlast
    rcases p.eq_or_mem_getLast? hlast with heq | hlast
    · cases heq
    · exact p.ending hlast
  have htells := tells_assign (.inl rfl) p.plain.undivided p.opening hne p.trim_text hending
  rwa [p.plain.trimmed_key.trim_eq, p.plain.trimmed_value.trim_eq, String.ofList_toList,
    String.ofList_toList] at htells

end Pair

namespace Line

theorem toList_text_pair (p : Pair) :
    (Line.pair p).text.toList = p.key.toList ++ '=' :: p.value.toList := by
  simp [text]

theorem toList_text_comment (mark : Char) (body : String) (isMark : mark ∈ ['#', ';', '!'])
    (oneLine : '\n' ∉ body.toList) :
    (Line.comment mark body isMark oneLine).text.toList = mark :: body.toList := by
  simp [text]

theorem isBlank_mark {mark : Char} (h : mark ∈ ['#', ';', '!']) : Text.isBlank mark = false := by
  simp only [List.mem_cons, List.not_mem_nil, or_false] at h
  rcases h with rfl | rfl | rfl <;> decide

theorem tells_text (l : Line) : Tells l.text.toList l.statement? := by
  cases l with
  | pair p =>
    rw [toList_text_pair]
    exact p.tells_text
  | blank text isBlank _ =>
    exact .nothing (isSkipped_iff.2 (.inl (Text.trim_eq_nil_of_blank isBlank)))
  | comment mark text isMark _ =>
    refine .nothing (isSkipped_iff.2 (.inr ⟨mark, isMark, ?_⟩))
    rw [toList_text_comment, Text.head?_trim (isBlank_mark isMark)]

theorem newline_not_mem (l : Line) : '\n' ∉ l.text.toList := by
  cases l with
  | pair p =>
    rw [toList_text_pair]
    simp [p.plain.oneLine]
  | blank text _ oneLine => exact oneLine
  | comment mark text isMark oneLine =>
    rw [toList_text_comment]
    rintro (_ | ⟨_, h⟩)
    · simp at isMark
    · exact oneLine h

end Line

theorem Piece.tells_texts (p : Piece) : List.Forall₂ Tells (p.texts.map String.toList) p.told := by
  have hlines (ls : List Line) :
      List.Forall₂ Tells ((ls.map Line.text).map String.toList) (ls.map Line.statement?) := by
    rw [List.map_map, List.forall₂_map_left_iff, List.forall₂_map_right_iff, List.forall₂_same]
    exact fun l _ => l.tells_text
  cases p with
  | line l => exact hlines [l]
  | foreign name _ _ ls =>
    rw [texts, told, List.map_cons, List.map_append]
    exact .cons (tells_headerText name)
      (List.rel_append (hlines ls) (.cons (tells_headerText defaultName) .nil))

theorem Piece.newline_not_mem (p : Piece) : ∀ t ∈ p.texts, '\n' ∉ t.toList := by
  have hheader {name : String} (h : '\n' ∉ name.toList) : '\n' ∉ (headerText name).toList := by
    simpa [toList_headerText] using h
  cases p with
  | line l => simpa [texts] using l.newline_not_mem
  | foreign name oneLine _ ls =>
    intro t ht
    rcases List.mem_cons.1 ht with rfl | ht
    · exact hheader oneLine
    · rcases List.mem_append.1 ht with ht | ht
      · obtain ⟨l, -, rfl⟩ := List.mem_map.1 ht
        exact l.newline_not_mem
      · cases List.mem_singleton.1 ht
        exact hheader (by decide)

/-! ### What is read -/

theorem defaultSection_of_tells_lines {text : String} {told : List (Option Statement)}
    (h : List.Forall₂ Tells (Text.lines text.toList) told) :
    defaultSection text = .ok (.ofPairs (defaultPairs told.reduceOption)) := by
  obtain ⟨blocks, hcut, hs⟩ := exists_cut_of_tells h 1
  rw [defaultSection, logicalLines, hcut.group_eq, collect_eq_ofPairs hs]

theorem defaultSection_of_tells {ts : List String} {told : List (Option Statement)}
    (hlines : ∀ t ∈ ts, '\n' ∉ t.toList) (h : List.Forall₂ Tells (ts.map String.toList) told) :
    defaultSection (textOfLines ts) = .ok (.ofPairs (defaultPairs told.reduceOption)) := by
  apply defaultSection_of_tells_lines
  rw [Text.lines_textOfLines hlines]
  rw [List.forall₂_map_left_iff] at h ⊢
  exact h.imp fun _ _ => Tells.dropReturn

/-- Statements among which there is no header leave the section as it is. -/
theorem inDefault_append (h : ∀ s ∈ ss, s.name? = none) :
    InDefault (before ++ ss) ↔ InDefault before := by
  rw [InDefault, List.filterMap_append, List.filterMap_eq_nil_iff.2 h, List.append_nil, ← InDefault]

theorem pairsBehind_assign (pairs : List (String × String)) (hbefore : InDefault before) :
    pairsBehind before (pairs.map fun p => .assign p.1 p.2) = pairs := by
  induction pairs generalizing before with
  | nil => rfl
  | cons p pairs ih =>
    rw [List.map_cons, pairsBehind_cons, if_pos hbefore, ih (inDefault_assign.2 hbefore)]
    rfl

theorem pairsBehind_header (before : List Statement) (name : String) (ss : List Statement) :
    pairsBehind before (.header name :: ss) = pairsBehind (before ++ [.header name]) ss := by
  rw [pairsBehind_cons, Statement.pair?, ite_self]
  rfl

theorem pairsBehind_eq_nil (h : ∀ s ∈ ss, s.name? = none) (hbefore : ¬ InDefault before) :
    pairsBehind before ss = [] := by
  induction ss generalizing before with
  | nil => rfl
  | cons s ss ih =>
    obtain ⟨hs, hss⟩ := List.forall_mem_cons.1 h
    have hbehind : ¬ InDefault (before ++ [s]) := by
      rwa [inDefault_append (by simpa using hs)]
    rw [pairsBehind_cons, if_neg hbefore, ih hss hbehind]
    rfl

namespace Piece

theorem name?_eq_none (ls : List Line) :
    ∀ s ∈ (ls.map Line.statement?).reduceOption, s.name? = none := by
  intro s hs
  obtain ⟨l, -, hl⟩ := List.mem_map.1 (List.reduceOption_mem_iff.1 hs)
  cases l <;> cases hl
  rfl

/-- A piece that begins in the default section ends in it. -/
theorem inDefault_told (p : Piece) (hbefore : InDefault before) :
    InDefault (before ++ p.told.reduceOption) := by
  cases p with
  | line l => exact (inDefault_append (name?_eq_none [l])).2 hbefore
  | foreign name _ _ ls =>
    rw [told, List.reduceOption_cons_of_some, List.reduceOption_append, ← List.cons_append,
      ← List.append_assoc]
    exact inDefault_header.2 rfl

theorem pairsBehind_told (p : Piece) (hbefore : InDefault before) :
    pairsBehind before p.told.reduceOption = p.pairs := by
  cases p with
  | line l =>
    cases l with
    | pair p =>
      refine (pairsBehind_cons before (.assign p.key p.value) []).trans ?_
      rw [if_pos hbefore]
      rfl
    | blank text _ _ => rfl
    | comment mark text _ _ => rfl
  | foreign name _ other ls =>
    have hother : ¬ InDefault (before ++ [.header (String.ofList (Text.trim name.toList))]) := by
      rw [inDefault_header]
      intro h
      exact other (by rw [← h, String.toList_ofList])
    rw [told, List.reduceOption_cons_of_some, List.reduceOption_append, pairsBehind_header,
      pairsBehind_append, pairsBehind_eq_nil (name?_eq_none ls) hother]
    exact pairsBehind_header _ defaultName []

end Piece

theorem pairsBehind_pieces (pieces : List Piece) (hbefore : InDefault before) :
    pairsBehind before (pieces.flatMap Piece.told).reduceOption = pieces.flatMap Piece.pairs := by
  induction pieces generalizing before with
  | nil => rfl
  | cons p pieces ih =>
    rw [List.flatMap_cons, List.flatMap_cons, List.reduceOption_append, pairsBehind_append,
      p.pairsBehind_told hbefore, ih (p.inDefault_told hbefore)]

/-- A file that is written piece by piece is read as the pairs that were written, in their order. -/
theorem defaultSection_written (pieces : List Piece)
    (h : ((pieces.flatMap Piece.pairs).map Prod.fst).Nodup) :
    (defaultSection (textOfLines (pieces.flatMap Piece.texts))).map OrderedMap.entries =
      .ok (pieces.flatMap Piece.pairs) := by
  have hlines : ∀ t ∈ pieces.flatMap Piece.texts, '\n' ∉ t.toList := by
    intro t ht
    obtain ⟨p, -, ht⟩ := List.mem_flatMap.1 ht
    exact p.newline_not_mem t ht
  have htells : List.Forall₂ Tells ((pieces.flatMap Piece.texts).map String.toList)
      (pieces.flatMap Piece.told) := by
    rw [List.map_flatMap]
    exact List.rel_flatMap (List.forall₂_same.2 fun _ _ => rfl) (by rintro p _ rfl; exact p.tells_texts)
  rw [defaultSection_of_tells hlines htells, defaultPairs_eq, pairsBehind_pieces pieces inDefault_nil]
  exact congrArg Except.ok (OrderedMap.entries_ofPairs_of_nodup h)

/-- Marks and separators inside a value are part of it. A comment does not go on, whatever stands at
its end, and a key of another section is not in the way of the same key. -/
theorem defaultSection_written_around_foreign :
    (defaultSection ("# top \\\na=x:y#=z\n[ other ]\na=0\n! \\\n[DEFAULT]\n \t\nb\\=\n")).map
      OrderedMap.entries = .ok [("a", "x:y#=z"), ("b\\", "")] :=
  defaultSection_written
    [.line (.comment '#' " top \\" (by decide) (by decide)),
      .line (.pair ⟨"a", "x:y#=z", by constructor <;> decide, by simp, by decide⟩),
      .foreign " other " (by decide) (by decide)
        [.pair ⟨"a", "0", by constructor <;> decide, by simp, by decide⟩,
          .comment '!' " \\" (by decide) (by decide)],
      .line (.blank " \t" (List.all_eq_true.1 (by decide)) (by decide)),
      .line (.pair ⟨"b\\", "", by constructor <;> decide, by simp, by decide⟩)]
    (by decide)

end ServiceAtlas.Properties
