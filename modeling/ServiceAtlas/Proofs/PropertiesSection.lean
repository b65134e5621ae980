import ServiceAtlas.Proofs.OrderedMapHistory
import ServiceAtlas.Proofs.PropertiesLines
import Mathlib.Data.List.Infix

/-!
What a flat configuration file says. Each logical line says one thing (`Says`) or lacks something
(`Lacks`). A file is refused for the first logical line that lacks something, in whatever section;
else it amounts to the assignments of its default section, which are those that no header precedes or
whose last header has the name of this section (`defaultPairs`).
-/

namespace ServiceAtlas.Properties

variable {l : LogicalLine} {ls : List LogicalLine} {s : Statement} {ss : List Statement}

/-! ### One logical line -/

/-- What a logical line says: a header in brackets, or an assignment, cut at its first separator. -/
inductive Says (l : LogicalLine) : Statement → Prop
  | header {name : List Char} (h : l.head = '[' :: (name ++ [']'])) :
    Says l (.header (String.ofList (Text.trim name)))
  | assign {key value : List Char} {sep : Char} (hhead : l.head.head? ≠ some '[')
    (htext : l.text = key ++ sep :: value) (hsep : sep = '=' ∨ sep = ':')
    (hkey : '=' ∉ key ∧ ':' ∉ key) (hne : Text.trim key ≠ []) :
    Says l (.assign (String.ofList (Text.trim key)) (String.ofList (Text.trim value)))

/-- What a logical line lacks: the bracket at the end of a header, a separator, or a key. -/
inductive Lacks (l : LogicalLine) : Fault → Prop
  | bracket (hhead : l.head.head? = some '[') (hlast : l.head.getLast? ≠ some ']') :
    Lacks l (.unterminatedHeader (String.ofList l.head))
  | separator (hhead : l.head.head? ≠ some '[') (htext : '=' ∉ l.text ∧ ':' ∉ l.text) :
    Lacks l (.noSeparator (String.ofList l.head))
  | key {blanks value : List Char} {sep : Char} (hhead : l.head.head? ≠ some '[')
    (htext : l.text = blanks ++ sep :: value) (hsep : sep = '=' ∨ sep = ':')
    (hblanks : ∀ c ∈ blanks, Text.isBlank c = true) : Lacks l .emptyKey

theorem isSeparator_iff {c : Char} : isSeparator c = true ↔ c = '=' ∨ c = ':' := by
  simp [isSeparator]

theorem not_isSeparator_of_mem {key : List Char} (h : '=' ∉ key ∧ ':' ∉ key) :
    ∀ c ∈ key, (!isSeparator c) = true := by
  intro c hc
  rw [Bool.not_eq_true', Bool.eq_false_iff, Ne, isSeparator_iff]
  rintro (rfl | rfl)
  · exact h.1 hc
  · exact h.2 hc

theorem isHeader_eq_false (h : l.head.head? ≠ some '[') : isHeader l.head = false :=
  Bool.eq_false_iff.2 fun hheader => h (isHeader_iff.1 hheader)

/-- The cut of a text at its first separator. -/
theorem read_of_separator {key value : List Char} {sep : Char} (hhead : l.head.head? ≠ some '[')
    (htext : l.text = key ++ sep :: value) (hsep : sep = '=' ∨ sep = ':')
    (hkey : '=' ∉ key ∧ ':' ∉ key) : l.read =
      if (Text.trim key).isEmpty then .error .emptyKey
      else .ok (.assign (String.ofList (Text.trim key)) (String.ofList (Text.trim value))) := by
  have hdrop : l.text.dropWhile (!isSeparator ·) = sep :: value := by
    rw [htext, List.dropWhile_append_of_pos (not_isSeparator_of_mem hkey),
      List.dropWhile_cons_of_neg (by simp [isSeparator_iff.2 hsep])]
  have htake : l.text.takeWhile (!isSeparator ·) = key := by
    rw [htext, List.takeWhile_append_of_pos (not_isSeparator_of_mem hkey),
      List.takeWhile_cons_of_neg (by simp [isSeparator_iff.2 hsep]), List.append_nil]
  rw [LogicalLine.read, isHeader_eq_false hhead, hdrop, htake]
  rfl

theorem Says.read_eq (h : Says l s) : l.read = .ok s := by
  cases h with
  | @header name h => simp [LogicalLine.read, h, isHeader]
  | assign hhead htext hsep hkey hne =>
    rw [read_of_separator hhead htext hsep hkey, if_neg (by simpa using hne)]

theorem Lacks.read_eq {fault : Fault} (h : Lacks l fault) : l.read = .error fault := by
  cases h with
  | bracket hhead hlast =>
    obtain ⟨inner, hinner⟩ := List.head?_eq_some_iff.1 hhead
    have hlast' : inner.getLast? ≠ some ']' := by
      intro h
      rw [hinner, List.getLast?_cons, h] at hlast
      exact hlast rfl
    simp [LogicalLine.read, hinner, isHeader, hlast']
  | separator hhead htext =>
    have hdrop : l.text.dropWhile (!isSeparator ·) = [] :=
      List.dropWhile_eq_nil_iff.2 (not_isSeparator_of_mem htext)
    rw [LogicalLine.read, isHeader_eq_false hhead, hdrop]
    rfl
  | @key blanks value sep hhead htext hsep hblanks =>
    have hkey : '=' ∉ blanks ∧ ':' ∉ blanks :=
      ⟨fun h => absurd (hblanks _ h) (by decide), fun h => absurd (hblanks _ h) (by decide)⟩
    rw [read_of_separator hhead htext hsep hkey, Text.trim_eq_nil_of_blank hblanks]
    rfl

theorem says_or_lacks (l : LogicalLine) : (∃ s, Says l s) ∨ ∃ fault, Lacks l fault := by
  by_cases hhead : l.head.head? = some '['
  · by_cases hlast : l.head.getLast? = some ']'
    · obtain ⟨front, hfront⟩ := List.getLast?_eq_some_iff.1 hlast
      cases front with
      | nil =>
        rw [hfront] at hhead
        cases hhead
      | cons c name =>
        rw [hfront] at hhead
        cases hhead
        exact .inl ⟨_, .header hfront⟩
    · exact .inr ⟨_, .bracket hhead hlast⟩
  · cases hdrop : l.text.dropWhile (!isSeparator ·) with
    | nil =>
      have htext := List.dropWhile_eq_nil_iff.1 hdrop
      refine .inr ⟨_, .separator hhead ⟨fun h => ?_, fun h => ?_⟩⟩ <;> cases htext _ h
    | cons sep value =>
      have hsep : sep = '=' ∨ sep = ':' := by
        have hhead := List.head?_dropWhile_not (!isSeparator ·) l.text
        rw [hdrop] at hhead
        exact isSeparator_iff.1 (by simpa using hhead)
      have htext : l.text = l.text.takeWhile (!isSeparator ·) ++ sep :: value := by
        rw [← hdrop, List.takeWhile_append_dropWhile]
      have hkey : ∀ c ∈ l.text.takeWhile (!isSeparator ·), (!isSeparator c) = true :=
        fun c hc => List.mem_takeWhile_imp (p := (!isSeparator ·)) hc
      by_cases hne : Text.trim (l.text.takeWhile (!isSeparator ·)) = []
      · exact .inr ⟨_, .key hhead htext hsep (Text.trim_eq_nil_iff.1 hne)⟩
      · refine .inl ⟨_, .assign hhead htext hsep ⟨fun h => ?_, fun h => ?_⟩ hne⟩ <;> cases hkey _ h

/-! ### The default section -/

def Statement.name? : Statement → Option String
  | .header name => some name
  | .assign _ _ => none

def Statement.pair? : Statement → Option (String × String)
  | .header _ => none
  | .assign key value => some (key, value)

/-- What stands behind these statements belongs to the default section: no header is among them, or
the last one has the name of this section. -/
def InDefault (before : List Statement) : Prop :=
  ∀ name ∈ (before.filterMap Statement.name?).getLast?, name = defaultName

instance (before : List Statement) : Decidable (InDefault before) :=
  decidable_of_iff ((before.filterMap Statement.name?).getLast?.all (· = defaultName) = true)
    (by simp [InDefault, Option.all_eq_true])

/-- The assignments of the default section, each statement being looked at with those before it. -/
def defaultPairs (ss : List Statement) : List (String × String) :=
  (ss.zip ss.inits).filterMap fun p => if InDefault p.2 then p.1.pair? else none

theorem inDefault_nil : InDefault [] := by decide

theorem inDefault_header {before : List Statement} {name : String} :
    InDefault (before ++ [.header name]) ↔ name = defaultName := by
  simp [InDefault, Statement.name?]

theorem inDefault_assign {before : List Statement} {key value : String} :
    InDefault (before ++ [.assign key value]) ↔ InDefault before := by
  simp [InDefault, Statement.name?]

/-- The assignments of the default section among statements that stand behind others. -/
def pairsBehind (before ss : List Statement) : List (String × String) :=
  (ss.zip (ss.inits.map (before ++ ·))).filterMap fun p => if InDefault p.2 then p.1.pair? else none

theorem defaultPairs_eq (ss : List Statement) : defaultPairs ss = pairsBehind [] ss := by
  simp [defaultPairs, pairsBehind]

theorem pairsBehind_cons (before : List Statement) (s : Statement) (ss : List Statement) :
    pairsBehind before (s :: ss) =
      (if InDefault before then s.pair? else none).toList ++ pairsBehind (before ++ [s]) ss := by
  have hinits : (s :: ss).inits.map (before ++ ·) =
      before :: ss.inits.map ((before ++ [s]) ++ ·) := by
    simp [Function.comp_def]
  rw [pairsBehind, hinits, List.zip_cons_cons, List.filterMap_cons, ← pairsBehind]
  cases (if InDefault before then s.pair? else none) <;> rfl

theorem pairsBehind_append (before ss ts : List Statement) :
    pairsBehind before (ss ++ ts) = pairsBehind before ss ++ pairsBehind (before ++ ss) ts := by
  induction ss generalizing before with
  | nil =>
    rw [List.nil_append, List.append_nil]
    rfl
  | cons s ss ih =>
    rw [List.cons_append, pairsBehind_cons, pairsBehind_cons, ih, List.append_assoc,
      List.append_assoc, List.singleton_append]

/-- An assignment in the default section is one of its pairs. -/
theorem mem_defaultPairs {before : List Statement} (h : InDefault before) (key value : String)
    (after : List Statement) : (key, value) ∈ defaultPairs (before ++ .assign key value :: after) := by
  rw [defaultPairs_eq, pairsBehind_append, pairsBehind_cons, List.nil_append, if_pos h]
  exact List.mem_append_right _ (List.mem_append_left _ List.mem_cons_self)

theorem collect_eq_ok (h : List.Forall₂ Says ls ss) (before : List Statement)
    (m : OrderedMap String String) : collect (InDefault before) m ls =
      .ok ((pairsBehind before ss).foldl (fun m p => m.insert p.1 p.2) m) := by
  induction h generalizing before m with
  | nil => rfl
  | @cons l s ls ss hsays _ ih =>
    rw [collect, hsays.read_eq, pairsBehind_cons, List.foldl_append, ← ih]
    cases s with
    | header name => simp [inDefault_header, Statement.pair?]
    | assign key value =>
      by_cases hbefore : InDefault before <;> simp [inDefault_assign, hbefore, Statement.pair?]

/-- The first logical line that lacks something decides. -/
theorem collect_eq_error {before after : List LogicalLine} {fault : Fault}
    (hbefore : ∀ b ∈ before, ∃ s, Says b s) (hl : Lacks l fault) (inside : Bool)
    (m : OrderedMap String String) :
    collect inside m (before ++ l :: after) = .error ⟨l.number, fault⟩ := by
  induction before generalizing inside m with
  | nil => rw [List.nil_append, collect, hl.read_eq]
  | cons b before ih =>
    obtain ⟨⟨s, hs⟩, hbefore⟩ := List.forall_mem_cons.1 hbefore
    rw [List.cons_append, collect, hs.read_eq]
    cases s with
    | header name => exact ih hbefore _ _
    | assign key value => exact ih hbefore _ _

theorem says_or_first_lacks (ls : List LogicalLine) : (∃ ss, List.Forall₂ Says ls ss) ∨
    ∃ before l after fault, ls = before ++ l :: after ∧ (∀ b ∈ before, ∃ s, Says b s) ∧
      Lacks l fault := by
  induction ls with
  | nil => exact .inl ⟨[], .nil⟩
  | cons l ls ih =>
    obtain ⟨s, hs⟩ | ⟨fault, hfault⟩ := says_or_lacks l
    · obtain ⟨ss, hss⟩ | ⟨before, l', after, fault, rfl, hbefore, hfault⟩ := ih
      · exact .inl ⟨s :: ss, .cons hs hss⟩
      · exact .inr ⟨l :: before, l', after, fault, rfl,
          List.forall_mem_cons.2 ⟨⟨s, hs⟩, hbefore⟩, hfault⟩
    · exact .inr ⟨[], l, ls, fault, rfl, by simp, hfault⟩

/-! ### The file -/

theorem exists_mem_of_forall₂ {α β : Type} {r : α → β → Prop} {as : List α} {bs : List β} {b : β}
    (h : List.Forall₂ r as bs) (hb : b ∈ bs) : ∃ a ∈ as, r a b := by
  induction h with
  | nil => cases hb
  | cons hr _ ih =>
    rcases List.mem_cons.1 hb with rfl | hb
    · exact ⟨_, List.mem_cons_self, hr⟩
    · obtain ⟨a, ha, hr⟩ := ih hb
      exact ⟨a, List.mem_cons_of_mem _ ha, hr⟩

theorem assign_mem_of_mem_defaultPairs {key value : String} (h : (key, value) ∈ defaultPairs ss) :
    .assign key value ∈ ss := by
  obtain ⟨⟨s, before⟩, hmem, hpair⟩ := List.mem_filterMap.1 h
  obtain ⟨-, hs⟩ := Option.ite_none_right_eq_some.1 hpair
  cases s with
  | header name => cases hs
  | assign key' value' =>
    cases hs
    exact (List.of_mem_zip hmem).1

/-- A pair as a file can give it. -/
structure IsPlainPair (key value : String) : Prop where
  nonempty : key ≠ ""
  trimmed_key : Text.IsTrimmed key.toList
  trimmed_value : Text.IsTrimmed value.toList
  undivided : '=' ∉ key.toList ∧ ':' ∉ key.toList
  oneLine : '\n' ∉ key.toList ∧ '\n' ∉ value.toList

theorem Says.isPlainPair {key value : String} (h : Says l (.assign key value))
    (hline : '\n' ∉ l.text) : IsPlainPair key value := by
  cases h with
  | @assign key value sep hhead htext hsep hkey hne =>
    rw [htext] at hline
    constructor
    · intro hempty
      exact hne (by simpa using congrArg String.toList hempty)
    all_goals simp only [String.toList_ofList]
    · exact Text.isTrimmed_trim key
    · exact Text.isTrimmed_trim value
    · exact ⟨fun h => hkey.1 (Text.mem_of_mem_trim h), fun h => hkey.2 (Text.mem_of_mem_trim h)⟩
    · exact ⟨fun h => hline (List.mem_append_left _ (Text.mem_of_mem_trim h)), fun h =>
        hline (List.mem_append_right _ (List.mem_cons_of_mem _ (Text.mem_of_mem_trim h)))⟩

/-- What the logical lines of a file amount to. It is refused for the first of them that lacks
something. Otherwise the keys of the default section stand in the order of their first assignments,
each with the value of its last. -/
structure Decides (ls : List LogicalLine) (result : Except Error (OrderedMap String String)) :
    Prop where
  refused : (∃ e, result = .error e) ↔ ∃ l ∈ ls, ∃ fault, Lacks l fault
  error : ∀ e, result = .error e ↔ ∃ before l after, ls = before ++ l :: after ∧
    (∀ b ∈ before, ∃ s, Says b s) ∧ Lacks l e.fault ∧ e.line = l.number
  pairs : ∀ m, result = .ok m → ∃ ss, List.Forall₂ Says ls ss ∧
    m.keys = ((defaultPairs ss).map Prod.fst).eraseDups ∧
    ∀ key, m.get? key = ((defaultPairs ss).filter fun p => p.1 = key).getLast?.map Prod.snd
  distinct : ∀ m, result = .ok m → m.keys.Nodup
  plain : ∀ m, result = .ok m → ∀ p ∈ m.entries, IsPlainPair p.1 p.2

theorem collect_eq_ofPairs (h : List.Forall₂ Says ls ss) :
    collect true .empty ls = .ok (.ofPairs (defaultPairs ss)) := by
  have hcollect := collect_eq_ok h [] .empty
  rwa [decide_eq_true inDefault_nil, ← defaultPairs_eq] at hcollect

theorem collect_eq_error_iff {e : Error} : collect true .empty ls = .error e ↔
    ∃ before l after, ls = before ++ l :: after ∧ (∀ b ∈ before, ∃ s, Says b s) ∧
      Lacks l e.fault ∧ e.line = l.number := by
  constructor
  · intro h
    obtain ⟨ss, hss⟩ | ⟨before, l, after, fault, rfl, hbefore, hl⟩ := says_or_first_lacks ls
    · rw [collect_eq_ofPairs hss] at h
      cases h
    · rw [collect_eq_error hbefore hl] at h
      cases h
      exact ⟨before, l, after, rfl, hbefore, hl, rfl⟩
  · rintro ⟨before, l, after, rfl, hbefore, hl, hline⟩
    rw [collect_eq_error hbefore hl, ← hline]

theorem exists_of_collect_eq_ok {m : OrderedMap String String} (h : collect true .empty ls = .ok m) :
    ∃ ss, List.Forall₂ Says ls ss ∧ m = .ofPairs (defaultPairs ss) := by
  obtain ⟨ss, hss⟩ | ⟨before, l, after, fault, rfl, hbefore, hl⟩ := says_or_first_lacks ls
  · rw [collect_eq_ofPairs hss] at h
    cases h
    exact ⟨ss, hss, rfl⟩
  · rw [collect_eq_error hbefore hl] at h
    cases h

theorem decides_collect (hlines : ∀ l ∈ ls, '\n' ∉ l.text) : Decides ls (collect true .empty ls) where
  refused := by
    constructor
    · rintro ⟨e, he⟩
      obtain ⟨before, l, after, rfl, -, hl, -⟩ := collect_eq_error_iff.1 he
      exact ⟨l, List.mem_append_right _ List.mem_cons_self, _, hl⟩
    · rintro ⟨l, hl, fault, hfault⟩
      obtain ⟨ss, hss⟩ | ⟨before, l', after, fault', rfl, hbefore, hl'⟩ := says_or_first_lacks ls
      · obtain ⟨s, -, hs⟩ := exists_mem_of_forall₂ hss.flip hl
        have hread := hs.read_eq
        rw [hfault.read_eq] at hread
        cases hread
      · exact ⟨_, collect_eq_error hbefore hl' true .empty⟩
  error e := collect_eq_error_iff
  pairs m hm := by
    obtain ⟨ss, hss, rfl⟩ := exists_of_collect_eq_ok hm
    exact ⟨ss, hss, OrderedMap.keys_ofPairs _, OrderedMap.get?_ofPairs _⟩
  distinct m _ := m.keys_nodup
  plain m hm p hp := by
    obtain ⟨ss, hss, rfl⟩ := exists_of_collect_eq_ok hm
    have hget := (OrderedMap.get?_eq_some_iff _ p.1 p.2).2 hp
    rw [OrderedMap.get?_ofPairs] at hget
    obtain ⟨⟨key, value⟩, hlast, hvalue⟩ := Option.map_eq_some_iff.1 hget
    obtain ⟨hmem, hkey⟩ := List.mem_filter.1 (List.mem_of_getLast? hlast)
    obtain ⟨l, hl, hsays⟩ := exists_mem_of_forall₂ hss (assign_mem_of_mem_defaultPairs hmem)
    rw [← of_decide_eq_true hkey, ← hvalue]
    exact hsays.isPlainPair (hlines l hl)

/-- The lines of a file are cut in one way, and its logical lines decide what becomes of it. -/
theorem cut_decides_defaultSection (text : String) :
    ∃ blocks, (∀ bs, Cut 1 (Text.lines text.toList) bs ↔ bs = blocks) ∧
      Decides (blocks.map Block.toLogicalLine) (defaultSection text) := by
  obtain ⟨blocks, hblocks⟩ := exists_cut_iff 1 (Text.lines text.toList)
  have hcut := (hblocks blocks).2 rfl
  refine ⟨blocks, hblocks, ?_⟩
  rw [defaultSection, logicalLines, hcut.group_eq]
  apply decides_collect
  intro l hl hnewline
  obtain ⟨b, hb, rfl⟩ := List.mem_map.1 hl
  obtain ⟨line, hline, hmem⟩ := hcut.mem_lines hb hnewline
  exact Text.newline_not_mem_of_mem_lines hline hmem

end ServiceAtlas.Properties
