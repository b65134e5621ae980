import ServiceAtlas.Proofs.PropertiesSection

/-!
How far a logical line reaches. By the texts of the physical lines themselves it should reach to the
first that does not end in a backslash (`IsRun`). It goes by the text that is joined so far, and this
makes a difference where a blank line comes next and the joined text ends in two backslashes: one is
left for the blank line, which hands it on (`Overruns`). Everywhere else a logical line is a run.
-/

namespace ServiceAtlas.Properties

variable {text whole own line : List Char} {more rest lines : List (List Char)} {n : Nat}
  {blocks : List Block}

/-- A first line with the text `own` and lines behind it, as far as their own texts go on: all but the
last end in a backslash, and the last does not, unless nothing is left. -/
structure IsRun (own : List Char) (more rest : List (List Char)) : Prop where
  goesOn : ∀ t ∈ (own :: more.map Text.trimStart).dropLast, isContinued t = true
  ends : rest = [] ∨ ∀ t ∈ (own :: more.map Text.trimStart).getLast?, isContinued t = false

/-- The text so far, when these lines have been taken in. -/
def joined : (text : List Char) → (more : List (List Char)) → List Char
  | text, [] => text
  | text, line :: more => joined (text.dropLast ++ Text.trimStart line) more

/-- Lines go on up to a blank line that is not the last of all, and what is joined before it ends in
two backslashes. -/
def Overruns (text : List Char) (lines : List (List Char)) : Prop :=
  isContinued text = true ∧ ∃ more blank next after, lines = more ++ blank :: next :: after ∧
    (∀ line ∈ more, isContinued (Text.trimStart line) = true) ∧ Text.trimStart blank = [] ∧
    ['\\', '\\'] <:+ joined text more

/-! ### One step of a run -/

theorem isRun_nil : IsRun own [] rest ↔ rest = [] ∨ isContinued own = false := by
  constructor
  · intro h
    exact h.ends.imp_right fun hlast => hlast own rfl
  · intro h
    exact ⟨by simp, h.imp_right fun hown => by simpa using hown⟩

theorem isRun_cons : IsRun own (line :: more) rest ↔
    isContinued own = true ∧ IsRun (Text.trimStart line) more rest := by
  constructor
  · intro h
    obtain ⟨hgoes, hends⟩ := h
    rw [List.map_cons, List.dropLast_cons_cons, List.forall_mem_cons] at hgoes
    rw [List.map_cons, List.getLast?_cons_cons] at hends
    exact ⟨hgoes.1, hgoes.2, hends⟩
  · rintro ⟨hown, hgoes, hends⟩
    refine ⟨?_, ?_⟩
    · rw [List.map_cons, List.dropLast_cons_cons, List.forall_mem_cons]
      exact ⟨hown, hgoes⟩
    · rw [List.map_cons, List.getLast?_cons_cons]
      exact hends

theorem not_overruns_nil : ¬ Overruns text [] := by
  rintro ⟨-, more, blank, next, after, heq, -⟩
  cases more <;> cases heq

@[simp] theorem isContinued_nil : isContinued [] = false := rfl

theorem isContinued_append {front : List Char} (hown : own ≠ []) :
    isContinued (front ++ own) = isContinued own := by
  rw [isContinued, isContinued, List.getLast?_append, List.getLast?_eq_some_getLast hown,
    Option.some_or]

theorem two_backslashes_suffix_iff :
    ['\\', '\\'] <:+ text ++ ['\\'] ↔ isContinued text = true := by
  rw [isContinued_iff]
  constructor
  · rintro ⟨front, heq⟩
    have hcut : (front ++ ['\\']) ++ ['\\'] = text ++ ['\\'] := by
      rw [← heq, List.append_assoc]
      rfl
    exact ⟨front, (List.append_cancel_right hcut).symm⟩
  · rintro ⟨front, rfl⟩
    exact ⟨front, by rw [List.append_assoc]; rfl⟩

theorem overruns_blank (hline : Text.trimStart line = []) :
    Overruns (text ++ ['\\']) (line :: lines) ↔ isContinued text = true ∧ lines ≠ [] := by
  constructor
  · rintro ⟨-, more, blank, next, after, heq, hmore, -, hjoined⟩
    cases more with
    | nil =>
      cases heq
      exact ⟨two_backslashes_suffix_iff.1 hjoined, List.cons_ne_nil _ _⟩
    | cons first more =>
      cases heq
      have hfirst := hmore line List.mem_cons_self
      rw [hline] at hfirst
      cases hfirst
  · rintro ⟨htext, hlines⟩
    obtain ⟨next, after, rfl⟩ := List.exists_cons_of_ne_nil hlines
    exact ⟨isContinued_concat text, [], line, next, after, rfl, by simp, hline,
      two_backslashes_suffix_iff.2 htext⟩

theorem overruns_cons (hline : Text.trimStart line ≠ []) :
    Overruns (text ++ ['\\']) (line :: lines) ↔ Overruns (text ++ Text.trimStart line) lines := by
  constructor
  · rintro ⟨-, more, blank, next, after, heq, hmore, hblank, hjoined⟩
    cases more with
    | nil =>
      cases heq
      exact (hline hblank).elim
    | cons first more =>
      cases heq
      obtain ⟨hfirst, hmore⟩ := List.forall_mem_cons.1 hmore
      rw [joined, List.dropLast_concat] at hjoined
      exact ⟨(isContinued_append hline).trans hfirst, more, blank, next, after, rfl, hmore, hblank,
        hjoined⟩
  · rintro ⟨htext, more, blank, next, after, rfl, hmore, hblank, hjoined⟩
    rw [isContinued_append hline] at htext
    refine ⟨isContinued_concat text, line :: more, blank, next, after, rfl,
      List.forall_mem_cons.2 ⟨htext, hmore⟩, hblank, ?_⟩
    rwa [joined, List.dropLast_concat]

/-- What is joined is a run, or there is an overrun. The text so far ends with the text of the line
that was taken in last, which is not blank as long as no overrun is possible. -/
theorem Joins.isRun_iff (h : Joins text more rest whole) (hne : own ≠ []) (hown : own <:+ text) :
    IsRun own more rest ↔ ¬ Overruns text (more ++ rest) := by
  induction h generalizing own with
  | @closed text rest h =>
    obtain ⟨front, rfl⟩ := hown
    have hcontinued : isContinued (front ++ own) = false := by simpa [isContinued] using h
    constructor
    · rintro - ⟨htext, -⟩
      rw [hcontinued] at htext
      cases htext
    · intro _
      exact isRun_nil.2 (.inr (isContinued_append hne ▸ hcontinued))
  | @last text =>
    constructor
    · intro _
      exact not_overruns_nil
    · intro _
      exact isRun_nil.2 (.inl rfl)
  | @onward text line whole more rest next ih =>
    have hcontinued : isContinued own = true := by
      obtain ⟨front, heq⟩ := hown
      rw [← isContinued_append hne, heq, isContinued_concat]
    rw [isRun_cons, List.cons_append]
    by_cases hline : Text.trimStart line = []
    · -- a blank line ends the run, but it is taken for an end only if no backslash is left
      rw [overruns_blank hline, hline]
      rw [hline, List.append_nil] at next
      obtain ⟨htext, rfl, rfl⟩ | ⟨front, rfl, ⟨rfl, rfl, rfl⟩ | ⟨other, others, rfl, -⟩⟩ :=
        next.cases_on_end
      · simp [hcontinued, htext, isRun_nil]
      · simp [hcontinued, isRun_nil]
      · simp [isContinued_concat, isRun_cons]
    · rw [overruns_cons hline, ← ih hline (List.suffix_append _ _)]
      exact and_iff_right hcontinued

/-! ### Where logical lines begin -/

/-- The place of a logical line among the physical lines. -/
theorem Cut.place {b : Block} (h : Cut n lines blocks) (hb : b ∈ blocks) :
    ∃ before first rest, lines = before ++ first :: (b.more ++ rest) ∧ b.number = n + before.length ∧
      b.head = Text.trim first ∧ ((isHeader b.head = true ∧ b.more = []) ∨
        (b.head ≠ [] ∧ isHeader b.head = false ∧ Joins b.head b.more rest b.text)) := by
  induction h with
  | nil => cases hb
  | @skip n line rest blocks hskip next ih =>
    obtain ⟨before, first, rest', rfl, hnumber, hplace⟩ := ih hb
    exact ⟨line :: before, first, rest', rfl, by rw [hnumber, List.length_cons]; omega, hplace⟩
  | @header n line rest blocks hheader next ih =>
    rcases List.mem_cons.1 hb with rfl | hb
    · exact ⟨[], line, rest, rfl, rfl, rfl, .inl ⟨isHeader_iff.2 hheader, rfl⟩⟩
    · obtain ⟨before, first, rest', rfl, hnumber, hplace⟩ := ih hb
      exact ⟨line :: before, first, rest', rfl, by rw [hnumber, List.length_cons]; omega, hplace⟩
  | @entry n line text more rest blocks hentry joins next ih =>
    rcases List.mem_cons.1 hb with rfl | hb
    · obtain ⟨hskip, hheader⟩ := isEntry_iff.2 hentry
      have hne : Text.trim line ≠ [] := by
        intro hnil
        rw [hnil] at hskip
        cases hskip
      exact ⟨[], line, rest, rfl, rfl, rfl, .inr ⟨hne, hheader, joins⟩⟩
    · obtain ⟨before, first, rest', rfl, hnumber, hplace⟩ := ih hb
      refine ⟨line :: (more ++ before), first, rest', by simp, ?_, hplace⟩
      rw [hnumber, List.length_cons, List.length_append]
      omega

/-- At a physical line the cut begins anew, or the line is taken in by a logical line. -/
inductive Meets (n : Nat) (before : List (List Char)) (line : List Char) (after : List (List Char))
    (blocks : List Block) : Prop
  | anew {front back : List Block} (hblocks : blocks = front ++ back)
    (hcut : Cut (n + before.length) (line :: after) back)
  | inside {b : Block} {outer inner others : List (List Char)} {first : List Char} (hb : b ∈ blocks)
    (hbefore : before = outer ++ first :: inner) (hhead : b.head = Text.trim first)
    (hmore : b.more = inner ++ line :: others)

theorem Meets.behind {before after : List (List Char)} (taken : List (List Char)) (bs : List Block)
    (h : Meets (n + taken.length) before line after blocks) :
    Meets n (taken ++ before) line after (bs ++ blocks) := by
  cases h with
  | anew hblocks hcut =>
    rw [Nat.add_assoc, ← List.length_append] at hcut
    exact .anew (by rw [hblocks, List.append_assoc]) hcut
  | inside hb hbefore hhead hmore =>
    exact .inside (List.mem_append_right bs hb) (by rw [hbefore, List.append_assoc]) hhead hmore

theorem Cut.meets {before after : List (List Char)} (h : Cut n lines blocks)
    (hlines : lines = before ++ line :: after) : Meets n before line after blocks := by
  induction h generalizing before with
  | nil => cases before <;> cases hlines
  | @skip n first rest blocks hskip next ih =>
    cases before with
    | nil =>
      cases hlines
      exact .anew (List.nil_append _).symm (.skip hskip next)
    | cons first' before =>
      obtain ⟨rfl, hrest⟩ := List.cons.inj hlines
      exact .behind [first] [] (ih hrest)
  | @header n first rest blocks hheader next ih =>
    cases before with
    | nil =>
      cases hlines
      exact .anew (List.nil_append _).symm (.header hheader next)
    | cons first' before =>
      obtain ⟨rfl, hrest⟩ := List.cons.inj hlines
      exact .behind [first] [_] (ih hrest)
  | @entry n first text more rest blocks hentry joins next ih =>
    cases before with
    | nil =>
      cases hlines
      exact .anew (List.nil_append _).symm (.entry hentry joins next)
    | cons first' before =>
      obtain ⟨rfl, htail⟩ := List.cons.inj hlines
      -- the line lies behind the logical line, right behind it, or within it
      have hsplit : (∃ between, before = more ++ between ∧ rest = between ++ line :: after) ∨
          ∃ others, more = before ++ line :: others := by
        obtain ⟨between, rfl, hrest⟩ | ⟨within, rfl, hrest⟩ := List.append_eq_append_iff.1 htail
        · exact .inl ⟨between, rfl, hrest⟩
        · cases within with
          | nil => exact .inl ⟨[], by simp, hrest.symm⟩
          | cons line' others =>
            cases hrest
            exact .inr ⟨others, rfl⟩
      obtain ⟨between, rfl, hrest⟩ | ⟨others, rfl⟩ := hsplit
      · have hmeets := ih hrest
        rw [Nat.add_assoc, Nat.add_comm 1, ← List.length_cons] at hmeets
        exact hmeets.behind (first :: more) [_]
      · exact .inside List.mem_cons_self (List.nil_append _).symm rfl rfl

/-- A line that is no blank line and no comment begins a logical line where the cut begins. -/
theorem Cut.exists_first {after : List (List Char)} (h : Cut n (line :: after) blocks)
    (hline : isSkipped (Text.trim line) = false) :
    ∃ b others, blocks = b :: others ∧ b.number = n ∧ b.head = Text.trim line := by
  obtain ⟨hskip, -⟩ | ⟨-, others, -, rfl⟩ | ⟨-, -, more, rest, text, others, -, -, -, rfl⟩ :=
    h.cases_on_line
  · rw [hline] at hskip
    cases hskip
  · exact ⟨_, others, rfl, rfl, rfl⟩
  · exact ⟨_, others, rfl, rfl, rfl⟩

/-! ### How far logical lines reach -/

theorem Cut.isRun_iff {b : Block} (h : Cut 1 lines blocks) (hb : b ∈ blocks) :
    b.more <+: lines.drop b.number ∧ (isHeader b.head = true → b.more = []) ∧
      (isHeader b.head = false → (IsRun b.head b.more (lines.drop (b.number + b.more.length)) ↔
        ¬ Overruns b.head (lines.drop b.number))) := by
  obtain ⟨before, first, rest, rfl, hnumber, -, hkind⟩ := h.place hb
  have hdrop : (before ++ first :: (b.more ++ rest)).drop b.number = b.more ++ rest := by
    rw [hnumber, Nat.add_comm, ← List.drop_drop, List.drop_left]
    rfl
  rw [← List.drop_drop, hdrop, List.drop_left]
  refine ⟨List.prefix_append _ _, ?_, ?_⟩
  · intro hheader
    obtain ⟨-, hmore⟩ | ⟨-, hentry, -⟩ := hkind
    · exact hmore
    · rw [hentry] at hheader
      cases hheader
  · intro hentry
    obtain ⟨hheader, -⟩ | ⟨hne, -, hjoins⟩ := hkind
    · rw [hentry] at hheader
      cases hheader
    · exact hjoins.isRun_iff hne List.suffix_rfl

theorem IsRun.continued {inner others : List (List Char)}
    (h : IsRun own (inner ++ line :: others) rest) :
    isContinued own = true ∧ ∀ prev ∈ inner, isContinued (Text.trimStart prev) = true := by
  induction inner generalizing own with
  | nil => exact ⟨(isRun_cons.1 h).1, by simp⟩
  | cons first inner ih =>
    obtain ⟨hown, hrest⟩ := isRun_cons.1 h
    obtain ⟨hfirst, hinner⟩ := ih hrest
    exact ⟨hown, List.forall_mem_cons.2 ⟨hfirst, hinner⟩⟩

theorem isContinued_trim (h : isContinued (Text.trimStart line) = true) :
    isContinued (Text.trim line) = true := by
  rw [Text.trim_eq_trimStart]
  · exact h
  · intro c hc
    rw [isContinued, beq_iff_eq, hc] at h
    cases h
    decide

/-- Behind a line that does not end in a backslash the cut begins anew, if there are no overruns. -/
theorem Cut.resumes {before after : List (List Char)} {prev : List Char}
    (h : Cut 1 (before ++ prev :: line :: after) blocks)
    (hruns : ∀ b ∈ blocks, isHeader b.head = false →
      ¬ Overruns b.head ((before ++ prev :: line :: after).drop b.number))
    (hprev : isContinued (Text.trim prev) = false) :
    ∃ front back, blocks = front ++ back ∧ Cut (before.length + 2) (line :: after) back := by
  have hlines : before ++ prev :: line :: after = (before ++ [prev]) ++ line :: after := by simp
  cases h.meets hlines with
  | @anew front back hblocks hcut =>
    refine ⟨front, back, hblocks, ?_⟩
    convert hcut using 1
    rw [List.length_append, List.length_singleton]
    omega
  | @inside b outer inner others first hb heq hhead hmore =>
    -- the line would be taken in, but the line before it has ended the run
    obtain ⟨-, hheader, hrun⟩ := h.isRun_iff hb
    have hentry : isHeader b.head = false := by
      cases hkind : isHeader b.head with
      | false => rfl
      | true => simp [hheader hkind] at hmore
    have hisRun := (hrun hentry).2 (hruns b hb hentry)
    rw [hmore] at hisRun
    obtain ⟨hfirst, hinner⟩ := hisRun.continued
    have hcontinued : isContinued (Text.trim prev) = true := by
      rcases List.eq_nil_or_concat inner with rfl | ⟨inner, last, rfl⟩
      · obtain ⟨-, hprev⟩ := List.append_inj' heq rfl
        cases hprev
        rwa [hhead] at hfirst
      · rw [List.concat_eq_append, ← List.cons_append, ← List.append_assoc] at heq
        obtain ⟨-, hprev⟩ := List.append_inj' heq rfl
        cases hprev
        exact isContinued_trim (hinner prev (by simp))
    rw [hprev] at hcontinued
    cases hcontinued

/-! ### What logical lines keep -/

/-- The physical line with this number begins a logical line of its own. If the file is accepted, the
line is read, and its key is kept if it assigns one in the default section. -/
def IsKept (text : String) (blocks : List Block) (number : Nat) (line : List Char) : Prop :=
  ∃ front b back, blocks = front ++ b :: back ∧ b.number = number ∧ b.head = Text.trim line ∧
    ∀ m, defaultSection text = .ok m → ∃ before s,
      List.Forall₂ Says (front.map Block.toLogicalLine) before ∧ Says b.toLogicalLine s ∧
      ∀ key value, s = .assign key value → InDefault before → key ∈ m.keys

theorem Cut.isKept {text : String} {front back : List Block} {b : Block}
    (h : Cut 1 (Text.lines text.toList) (front ++ b :: back)) (hhead : b.head = Text.trim line) :
    IsKept text (front ++ b :: back) b.number line := by
  refine ⟨front, b, back, rfl, rfl, hhead, fun m hm => ?_⟩
  rw [defaultSection, logicalLines, h.group_eq] at hm
  obtain ⟨ss, hss, rfl⟩ := exists_of_collect_eq_ok hm
  rw [List.map_append, List.map_cons] at hss
  have hfront := List.forall₂_take_append ss _ _ hss.flip
  have hback := List.forall₂_drop_append ss _ _ hss.flip
  cases hdrop : ss.drop (front.map Block.toLogicalLine).length with
  | nil =>
    rw [hdrop] at hback
    cases hback
  | cons s after =>
    rw [hdrop] at hback
    obtain ⟨hs, -⟩ := List.forall₂_cons.1 hback
    refine ⟨_, s, hfront.flip, hs, ?_⟩
    rintro key value rfl hdefault
    have hpair := mem_defaultPairs hdefault key value after
    rw [← hdrop, List.take_append_drop] at hpair
    rw [OrderedMap.keys_ofPairs, List.mem_eraseDups]
    exact List.mem_map.2 ⟨_, hpair, rfl⟩

/-- A logical line reaches as far as the texts of its lines say, if and only if there is no overrun;
and without overruns no line is lost that follows one without a backslash at its end. -/
theorem logicalLine_isRun_iff (text : String) :
    ∃ blocks, (∀ bs, Cut 1 (Text.lines text.toList) bs ↔ bs = blocks) ∧
      (∀ b ∈ blocks, b.more <+: (Text.lines text.toList).drop b.number ∧
        (isHeader b.head = true → b.more = []) ∧
        (isHeader b.head = false →
          (IsRun b.head b.more ((Text.lines text.toList).drop (b.number + b.more.length)) ↔
            ¬ Overruns b.head ((Text.lines text.toList).drop b.number)))) ∧
      ((∀ b ∈ blocks, isHeader b.head = false →
          ¬ Overruns b.head ((Text.lines text.toList).drop b.number)) →
        ∀ before prev line after, Text.lines text.toList = before ++ prev :: line :: after →
          isContinued (Text.trim prev) = false → isSkipped (Text.trim line) = false →
          IsKept text blocks (before.length + 2) line) := by
  obtain ⟨blocks, hblocks⟩ := exists_cut_iff 1 (Text.lines text.toList)
  have hcut := (hblocks blocks).2 rfl
  refine ⟨blocks, hblocks, fun b hb => hcut.isRun_iff hb, ?_⟩
  intro hruns before prev line after hlines hprev hline
  rw [hlines] at hruns
  obtain ⟨front, back, rfl, hback⟩ := (hlines ▸ hcut).resumes hruns hprev
  obtain ⟨b, others, rfl, hnumber, hhead⟩ := hback.exists_first hline
  rw [← hnumber]
  exact hcut.isKept hhead

/-- A blank line does not end in a backslash. Behind two backslashes it takes in the assignment that
follows it, whose key is lost. -/
theorem overrun_loses_assignment :
    let text := "a=1\\\\\n\nb=2\n"
    let b : Block := ⟨⟨1, "a=1\\\\".toList, "a=1b=2".toList⟩, [[], "b=2".toList]⟩
    Cut 1 (Text.lines text.toList) [b] ∧ ¬ IsRun b.head b.more [] ∧
      (defaultSection text).map (·.entries) = .ok [("a", "1b=2")] := by
  intro text b
  have hlines : Text.lines text.toList = ["a=1\\\\".toList, [], "b=2".toList] := by decide +kernel
  have hlast : Joins "a=1b=2".toList [] [] b.text := .closed (by decide)
  have hblank : Joins ("a=1".toList ++ ['\\']) ["b=2".toList] [] b.text := .onward hlast
  have hfirst : Joins (Text.trim "a=1\\\\".toList) b.more [] b.text :=
    (.onward hblank : Joins ("a=1\\".toList ++ ['\\']) b.more [] b.text)
  refine ⟨?_, ?_, by decide +kernel⟩
  · rw [hlines]
    exact .entry ⟨'a', by decide, by decide⟩ hfirst .nil
  · intro hrun
    exact absurd hrun.goesOn (by decide)

end ServiceAtlas.Properties
