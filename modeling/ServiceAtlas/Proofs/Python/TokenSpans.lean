import ServiceAtlas.Proofs.Python.TokenReading
import ServiceAtlas.Proofs.RuleInversion
import Mathlib.Data.List.Forall2

/-!
The text that a token was read from. Words, signs and numbers are the characters up to where reading
goes on. Where blanks have been passed none are left (`settled_of_fetch`), so that passing them once
more leads nowhere (`fetch_of_settled`). What is written with commas between can be told item by item
(`CommaList`).
-/

namespace ServiceAtlas.Python

open Rule (Spans Runs)
open Cursor

/-! ### Characters taken -/

section Take

variable {α : Type} {scan : List Char → Option (α × Nat)} {p : PythonRule α} {a : α} {c c' : Cursor}

theorem spans_take_iff :
    (take scan).Spans c a c' ↔ ∃ n, scan c.rest = some (a, n) ∧ c' = c.advance n := by
  constructor
  · rintro ⟨ds, h⟩
    simp only [Rule.Reads, take] at h
    split at h
    · cases h
    · rename_i b n hscan
      cases h
      exact ⟨n, hscan, rfl⟩
  · rintro ⟨n, hscan, rfl⟩
    exact ⟨[], by simp [Rule.Reads, take, hscan]⟩

theorem rest_advance (c : Cursor) (n : Nat) : (c.advance n).rest = c.rest.drop n := rfl

theorem Cursor.advance_suffix (c : Cursor) (n : Nat) : (c.advance n).rest <:+ c.rest :=
  List.drop_suffix n c.rest

theorem textUpTo_append (h : c'.rest <:+ c.rest) : (c.textUpTo c').toList ++ c'.rest = c.rest := by
  obtain ⟨text, htext⟩ := h
  simp [textUpTo, ← htext]

theorem spans_withText_iff {text : String} :
    (withText p).Spans c (a, text) c' ↔ p.Spans c a c' ∧ text = c.textUpTo c' := by
  simp only [withText, Rule.spans_bind_iff, Rule.spans_place_iff, Rule.spans_pure_iff, Prod.mk.injEq]
  grind

theorem spans_setFormat_iff {format : Bool} {u : Unit} :
    (setFormat format).Spans c u c' ↔ c' = { c with format } := by
  constructor
  · rintro ⟨ds, h⟩
    cases h
    rfl
  · rintro rfl
    exact ⟨[], rfl⟩

theorem isPrefix_wordAt (cs : List Char) : wordAt cs <+: cs := by
  cases cs with
  | nil => exact List.prefix_refl []
  | cons c cs =>
    rw [wordAt]
    split
    · exact List.cons_prefix_cons.2 ⟨rfl, List.takeWhile_prefix _⟩
    · exact List.nil_prefix

theorem wordExcept_eq {ws : List String} {w : String} (h : (wordExcept ws).Spans c w c') :
    w = String.ofList (wordAt c.rest) ∧ w ≠ "" ∧ w ∉ ws ∧
      c'.rest = c.rest.drop (wordAt c.rest).length := by
  have hword : AtWord (fun w => w ≠ "" ∧ w ∉ ws) c := h.needed (needs_wordExcept ws)
  obtain ⟨n, hscan, rfl⟩ := spans_take_iff.1 h
  simp only at hscan
  split at hscan
  · cases hscan
  · obtain ⟨rfl, rfl⟩ := Prod.mk.inj (Option.some.inj hscan)
    exact ⟨rfl, hword.1, hword.2, rfl⟩

theorem text_of_wordIn {ws : List String} {w : String} (h : (wordIn ws).Spans c w c') :
    w.toList ++ c'.rest = c.rest := by
  obtain ⟨n, hscan, rfl⟩ := spans_take_iff.1 h
  simp only at hscan
  split at hscan
  · obtain ⟨rfl, rfl⟩ := Prod.mk.inj (Option.some.inj hscan)
    rw [String.toList_ofList, rest_advance]
    exact List.prefix_iff_eq_append.1 (isPrefix_wordAt c.rest)
  · cases hscan

theorem text_of_number {w : String} (h : number.Spans c w c') : w.toList ++ c'.rest = c.rest := by
  obtain ⟨n, hscan, rfl⟩ := spans_take_iff.1 h
  split at hscan
  · obtain ⟨rfl, rfl⟩ := Prod.mk.inj (Option.some.inj hscan)
    rw [String.toList_ofList, rest_advance, List.take_append_drop]
  · cases hscan

end Take

/-! ### Signs -/

section Signs

variable {ss ts : List String} {s w : String} {c c' : Cursor} {u : Unit}

theorem spans_signIn_iff :
    (signIn ss).Spans c s c' ↔ s ∈ ss ∧ signAt? c.rest = some s ∧ c' = c.advance s.length := by
  rw [signIn, spans_take_iff]
  cases hat : signAt? c.rest with
  | none => simp
  | some t =>
    by_cases ht : t ∈ ss
    · simp only [List.contains_iff_mem, ht, if_true]
      grind
    · simp only [List.contains_iff_mem, ht, if_false]
      grind

theorem spans_sign_iff :
    (sign s).Spans c u c' ↔ signAt? c.rest = some s ∧ c' = c.advance s.length := by
  simp only [sign, Rule.spans_skip_iff, spans_signIn_iff, List.mem_singleton]
  grind

theorem isPrefix_of_atSign (h : AtSign ss c) : ∃ s ∈ ss, s ∈ signs ∧ s.toList <+: c.rest := by
  obtain ⟨s, hs, hat⟩ := h
  rw [signAt?] at hat
  exact ⟨s, hs, List.mem_of_find?_eq_some hat, by simpa using List.find?_some hat⟩

/-- No sign begins as a word does. -/
theorem not_atSign_of_word (h : word.Spans c w c') : ¬ AtSign ss c := by
  obtain ⟨rfl, hne, -, -⟩ := wordExcept_eq h
  intro hsign
  obtain ⟨s, -, hs, rest, hrest⟩ := isPrefix_of_atSign hsign
  have hheads := List.all_eq_true.1
    (by decide : signs.all (fun s => s.toList.head?.any (!isWordStart ·)) = true)
  have hhead := hheads s hs
  cases htext : s.toList with
  | nil => simp [htext] at hhead
  | cons x xs =>
    have hx : isWordStart x = false := by simpa [htext] using hhead
    rw [← hrest, htext] at hne
    simp [wordAt, hx] at hne

theorem Cursor.AtSign.shared (h : AtSign ss c) (h' : AtSign ts c) : ∃ s ∈ ss, s ∈ ts := by
  obtain ⟨s, hs, hat⟩ := h
  obtain ⟨t, ht, hat'⟩ := h'
  obtain rfl : s = t := Option.some.inj (hat ▸ hat')
  exact ⟨s, hs, ht⟩

end Signs

/-! ### Blanks passed -/

/-- No blank, comment or line continuation stands next. -/
def Settled (cs : List Char) : Prop :=
  (∀ c ∈ cs.head?, isGap c = false) ∧ comment cs = 0 ∧ continuation cs = 0

section Fetch

variable {e : Expect} {levels : List Nat} {format : Bool} {cs : List Char} {n : Nat} {c c' : Cursor}
  {u : Unit}

theorem drop_blanks (cs : List Char) : cs.drop (cs.takeWhile isGap).length = cs.dropWhile isGap := by
  have hdrop := @List.drop_left _ (cs.takeWhile isGap) (cs.dropWhile isGap)
  rwa [List.takeWhile_append_dropWhile] at hdrop

theorem settled_of_ahead (h : ahead e levels format cs = .token n) : Settled (cs.drop n) := by
  fun_induction ahead e levels format cs generalizing n with
  | case1 => cases h
  | case2 =>
    rename_i cs _ blanks rest more hmore
    cases h
    rw [drop_blanks]
    obtain ⟨hcomment, hcontinuation⟩ := Nat.add_eq_zero_iff.1 hmore
    refine ⟨fun c hc => ?_, hcomment, hcontinuation⟩
    have hhead := List.head?_dropWhile_not isGap cs
    rw [Option.mem_def.1 hc] at hhead
    exact by simpa using hhead
  | case3 => cases h
  | case4 =>
    rename_i cs _ blanks rest more _ k hrest ih
    cases h
    rw [← List.drop_drop, ← List.drop_drop, drop_blanks]
    exact ih hrest

theorem ahead_of_settled (hcs : Settled cs) (h : ahead e levels format cs = .token n) : n = 0 := by
  obtain ⟨hgap, hcomment, hcontinuation⟩ := hcs
  have hblanks : cs.takeWhile isGap = [] ∧ cs.dropWhile isGap = cs := by
    cases cs with
    | nil => exact ⟨rfl, rfl⟩
    | cons c cs => simp [hgap c rfl]
  rw [ahead] at h
  split at h
  · cases h
  · simp only [hblanks, hcomment, hcontinuation, List.length_nil, Nat.add_zero, if_true] at h
    cases h
    rfl

/-- Whatever is expected, the same blanks are passed. -/
theorem ahead_unique {e' : Expect} {n' : Nat} (h : ahead e levels format cs = .token n)
    (h' : ahead e' levels format cs = .token n') : n = n' := by
  fun_induction ahead e levels format cs generalizing n n' with
  | case1 => cases h
  | case2 =>
    rename_i hmore
    rw [ahead] at h'
    split at h'
    · cases h'
    · simp only at h'
      rw [if_pos hmore] at h'
      cases h
      cases h'
      rfl
  | case3 => cases h
  | case4 =>
    rename_i hmore k hrest ih
    rw [ahead] at h'
    split at h'
    · cases h'
    · simp only at h'
      rw [if_neg hmore] at h'
      split at h'
      · cases h'
      · rename_i k' hrest'
        cases h
        cases h'
        rw [ih hrest hrest']

theorem spans_lineSplit_iff {split : Bool} :
    (lineSplit e).Spans c split c' ↔ split = splitsLine e c.rest ∧ c' = c := by
  simp only [lineSplit, Rule.spans_bind_iff, Rule.spans_place_iff, Rule.spans_pure_iff]
  grind

theorem spans_fetch_iff :
    (fetch e).Spans c u c' ↔ ∃ n, c.ahead e = .token n ∧ c' = c.advance n := by
  constructor
  · rintro ⟨ds, h⟩
    simp only [Rule.Reads, fetch] at h
    split at h
    · cases h
    · rename_i n hahead
      cases h
      exact ⟨n, hahead, rfl⟩
  · rintro ⟨n, hahead, rfl⟩
    exact ⟨[], by simp [Rule.Reads, fetch, hahead]⟩

theorem settled_of_fetch (h : (fetch e).Spans c u c') : Settled c'.rest := by
  obtain ⟨n, hahead, rfl⟩ := spans_fetch_iff.1 h
  exact settled_of_ahead hahead

theorem fetch_of_settled (hc : Settled c.rest) (h : (fetch e).Spans c u c') : c' = c := by
  obtain ⟨n, hahead, rfl⟩ := spans_fetch_iff.1 h
  obtain rfl := ahead_of_settled hc hahead
  simp [advance, Text.newlines]

theorem fetch_unique {e' : Expect} {c₁ : Cursor} {u' : Unit} (h : (fetch e).Spans c u c')
    (h' : (fetch e').Spans c u' c₁) : c' = c₁ := by
  obtain ⟨n, hahead, rfl⟩ := spans_fetch_iff.1 h
  obtain ⟨n', hahead', rfl⟩ := spans_fetch_iff.1 h'
  rw [ahead_unique hahead hahead']

end Fetch

/-! ### Items with commas between them -/

/-- From `c`, behind the bracket or comma before the first of them, to `c'` things are written in the
forms, with commas between them. With each form goes whether the line is split between it and the thing
before it, be it before the comma (`split`) or behind the comma, where `e` is expected. -/
inductive CommaList {φ : Type} (writes : Cursor → φ → Cursor → Prop) (e : Expect) :
    Bool → Cursor → List (Bool × φ) → Cursor → Prop
  | one {split : Bool} {form : φ} {c c₁ c' : Cursor} (blanks : (fetch e).Spans c () c₁)
      (single : writes c₁ form c') : CommaList writes e split c [(split || splitsLine e c.rest, form)] c'
  | cons {split : Bool} {form : φ} {items : List (Bool × φ)} {c c₁ c₂ c₃ c' : Cursor}
      (blanks : (fetch e).Spans c () c₁) (first : writes c₁ form c₂)
      (comma : (Grammar.mark Follow.bracket.after ",").Spans c₂ () c₃)
      (others : CommaList writes e (splitsLine Follow.bracket.after c₂.rest) c₃ items c') :
      CommaList writes e split c ((split || splitsLine e c.rest, form) :: items) c'

/-- If each item is written in a form, then so are the items that are read between commas. -/
theorem exists_commaList {α φ : Type} {item : PythonRule α} {writes : Cursor → φ → Cursor → Prop}
    {e : Expect} {keeps : α → φ → Prop}
    (hitem : ∀ {c a c'}, Settled c.rest → item.Spans c a c' → ∃ form, writes c form c' ∧ keeps a form)
    (split : Bool) {a : α} {as : List (Bool × α)} {c c₁ c₂ c' : Cursor}
    (hblanks : (fetch e).Spans c () c₁) (hfirst : item.Spans c₁ a c₂)
    (hothers : Runs (do
      let before ← lineSplit Follow.bracket.after
      Grammar.mark Follow.bracket.after ","
      let behind ← lineSplit e
      fetch e
      return (before || behind, ← item)) c₂ as c') :
    ∃ items, CommaList writes e split c items c' ∧ List.Forall₂ (fun a form => a.1 = form.1 ∧
      keeps a.2 form.2) ((split || splitsLine e c.rest, a) :: as) items := by
  induction hothers generalizing split c c₁ a with
  | nil c₂ =>
    obtain ⟨form, hform, hkeeps⟩ := hitem (settled_of_fetch hblanks) hfirst
    exact ⟨_, .one hblanks hform, .cons ⟨rfl, hkeeps⟩ .nil⟩
  | cons head moves tail ih =>
    obtain ⟨form, hform, hkeeps⟩ := hitem (settled_of_fetch hblanks) hfirst
    simp only [Rule.spans_bind_iff, spans_lineSplit_iff] at head
    obtain ⟨_, _, ⟨rfl, rfl⟩, _, c₃, hcomma, _, _, ⟨rfl, rfl⟩, _, c₄, hnext, b, c₅, hb, hpure⟩ := head
    obtain ⟨rfl, rfl⟩ := Rule.spans_pure_iff.1 hpure
    obtain ⟨items, hitems, hall⟩ := ih _ hnext hb
    exact ⟨_, .cons hblanks hform hcomma hitems, .cons ⟨rfl, hkeeps⟩ hall⟩

section Unique

variable {φ : Type} {writes : Cursor → φ → Cursor → Prop} {e : Expect} {split : Bool} {c c' : Cursor}

/-- From `c` to `c'` stands the end of a list: perhaps a comma, and the closing bracket. -/
def ListEnds (c c' : Cursor) : Prop := ∃ trailing c₁,
  (Grammar.mark Follow.bracket.after ",").accepts.Spans c trailing c₁ ∧
    (Grammar.mark Follow.bracket.after ")").Spans c₁ () c'

/-- Behind a comma at the end of a list stands the closing bracket. -/
theorem ListEnds.atClose (h : ListEnds c c') {c₁ c₂ : Cursor}
    (hcomma : (Grammar.mark Follow.bracket.after ",").Spans c () c₁)
    (hblanks : (fetch e).Spans c₁ () c₂) : AtSign [")"] c₂ := by
  obtain ⟨trailing, c₃, haccepts, hclosed⟩ := h
  rcases Rule.spans_accepts_iff.1 haccepts with ⟨-, u, hcomma'⟩ | ⟨hfails, -⟩
  · obtain ⟨-, rfl⟩ := hcomma.unique hcomma'
    obtain ⟨_, c₄, hblanks', hbracket⟩ := Rule.spans_bind_iff.1 hclosed
    obtain rfl := fetch_unique hblanks hblanks'
    exact hbracket.needed (needs_sign _)
  · exact absurd hcomma hfails.not_spans

theorem CommaList.head {items : List (Bool × φ)} (h : CommaList writes e split c items c') :
    ∃ form c₁ c₂, (fetch e).Spans c () c₁ ∧ writes c₁ form c₂ := by
  cases h with
  | one blanks single => exact ⟨_, _, _, blanks, single⟩
  | cons blanks first _ _ => exact ⟨_, _, _, blanks, first⟩

/-- Items that can be told apart are listed in one way. -/
theorem CommaList.unique {items items' : List (Bool × φ)} {c₁ c₂ c₁' : Cursor}
    (h : CommaList writes e split c items c₁) (h' : CommaList writes e split c items' c₁')
    (hend : ListEnds c₁ c₂) (hend' : ListEnds c₁' c')
    (hunique : ∀ {c form form' c₁ c₂}, writes c form c₁ → writes c form' c₂ → form = form' ∧ c₁ = c₂)
    (hopens : ∀ {c form c'}, writes c form c' → ¬ AtSign [")"] c) : items = items' := by
  induction h generalizing items' with
  | one blanks single =>
    cases h' with
    | one blanks' single' =>
      obtain ⟨-, rfl⟩ := blanks.unique blanks'
      rw [(hunique single single').1]
    | cons blanks' first comma others =>
      obtain ⟨-, rfl⟩ := blanks.unique blanks'
      obtain ⟨rfl, rfl⟩ := hunique single first
      obtain ⟨form, c₄, c₅, hblanks, hform⟩ := others.head
      exact absurd (hend.atClose comma hblanks) (hopens hform)
  | cons blanks first comma others ih =>
    cases h' with
    | one blanks' single' =>
      obtain ⟨-, rfl⟩ := blanks.unique blanks'
      obtain ⟨rfl, rfl⟩ := hunique first single'
      obtain ⟨form, c₄, c₅, hblanks, hform⟩ := others.head
      exact absurd (hend'.atClose comma hblanks) (hopens hform)
    | cons blanks' first' comma' others' =>
      obtain ⟨-, rfl⟩ := blanks.unique blanks'
      obtain ⟨rfl, rfl⟩ := hunique first first'
      obtain ⟨-, rfl⟩ := comma.unique comma'
      rw [ih others' hend]

end Unique

end ServiceAtlas.Python
