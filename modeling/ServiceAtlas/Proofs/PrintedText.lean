import ServiceAtlas.Text.Basic
import ServiceAtlas.Text.Utf8

/-!
Printed texts: lines of printable characters, identifiers, and paths that are written between quotes
as they stand.
-/

namespace ServiceAtlas

/-! ### Characters -/

/-- The ASCII characters of a line. -/
def IsPrintable (c : Char) : Prop := 0x20 ≤ c.toNat ∧ c.toNat ≤ 0x7E

instance (c : Char) : Decidable (IsPrintable c) := inferInstanceAs (Decidable (_ ∧ _))

theorem isAlpha_iff {c : Char} : c.isAlpha = true ↔
    (0x41 ≤ c.toNat ∧ c.toNat ≤ 0x5A) ∨ (0x61 ≤ c.toNat ∧ c.toNat ≤ 0x7A) := by
  delta Char.isAlpha Char.isUpper Char.isLower
  simp [UInt32.le_iff_toNat_le]

theorem ne_of_isAlpha {c d : Char} (hc : c.isAlpha = true) (hd : d.isAlpha = false) : c ≠ d := by
  rintro rfl
  rw [hc] at hd
  cases hd

theorem isDigit_iff {c : Char} : c.isDigit = true ↔ 0x30 ≤ c.toNat ∧ c.toNat ≤ 0x39 := by
  simp [Char.isDigit, UInt32.le_iff_toNat_le]

theorem isPrintable_of_isAlphanum {c : Char} (h : c.isAlphanum = true) : IsPrintable c := by
  rw [Char.isAlphanum, Bool.or_eq_true, isAlpha_iff, isDigit_iff] at h
  exact ⟨by omega, by omega⟩

theorem IsPrintable.isBlank {c : Char} (h : IsPrintable c) (hc : c ≠ ' ') :
    Text.isBlank c = false := by
  have hne : c.toNat ≠ 0x20 := fun heq => hc (Char.toNat_inj.1 heq)
  obtain ⟨hlow, hhigh⟩ := h
  simp [Text.isBlank]
  omega

theorem newlines_of_printable {cs : List Char} (h : ∀ c ∈ cs, IsPrintable c) :
    Text.newlines cs = 0 :=
  List.count_eq_zero.2 fun hmem => absurd (h _ hmem) (by decide)

/-! ### Lines -/

theorem newlines_append (cs ds : List Char) :
    Text.newlines (cs ++ ds) = Text.newlines cs + Text.newlines ds := List.count_append

/-- The text of lines, each of them ended. -/
def textOfLines (ls : List String) : String := String.join (ls.map (· ++ "\n"))

theorem toList_textOfLines (ls : List String) :
    (textOfLines ls).toList = ls.flatMap fun l => l.toList ++ ['\n'] := by
  rw [textOfLines, String.toList_join]
  induction ls with
  | nil => rfl
  | cons l ls ih => simp [ih]

theorem skipMark_of_printable {cs : List Char} (h : ∀ c ∈ cs, c = '\n' ∨ IsPrintable c) :
    Text.skipMark cs = cs := by
  cases cs with
  | nil => rfl
  | cons c cs =>
    have hc : c ≠ '﻿' := by
      rintro rfl
      exact absurd (h _ List.mem_cons_self) (by decide)
    simp [Text.skipMark, Text.skipOne, Text.afterOne?, hc]

theorem SourceText.piece_ofString (text s : String) : (SourceText.ofString text).piece s = s := rfl

/-! ### Identifiers -/

section Identifier

variable (marks : List Char) (reserved : List String)

def isNameStart (c : Char) : Bool := c.isAlpha || marks.contains c

def isNameContinue (c : Char) : Bool := c.isAlphanum || marks.contains c

/-- Letters, digits and marks, of which a digit is not the first. -/
def isWord : List Char → Bool
  | [] => false
  | c :: cs => isNameStart marks c && cs.all (isNameContinue marks)

/-- A word of ASCII characters that is not reserved. -/
structure Identifier where
  text : String
  valid : (isWord marks text.toList && !reserved.contains text) = true

end Identifier

section Words

variable {marks : List Char} {reserved : List String} {w : List Char}

theorem isNameContinue_of_isNameStart {c : Char} (h : isNameStart marks c = true) :
    isNameContinue marks c = true := by
  simp only [isNameStart, isNameContinue, Char.isAlphanum, Bool.or_eq_true] at h ⊢
  exact h.imp_left .inl

theorem isWord_iff : isWord marks w = true ↔
    ∃ c cs, w = c :: cs ∧ isNameStart marks c = true ∧ ∀ d ∈ cs, isNameContinue marks d = true := by
  cases w with
  | nil => simp [isWord]
  | cons c cs =>
    simp only [isWord, Bool.and_eq_true, List.all_eq_true]
    refine ⟨fun h => ⟨c, cs, rfl, h⟩, ?_⟩
    rintro ⟨_, _, heq, h⟩
    cases heq
    exact h

theorem isPrintable_of_isWord (hmarks : marks.all (IsPrintable ·) = true)
    (hw : isWord marks w = true) : ∀ c ∈ w, IsPrintable c := by
  have hname : ∀ c, isNameContinue marks c = true → IsPrintable c := by
    intro c hc
    simp only [isNameContinue, Bool.or_eq_true, List.contains_eq_mem, decide_eq_true_eq] at hc
    rcases hc with hc | hc
    · exact isPrintable_of_isAlphanum hc
    · exact of_decide_eq_true (List.all_eq_true.1 hmarks c hc)
  obtain ⟨c, cs, rfl, hc, hcs⟩ := isWord_iff.1 hw
  intro d hd
  rcases List.mem_cons.1 hd with rfl | hd
  · exact hname d (isNameContinue_of_isNameStart hc)
  · exact hname d (hcs d hd)

variable (i : Identifier marks reserved)

theorem Identifier.isWord : isWord marks i.text.toList = true :=
  (Bool.and_eq_true_iff.1 i.valid).1

/-- No word of the list can be the identifier. -/
theorem Identifier.not_mem {ws : List String} (h : ∀ v ∈ ws, v ∈ reserved) : i.text ∉ ws := by
  have hfree := (Bool.and_eq_true_iff.1 i.valid).2
  simp only [Bool.not_eq_true', List.contains_eq_mem, decide_eq_false_iff_not] at hfree
  exact fun hmem => hfree (h _ hmem)

theorem Identifier.ne_reserved {v : String} (h : v ∈ reserved) : i.text ≠ v := by
  have hmem : i.text ∉ [v] := i.not_mem (by simpa using h)
  simpa using hmem

end Words

/-! ### Paths -/

/-- A printable character that stands for itself between quotes. -/
def isPathChar (c : Char) : Bool := 0x20 ≤ c.toNat && c.toNat ≤ 0x7E && c != '"' && c != '\\'

structure PathText where
  text : String
  valid : text.toList.all isPathChar = true

namespace PathText

def quoted (p : PathText) : String := "\"" ++ p.text ++ "\""

variable (p : PathText)

theorem toList_quoted : p.quoted.toList = '"' :: (p.text.toList ++ ['"']) := by simp [quoted]

theorem isPathChar_of_mem {c : Char} (h : c ∈ p.text.toList) :
    IsPrintable c ∧ c ≠ '"' ∧ c ≠ '\\' := by
  have hc := List.all_eq_true.1 p.valid c h
  simp only [isPathChar, Bool.and_eq_true, decide_eq_true_eq, bne_iff_ne] at hc
  exact ⟨hc.1.1, hc.1.2, hc.2⟩

theorem printable_quoted : ∀ c ∈ p.quoted.toList, IsPrintable c := by
  intro c hc
  rw [toList_quoted, List.mem_cons, List.mem_append, List.mem_singleton] at hc
  rcases hc with rfl | hc | rfl
  · decide
  · exact (p.isPathChar_of_mem hc).1
  · decide

end PathText

end ServiceAtlas
