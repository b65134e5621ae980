/-!
Tables over code points: sets given by ranges, and maps given by shifted ranges.
-/

namespace ServiceAtlas.Text

/-- A set of code points as a list of ranges, both ends included. -/
abbrev CodeRanges := List (Nat × Nat)

def CodeRanges.has (table : CodeRanges) (c : Char) : Bool :=
  table.any fun r => r.1 ≤ c.toNat && c.toNat ≤ r.2

/-- Every `step`-th code point from `first` to `last` moves by `shift`. -/
structure ShiftedRange where
  first : Nat
  last : Nat
  step : Nat
  shift : Int

def ShiftedRange.has (r : ShiftedRange) (n : Nat) : Bool :=
  r.first ≤ n && n ≤ r.last && (n - r.first) % r.step == 0

/-- The image of a character; characters outside the table stay. -/
def moveBy (table : List ShiftedRange) (c : Char) : Char :=
  match table.find? fun r => r.has c.toNat with
  | some r => Char.ofNat (c.toNat + r.shift).toNat
  | none => c

/-- A character that is moved lies in a range and goes to its place in the shifted one, or to NUL if that
place is no character. -/
theorem moveBy_cases (table : List ShiftedRange) (c : Char) :
    moveBy table c = c ∨ ∃ r ∈ table, r.first ≤ c.toNat ∧ c.toNat ≤ r.last ∧
      ((moveBy table c).toNat = (c.toNat + r.shift).toNat ∨ moveBy table c = '\x00') := by
  rw [moveBy]
  split
  · rename_i r hfind
    have hhas := List.find?_some hfind
    simp only [ShiftedRange.has, Bool.and_eq_true, decide_eq_true_eq] at hhas
    refine .inr ⟨r, List.mem_of_find?_eq_some hfind, hhas.1.1, hhas.1.2, ?_⟩
    by_cases hvalid : ((c.toNat : Int) + r.shift).toNat.isValidChar
    · rw [Char.ofNat, dif_pos hvalid]
      exact .inl rfl
    · rw [Char.ofNat, dif_neg hvalid]
      exact .inr rfl
  · exact .inl rfl

end ServiceAtlas.Text
