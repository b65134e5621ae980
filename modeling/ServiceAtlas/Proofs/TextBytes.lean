import Mathlib.Data.String.Basic

/-!
The bytes of texts. A character with a higher number has higher bytes (`Text.utf8EncodeChar_append_lt`),
so that texts are ordered by their characters as by their bytes (`Text.bytes_lt_bytes`).
-/

namespace ServiceAtlas.Text

/-- The bytes of a text in UTF-8. -/
def bytes (s : String) : List UInt8 := s.toUTF8.data.toList

theorem bytes_eq_flatMap (s : String) : bytes s = s.toList.flatMap String.utf8EncodeChar := by
  have hbytes : (String.ofList s.toList).toByteArray =
      (s.toList.flatMap String.utf8EncodeChar).toByteArray := rfl
  rw [String.ofList_toList] at hbytes
  rw [bytes, String.toUTF8_eq_toByteArray, hbytes]
  exact List.toList_data_toByteArray

theorem ofNat_lt_ofNat {m n : Nat} (hm : m < 256) (hn : n < 256) :
    UInt8.ofNat m < UInt8.ofNat n ↔ m < n := by
  rw [UInt8.lt_iff_toNat_lt, UInt8.toNat_ofNat_of_lt' hm, UInt8.toNat_ofNat_of_lt' hn]

theorem ofNat_eq_ofNat {m n : Nat} (hm : m < 256) (hn : n < 256) :
    UInt8.ofNat m = UInt8.ofNat n ↔ m = n := by
  rw [← UInt8.toNat_inj, UInt8.toNat_ofNat_of_lt' hm, UInt8.toNat_ofNat_of_lt' hn]

theorem toNat_lt (c : Char) : c.val.toNat < 0x110000 := by
  rcases c.valid with h | ⟨-, h⟩
  · exact Nat.lt_trans h (by decide)
  · exact h

/-- Of two numbers the lower one has the lower front, or the same front and less behind it. -/
theorem div_lt_or_mod_lt {m n : Nat} (h : m < n) :
    m / 64 < n / 64 ∨ m / 64 = n / 64 ∧ m % 64 < n % 64 := by
  omega

/-- The groups of six bits, from the highest. -/
theorem groups_lt {v w : Nat} (h : v < w) (hbound : w < 0x110000) :
    v / 262144 % 8 < w / 262144 % 8 ∨ v / 262144 % 8 = w / 262144 % 8 ∧
      (v / 4096 % 64 < w / 4096 % 64 ∨ v / 4096 % 64 = w / 4096 % 64 ∧
        (v / 64 % 64 < w / 64 % 64 ∨ v / 64 % 64 = w / 64 % 64 ∧ v % 64 < w % 64)) := by
  have hv : v / 262144 % 8 = v / 64 / 64 / 64 := by omega
  have hw : w / 262144 % 8 = w / 64 / 64 / 64 := by omega
  have hv' : v / 4096 = v / 64 / 64 := by omega
  have hw' : w / 4096 = w / 64 / 64 := by omega
  rw [hv, hw, hv', hw']
  rcases div_lt_or_mod_lt h with h₁ | ⟨h₁, hmod⟩
  · rcases div_lt_or_mod_lt h₁ with h₂ | ⟨h₂, hmod⟩
    · rcases div_lt_or_mod_lt h₂ with h₃ | ⟨h₃, hmod⟩
      · exact .inl h₃
      · exact .inr ⟨h₃, .inl hmod⟩
    · exact .inr ⟨by rw [h₂], .inr ⟨by rw [h₂], .inl hmod⟩⟩
  · exact .inr ⟨by rw [h₁], .inr ⟨by rw [h₁], .inr ⟨by rw [h₁], hmod⟩⟩⟩

/-- The first byte in which two characters differ is lower in the lower character. -/
theorem utf8EncodeChar_append_lt {c d : Char} (h : c < d) (xs ys : List UInt8) :
    String.utf8EncodeChar c ++ xs < String.utf8EncodeChar d ++ ys := by
  have hlt : c.val.toNat < d.val.toNat := h
  have hbound := toNat_lt d
  have hgroups := groups_lt hlt hbound
  unfold String.utf8EncodeChar
  generalize c.val.toNat = v at *
  generalize d.val.toNat = w at *
  dsimp only
  -- with the same number of bytes these are the groups of six bits; if not, the first ones differ
  split_ifs <;>
    simp (disch := omega) only [List.cons_append, List.nil_append, List.cons_lt_cons_iff,
      ofNat_lt_ofNat, ofNat_eq_ofNat] <;>
    omega

theorem flatMap_utf8EncodeChar_lt {cs ds : List Char} (h : cs < ds) :
    cs.flatMap String.utf8EncodeChar < ds.flatMap String.utf8EncodeChar := by
  induction h with
  | nil =>
    rename_i d ds
    obtain ⟨b, bs, hbytes⟩ := List.exists_cons_of_ne_nil (String.utf8EncodeChar_ne_nil (c := d))
    rw [List.flatMap_nil, List.flatMap_cons, hbytes]
    exact List.nil_lt_cons _ _
  | cons _ ih =>
    rw [List.flatMap_cons, List.flatMap_cons]
    exact List.append_left_lt ih
  | rel h =>
    rw [List.flatMap_cons, List.flatMap_cons]
    exact utf8EncodeChar_append_lt h _ _

/-- The bytes of texts are ordered as the texts are. -/
theorem bytes_lt_bytes {s t : String} (h : s < t) : bytes s < bytes t := by
  rw [bytes_eq_flatMap, bytes_eq_flatMap]
  exact flatMap_utf8EncodeChar_lt (String.lt_iff_toList_lt.1 h)

end ServiceAtlas.Text
