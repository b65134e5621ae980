import ServiceAtlas.Java.Token
import ServiceAtlas.Text.Basic
import Mathlib.Data.List.Infix

/-!
The tokens of any Java source spell it: what is in front of each token, its text and what follows the
last one are the characters of the source in their order (`scan?_spells`). The functions that collect
what they take do so without loss, and the ones that only say what is left leave an end of the text.
-/

namespace ServiceAtlas

/-! ### What is left of a text -/

namespace Text

/-- What is left, if anything matches, is an end of the text. -/
def LeavesEnd (cs : List Char) (o : Option (List Char)) : Prop := ∀ r ∈ o, r <:+ cs

namespace LeavesEnd

variable {cs : List Char} {o : Option (List Char)} {f : List Char → Option (List Char)}

theorem none : LeavesEnd cs none := by
  intro r hr
  cases hr

theorem some {r : List Char} (h : r <:+ cs) : LeavesEnd cs (some r) := by
  intro r' hr'
  cases hr'
  exact h

theorem bind (h : LeavesEnd cs o) (hf : ∀ ds, LeavesEnd ds (f ds)) : LeavesEnd cs (o >>= f) := by
  intro r hr
  obtain ⟨ds, hds, hr⟩ := Option.bind_eq_some_iff.1 hr
  exact (hf ds r hr).trans (h ds hds)

theorem map {g : List Char → List Char} (h : LeavesEnd cs o) (hg : ∀ ds, g ds <:+ ds) :
    LeavesEnd cs (o.map g) := by
  intro r hr
  obtain ⟨ds, hds, rfl⟩ := Option.map_eq_some_iff.1 hr
  exact (hg ds).trans (h ds hds)

theorem of_suffix {ds : List Char} (h : LeavesEnd ds o) (hds : ds <:+ cs) : LeavesEnd cs o :=
  fun r hr => (h r hr).trans hds

theorem getD (h : LeavesEnd cs o) : o.getD cs <:+ cs := by
  cases o with
  | none => exact List.suffix_rfl
  | some r => exact h r rfl

end LeavesEnd

theorem leavesEnd_afterOne? (p : Char → Bool) (cs : List Char) :
    LeavesEnd cs (afterOne? p cs) := by
  cases cs with
  | nil => exact .none
  | cons c cs =>
    rw [afterOne?]
    split
    · exact .some (List.suffix_cons c cs)
    · exact .none

theorem skipOne_suffix (p : Char → Bool) (cs : List Char) : skipOne p cs <:+ cs :=
  (leavesEnd_afterOne? p cs).getD

theorem leavesEnd_longestMatch {cs : List Char} {os : List (Option (List Char))}
    (h : ∀ o ∈ os, LeavesEnd cs o) : LeavesEnd cs (longestMatch os) := by
  rw [longestMatch]
  suffices hfold : ∀ best, LeavesEnd cs best → LeavesEnd cs (os.foldl _ best) from hfold _ .none
  intro best hbest
  induction os generalizing best with
  | nil => exact hbest
  | cons o os ih =>
    have ho := h o List.mem_cons_self
    refine ih (fun o' ho' => h o' (List.mem_cons_of_mem o ho')) _ ?_
    cases best with
    | none => exact ho
    | some a =>
      cases o with
      | none => exact hbest
      | some b =>
        show LeavesEnd cs (if b.length < a.length then some b else some a)
        split
        · exact ho
        · exact hbest

end Text

namespace Java

open Text

/-! ### Functions that collect what they take, last character first -/

theorem blockComment?_spells {taken cs t r : List Char} (h : blockComment? taken cs = some (t, r)) :
    t.reverse ++ r = taken.reverse ++ cs := by
  fun_induction blockComment? taken cs with
  | case1 taken rest =>
    cases h
    simp
  | case2 taken c rest _ ih =>
    rw [ih h]
    simp
  | case3 => cases h

theorem skipBlanks?_spells {taken cs t r : List Char} (h : skipBlanks? taken cs = some (t, r)) :
    t.reverse ++ r = taken.reverse ++ cs := by
  fun_induction skipBlanks? taken cs with
  | case1 taken rest ih =>
    rw [ih h]
    simp
  | case2 taken rest taken' rest' hcomment ih =>
    rw [ih h, blockComment?_spells hcomment]
    simp
  | case3 => cases h
  | case4 taken c rest _ _ hblank ih =>
    rw [ih h]
    simp
  | case5 taken c rest _ _ hblank =>
    cases h
    rfl
  | case6 taken =>
    cases h
    rfl

theorem characterTail?_spells {filled : Bool} {taken cs t r : List Char}
    (h : characterTail? filled taken cs = some (t, r)) : t.reverse ++ r = taken.reverse ++ cs := by
  fun_induction characterTail? filled taken cs with
  | case1 filled taken c cs ih =>
    rw [ih h]
    simp
  | case2 taken cs =>
    cases h
    simp
  | case5 filled taken c cs _ _ _ ih =>
    rw [ih h]
    simp
  | _ => cases h

theorem stringPiece?_spells {taken cs t r : List Char} {e : PieceEnd}
    (h : stringPiece? taken cs = some (e, t, r)) : t.reverse ++ r = taken.reverse ++ cs := by
  fun_induction stringPiece? taken cs with
  | case1 taken cs =>
    cases h
    simp
  | case2 taken cs =>
    cases h
    simp
  | case3 taken c cs _ hescape ih =>
    rw [ih h]
    simp
  | case6 taken c cs _ _ _ _ ih =>
    rw [ih h]
    simp
  | _ => cases h

theorem blockPiece?_spells {taken cs t r : List Char} {e : PieceEnd}
    (h : blockPiece? taken cs = some (e, t, r)) : t.reverse ++ r = taken.reverse ++ cs := by
  fun_induction blockPiece? taken cs with
  | case1 taken cs =>
    cases h
    simp
  | case2 taken cs =>
    cases h
    simp
  | case3 taken c cs _ ih =>
    rw [ih h]
    simp
  | case5 taken c cs _ _ _ _ ih =>
    rw [ih h]
    simp
  | _ => cases h

theorem piece?_spells {block : Bool} {taken cs t r : List Char} {e : PieceEnd}
    (h : piece? block taken cs = some (e, t, r)) : t.reverse ++ r = taken.reverse ++ cs := by
  rw [piece?] at h
  split at h
  · exact blockPiece?_spells h
  · exact stringPiece?_spells h

/-! ### Numbers -/

theorem moreGroups_suffix (base : Nat) (cs : List Char) : moreGroups base cs <:+ cs := by
  fun_induction moreGroups base cs with
  | case1 c cs _ ih => exact ih.trans (List.suffix_cons c cs)
  | case2 d ds _ _ ih => exact ih.trans (List.suffix_append ['_', d] ds)
  | _ => exact List.suffix_rfl

theorem leavesEnd_groups? (base : Nat) (cs : List Char) : LeavesEnd cs (groups? base cs) := by
  cases cs with
  | nil => exact .none
  | cons c cs =>
    rw [groups?]
    split
    · exact .some ((moreGroups_suffix base cs).trans (List.suffix_cons c cs))
    · exact .none

theorem looseGroups_suffix {back cs ds : List Char} (inside : Bool) (hback : back <:+ ds)
    (hcs : cs <:+ ds) : looseGroups back inside cs <:+ ds := by
  -- the place to go back to and the place reached are ends of the same text throughout
  fun_induction looseGroups back inside cs with
  | case1 back inside c cs _ ih =>
    have hcs' : cs <:+ ds := (List.suffix_cons c cs).trans hcs
    exact ih hcs' hcs'
  | case2 back inside cs _ ih => exact ih hback ((List.suffix_cons _ cs).trans hcs)
  | case3 | case5 => exact hback
  | case4 | case6 => exact hcs

theorem leavesEnd_decimal? (cs : List Char) : LeavesEnd cs (decimal? cs) := by
  have hloose : ∀ ds, looseGroups ds false ds <:+ ds := fun ds =>
    looseGroups_suffix false List.suffix_rfl List.suffix_rfl
  fun_cases decimal? cs with
  | case1 cs => exact .some (List.suffix_cons _ cs)
  | case2 c _ _ d ds => exact .some ((hloose ds).trans (List.suffix_append [c, '_', d] ds))
  | case3 c | case5 c | case6 c => exact .some (List.suffix_cons c _)
  | case4 c _ _ d ds => exact .some ((hloose ds).trans (List.suffix_append [c, d] ds))
  | case7 | case8 => exact .none

theorem leavesEnd_exponent? (cs : List Char) : LeavesEnd cs (exponent? cs) :=
  (leavesEnd_afterOne? _ cs).bind fun ds =>
    (leavesEnd_groups? 10 (Text.skipOne isSign ds)).of_suffix (skipOne_suffix isSign ds)

theorem leavesEnd_binaryExponent? (cs : List Char) : LeavesEnd cs (binaryExponent? cs) :=
  (leavesEnd_afterOne? _ cs).bind fun ds =>
    ((leavesEnd_groups? 10 (Text.skipOne isSign ds)).of_suffix (skipOne_suffix isSign ds)).bind
      fun es => .some (skipOne_suffix isFloatSuffix es)

theorem leavesEnd_tag? (letters cs : List Char) : LeavesEnd cs (tag? letters cs) := by
  fun_cases tag? letters cs with
  | case1 c cs => exact .some (List.suffix_append ['0', c] cs)
  | case2 | case3 => exact .none

/-- A number leaves an end of the text, in whichever form it is read. -/
theorem leavesEnd_numberForms {cs : List Char} {o : Option (List Char)} (h : o ∈ numberForms cs) :
    LeavesEnd cs o := by
  have hdecimal := leavesEnd_decimal? cs
  have hhex := leavesEnd_tag? ['x', 'X'] cs
  have hdigits := leavesEnd_groups? 10 cs
  have hexponent : ∀ ds, Text.skipOne isFloatSuffix ((exponent? ds).getD ds) <:+ ds := fun ds =>
    (skipOne_suffix _ _).trans (leavesEnd_exponent? ds).getD
  have hbinary : ∀ ds, (binaryExponent? ds).getD ds <:+ ds := fun ds =>
    (leavesEnd_binaryExponent? ds).getD
  simp only [numberForms, List.mem_cons, List.not_mem_nil, or_false] at h
  rcases h with rfl | rfl | rfl | rfl | rfl | rfl | rfl | rfl | rfl | rfl | rfl
  · exact hdecimal.map (skipOne_suffix isLong)
  · exact (hhex.bind (leavesEnd_groups? 16)).map (skipOne_suffix isLong)
  · exact ((leavesEnd_tag? _ cs).bind (leavesEnd_groups? 8)).map (skipOne_suffix isLong)
  · exact ((leavesEnd_afterOne? _ cs).bind (leavesEnd_groups? 8)).map (skipOne_suffix isLong)
  · exact ((leavesEnd_tag? _ cs).bind (leavesEnd_groups? 2)).map (skipOne_suffix isLong)
  · refine hdigits.bind fun ds => (leavesEnd_afterOne? _ ds).bind fun es => ?_
    exact .some ((hexponent _).trans (leavesEnd_groups? 10 es).getD)
  · refine (leavesEnd_afterOne? _ cs).bind fun ds => (leavesEnd_groups? 10 ds).bind fun es => ?_
    exact .some (hexponent es)
  · refine hdecimal.bind fun ds => (leavesEnd_exponent? ds).bind fun es => ?_
    exact .some (skipOne_suffix isFloatSuffix es)
  · refine hdecimal.bind fun ds => ?_
    exact (leavesEnd_afterOne? _ _).of_suffix (leavesEnd_exponent? ds).getD
  · refine (hhex.bind (leavesEnd_groups? 16)).bind fun ds => ?_
    exact .some ((hbinary _).trans (skipOne_suffix _ ds))
  · refine hhex.bind fun ds => ?_
    refine ((leavesEnd_afterOne? _ _).of_suffix (leavesEnd_groups? 16 ds).getD).bind fun es => ?_
    exact (leavesEnd_groups? 16 es).bind fun fs => .some (hbinary fs)

theorem leavesEnd_afterNumber? (cs : List Char) : LeavesEnd cs (afterNumber? cs) :=
  leavesEnd_longestMatch fun _ => leavesEnd_numberForms

/-! ### Tokens -/

theorem sign?_spells {cs rest : List Char} {s : String} (h : sign? cs = some (s, rest)) :
    s.toList ++ rest = cs := by
  revert h
  fun_cases sign? cs with
  | case1 cs s' hfind =>
    rintro ⟨⟩
    have hfront := List.find?_some (p := fun s : String => s.toList.isPrefixOf cs) hfind
    obtain ⟨rest, rfl⟩ := List.isPrefixOf_iff_prefix.1 hfront
    rw [← String.length_toList, List.drop_left]
  | case2 c =>
    rintro ⟨⟩
    rw [String.toList_singleton, List.singleton_append]
  | case3 | case4 => rintro ⟨⟩

namespace Lexeme

/-- The token and what follows it are the text. -/
def Spells (l : Lexeme) (cs : List Char) : Prop := l.text ++ l.rest = cs

theorem spells_pieceLexeme {closed opened : TokenKind} {block : Bool} {holes : List Hole}
    {cs : List Char} {l : Lexeme} {piece : Option (PieceEnd × List Char × List Char)}
    (hpiece : ∀ {e t r}, piece = some (e, t, r) → t.reverse ++ r = cs)
    (h : pieceLexeme closed opened block holes piece = some l) : l.Spells cs := by
  fun_cases pieceLexeme closed opened block holes piece with
  | case1 | case2 =>
    cases h
    exact hpiece rfl
  | case3 => cases h

theorem spells_signLexeme? {holes : List Hole} {cs : List Char} {l : Lexeme}
    (h : signLexeme? holes cs = some l) : l.Spells cs := by
  rw [signLexeme?] at h
  split at h
  · rename_i s rest hsign
    cases h
    exact sign?_spells hsign
  · cases h

end Lexeme

theorem lexeme?_spells {holes : List Hole} {cs : List Char} {l : Lexeme}
    (h : lexeme? holes cs = some l) : l.Spells cs := by
  revert h
  fun_cases lexeme? holes cs with
  | case1 => rintro ⟨⟩
  | case2 holes c rest =>
    rintro ⟨⟩
    exact congrArg (c :: ·) List.takeWhile_append_dropWhile
  | case3 holes rest => exact Lexeme.spells_pieceLexeme blockPiece?_spells
  | case4 holes rest => exact Lexeme.spells_pieceLexeme stringPiece?_spells
  | case5 holes rest =>
    intro h
    obtain ⟨⟨taken, after⟩, htail, rfl⟩ := Option.map_eq_some_iff.1 h
    exact characterTail?_spells htail
  | case6 rest block holes => exact Lexeme.spells_pieceLexeme piece?_spells
  | case7 | case8 =>
    rintro ⟨⟩
    rfl
  | case9 holes c rest _ _ _ _ after hafter =>
    rw [hafter]
    rintro ⟨⟩
    -- a number is cut off by its length, which is right because what is left is an end
    obtain ⟨front, hfront⟩ := leavesEnd_afterNumber? (c :: rest) after hafter
    rw [Lexeme.Spells, ← hfront, List.length_append, Nat.add_sub_cancel, List.take_left]
  | case10 holes c rest _ _ _ _ hafter =>
    rw [hafter]
    exact Lexeme.spells_signLexeme?

/-- The tokens, each with what stands in front of it, and what follows the last one spell the text. -/
theorem scan?_spells {holes : List Hole} {cs : List Char} {tokens : List Token} {trail : List Char}
    (h : scan? holes cs = some (tokens, trail)) : tokens.flatMap Token.chars ++ trail = cs := by
  fun_induction scan? holes cs generalizing tokens with
  | case2 holes cs lead hblanks =>
    cases h
    simpa using skipBlanks?_spells hblanks
  | case4 holes cs lead c rest hblanks l hl hlt ih =>
    obtain ⟨⟨tokens', trail'⟩, hscan, heq⟩ := Option.map_eq_some_iff.1 h
    cases heq
    have hrest : tokens'.flatMap Token.chars ++ trail = l.rest := ih hscan
    have htext : l.text ++ l.rest = c :: rest := lexeme?_spells hl
    calc (⟨lead.reverse, l.kind, String.ofList l.text⟩ :: tokens').flatMap Token.chars ++ trail
        = lead.reverse ++ (l.text ++ (tokens'.flatMap Token.chars ++ trail)) := by
          simp [Token.chars]
      _ = lead.reverse ++ c :: rest := by rw [hrest, htext]
      _ = cs := by simpa using skipBlanks?_spells hblanks
  | _ => cases h

/-- The tokens of a source do not have more newlines than the source. -/
theorem newlines_tokens? {cs : List Char} {tokens : List Token} (h : tokens? cs = some tokens) :
    Text.newlines (tokens.flatMap Token.chars) ≤ Text.newlines cs := by
  rw [tokens?] at h
  split at h
  · cases h
  · obtain ⟨⟨tokens', trail⟩, hscan, rfl⟩ := Option.map_eq_some_iff.1 h
    have hpart : tokens'.flatMap Token.chars <+: Text.skipMark cs := ⟨trail, scan?_spells hscan⟩
    have hsub := hpart.sublist.trans (skipOne_suffix _ cs).sublist
    exact hsub.count_le '\n'

end Java

end ServiceAtlas
