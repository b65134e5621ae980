import ServiceAtlas.Proofs.CallSiteSearch
import ServiceAtlas.Proofs.PrintedText

/-!
Calls within lines. A verb without newlines stands on one line, and so do the brackets of a call; only
the blanks between the two may reach over the end of a line. So a text can be cut at the end of a line
wherever no opening bracket comes next, and its calls are those of the two parts
(`CallSite.findFrom_append`).
-/

namespace ServiceAtlas

/-! ### The newline and its case -/

theorem Text.fold_newline : Text.fold '\n' = '\n' := rfl

/-- Nothing but a newline is a newline up to case. -/
theorem Text.eq_newline_of_fold_eq {c : Char} (h : Text.fold c = '\n') : c = '\n' := by
  have hbounds : ∀ r ∈ Text.foldShifts, 10 < (r.first : Int) + r.shift := by decide +kernel
  rcases Text.moveBy_cases Text.foldShifts c with hstays | ⟨r, hr, hfirst, -, hcode | hnul⟩
  · exact hstays.symm.trans h
  · -- a character that folding changes goes to one beyond the newline
    have hten : (Text.moveBy Text.foldShifts c).toNat = 10 := congrArg Char.toNat h
    have := hbounds r hr
    omega
  · cases hnul.symm.trans h

/-- A run of characters that ends in the first piece. -/
theorem takeWhile_append_of_mem {p : Char → Bool} {c : Char} {front : List Char} (hmem : c ∈ front)
    (hc : p c = false) (back : List Char) : (front ++ back).takeWhile p = front.takeWhile p := by
  rw [List.takeWhile_append, if_neg]
  intro hlength
  have hall : ∀ d ∈ front, p d = true := by
    rw [← (List.takeWhile_prefix p).eq_of_length hlength]
    exact fun d hd => List.mem_takeWhile_imp hd
  rw [hall c hmem] at hc
  cases hc

namespace CallSite

/-! ### What can be read of a line -/

/-- A piece of text that ends with the end of a line. -/
def EndsLine (text : List Char) : Prop := text.getLast? = some '\n'

theorem EndsLine.of_cons {c : Char} {text : List Char} (h : EndsLine (c :: text)) (hc : c ≠ '\n') :
    EndsLine text := by
  cases text with
  | nil => exact (hc (Option.some.inj h)).elim
  | cons d text => rwa [EndsLine, List.getLast?_cons_cons] at h

theorem EndsLine.of_append (front : List Char) {text : List Char} (h : EndsLine (front ++ text))
    (hne : text ≠ []) : EndsLine text := by
  rw [EndsLine, List.getLast?_append, List.getLast?_eq_some_getLast hne, Option.some_or] at h
  rw [EndsLine, List.getLast?_eq_some_getLast hne, h]

theorem EndsLine.newline_mem {text : List Char} (h : EndsLine text) : '\n' ∈ text :=
  List.mem_of_getLast? h

variable {text after : List Char}

/-- A verb that begins on a line stands on it. -/
theorem afterVerb?_append {verb : List Char} (hverb : '\n' ∉ verb) (htext : EndsLine text)
    (after : List Char) : afterVerb? verb (text ++ after) = (afterVerb? verb text).map (· ++ after) ∧
      ∀ rest ∈ afterVerb? verb text, EndsLine rest := by
  fun_induction afterVerb? verb text with
  | case1 text =>
    refine ⟨rfl, fun rest hrest => ?_⟩
    cases hrest
    exact htext
  | case2 v verb => cases htext
  | case3 v verb c text hfold ih =>
    obtain ⟨hv, hverb⟩ := List.ne_and_not_mem_of_not_mem_cons hverb
    have hc : c ≠ '\n' := by
      rintro rfl
      rw [Text.fold_newline] at hfold
      exact hv (Text.eq_newline_of_fold_eq hfold).symm
    obtain ⟨happend, hends⟩ := ih hverb (htext.of_cons hc)
    refine ⟨?_, hends⟩
    rw [List.cons_append, afterVerb?, if_pos hfold]
    exact happend
  | case4 v verb c text hfold =>
    refine ⟨?_, fun rest hrest => by cases hrest⟩
    rw [List.cons_append, afterVerb?, if_neg hfold]
    rfl

/-- Arguments open on the line, or cannot open behind it. -/
theorem argumentsLength?_append (htext : EndsLine text)
    (hafter : (after.dropWhile Text.isBlank).head? ≠ some '(') :
    argumentsLength? (text ++ after) = argumentsLength? text := by
  rw [argumentsLength?, argumentsLength?, List.dropWhile_append]
  cases hdrop : text.dropWhile Text.isBlank with
  | nil =>
    cases hopen : after.dropWhile Text.isBlank with
    | nil => rfl
    | cons c rest =>
      have hc : c ≠ '(' := fun heq => hafter (by rw [hopen, heq, List.head?_cons])
      simp [hc]
  | cons c rest =>
    have hsplit : text.takeWhile Text.isBlank ++ c :: rest = text := by
      rw [← hdrop, List.takeWhile_append_dropWhile]
    by_cases hc : c = '('
    · subst hc
      have hopen : '(' ∈ text := hsplit ▸ List.mem_append_right _ List.mem_cons_self
      have hrest : EndsLine rest :=
        EndsLine.of_cons (EndsLine.of_append _ (hsplit ▸ htext) (List.cons_ne_nil _ _)) (by decide)
      have hblanks := takeWhile_append_of_mem (p := Text.isBlank) hopen (by decide) after
      have hline := takeWhile_append_of_mem (p := (· != '\n')) hrest.newline_mem (by decide) after
      simp only [List.isEmpty_cons, Bool.false_eq_true, if_false, List.cons_append, hblanks, hline]
    · simp [hc]

/-- What makes a call behind a dot is decided on the line. -/
theorem lengths?_append {verbs : List (List Char)} (hverbs : ∀ verb ∈ verbs, '\n' ∉ verb)
    (htext : EndsLine text) (hafter : (after.dropWhile Text.isBlank).head? ≠ some '(') :
    lengths? (text ++ after) verbs = lengths? text verbs := by
  induction verbs with
  | nil => rfl
  | cons verb verbs ih =>
    obtain ⟨hverb, hverbs⟩ := List.forall_mem_cons.1 hverbs
    obtain ⟨happend, hends⟩ := afterVerb?_append hverb htext after
    have hbind : (afterVerb? verb (text ++ after)).bind argumentsLength? =
        (afterVerb? verb text).bind argumentsLength? := by
      rw [happend]
      cases hrest : afterVerb? verb text with
      | none => rfl
      | some rest => exact argumentsLength?_append (hends rest hrest) hafter
    rw [lengths?, lengths?, hbind, ih hverbs]

/-! ### The search, cut at the end of a line -/

/-- The call as it is found when the text stands behind another. -/
def behind (front : List Char) (call : CallSite) : CallSite :=
  { call with start := call.start + front.length, line := call.line + Text.newlines front }

/-- Where the count of characters and lines begins has no influence on what is found. -/
theorem findFrom_behind (verbs : List (List Char)) (front text : List Char) (start line : Nat) :
    findFrom verbs (start + front.length) (line + Text.newlines front) text =
      (findFrom verbs start line text).map (behind front) := by
  fun_induction findFrom verbs start line text with
  | case1 start line => rw [findFrom, List.map_nil]
  | case2 start line c rest v n hlengths ih =>
    rw [dite_eq_ite] at hlengths
    rw [findFrom, hlengths, List.map_cons, ← ih]
    simp only [behind, Nat.add_right_comm _ front.length, Nat.add_right_comm _ (Text.newlines front)]
  | case3 start line c rest hlengths ih =>
    rw [dite_eq_ite] at hlengths ih
    rw [findFrom, hlengths, ← ih]
    by_cases hc : c = '\n' <;> simp [hc, Nat.add_right_comm]

theorem lengths?_le {text : List Char} {verbs : List (List Char)} {v n : Nat}
    (h : lengths? text verbs = some (v, n)) : v ≤ n := by
  obtain ⟨verb, -, rest, k, -, -, rfl, rfl⟩ := lengths?_eq_some h
  exact Nat.le_add_right _ _

/-- The search through a text that ends with a line goes on behind it as if it began there. -/
theorem findFrom_append {verbs : List String} (hverbs : ∀ verb ∈ verbs, '\n' ∉ verb.toList)
    (htext : text = [] ∨ EndsLine text)
    (hafter : (after.dropWhile Text.isBlank).head? ≠ some '(') (start line : Nat) :
    findFrom (verbs.map String.toList) start line (text ++ after) =
      findFrom (verbs.map String.toList) start line text ++
        findFrom (verbs.map String.toList) (start + text.length) (line + Text.newlines text) after := by
  have hlists : ∀ verb ∈ verbs.map String.toList, '\n' ∉ verb := List.forall_mem_map.2 hverbs
  fun_induction findFrom (verbs.map String.toList) start line text with
  | case1 start line => rfl
  | case2 start line c rest v n hlengths ih =>
    by_cases hdot : c = '.'
    · rw [dif_pos hdot] at hlengths
      subst hdot
      have hrest : EndsLine rest := (htext.resolve_left (List.cons_ne_nil _ _)).of_cons (by decide)
      obtain ⟨hn, -⟩ := isCall_of_lengths? hlengths
      have hv := (lengths?_le hlengths).trans hn
      have hdrop : rest.drop n = [] ∨ EndsLine (rest.drop n) := by
        refine or_iff_not_imp_left.2 (EndsLine.of_append (rest.take n) ?_)
        rwa [List.take_append_drop]
      have hcount : Text.newlines (rest.take n) + Text.newlines (rest.drop n) =
          Text.newlines ('.' :: rest) := by
        rw [← newlines_append, List.take_append_drop]
        exact (List.count_cons_of_ne (by decide)).symm
      have hlength : start + 1 + n + (rest.drop n).length = start + ('.' :: rest).length := by
        rw [List.length_drop, List.length_cons]
        omega
      rw [List.cons_append, findFrom, if_pos rfl, lengths?_append hlists hrest hafter, hlengths]
      simp only [List.take_append_of_le_length hn, List.take_append_of_le_length hv,
        List.drop_append_of_le_length hn, ih hdrop, hlength, Nat.add_assoc line, hcount,
        List.cons_append]
    · rw [dif_neg hdot] at hlengths
      cases hlengths
  | case3 start line c rest hlengths ih =>
    rw [dite_eq_ite] at hlengths ih
    have hline : EndsLine (c :: rest) := htext.resolve_left (List.cons_ne_nil _ _)
    have hrest : rest = [] ∨ EndsLine rest :=
      or_iff_not_imp_left.2 (EndsLine.of_append [c] hline)
    have hpass : (if c = '.' then lengths? (rest ++ after) (verbs.map String.toList) else none) =
        none := by
      by_cases hdot : c = '.'
      · rw [if_pos hdot] at hlengths ⊢
        rwa [lengths?_append hlists (hline.of_cons (by rw [hdot]; decide)) hafter]
      · exact if_neg hdot
    have hcount : (if c = '\n' then line + 1 else line) + Text.newlines rest =
        line + Text.newlines (c :: rest) := by
      rw [Text.newlines, Text.newlines, List.count_cons]
      by_cases hc : c = '\n'
      · simp [hc]
        omega
      · simp [hc]
    rw [List.cons_append, findFrom, hpass]
    simp only [ih hrest, hcount, List.length_cons, Nat.add_assoc, Nat.add_comm 1]

/-- The calls in a text that is cut at the end of a line, where no bracket opens next, are those of
the two parts. They go where the whole text says. -/
theorem find_of_cut_at_line (plan : ScanPlan) (text after : String)
    (hverbs : ∀ verb ∈ plan.verbs, '\n' ∉ verb.toList)
    (htext : text = "" ∨ text.toList.getLast? = some '\n')
    (hafter : (after.toList.dropWhile Text.isBlank).head? ≠ some '(') :
    find plan.verbs (text ++ after).toList = find plan.verbs text.toList ++
        (find plan.verbs after.toList).map (behind text.toList) ∧
      ∀ (urls : UrlTable) (service : String), plan.dependencies urls service (text ++ after) =
        (plan.dependencies urls service text ++ plan.dependencies urls service after).map
          fun d => { d with callee := calleeOf urls (text ++ after).toList } := by
  have hends : text.toList = [] ∨ EndsLine text.toList := htext.imp_left (congrArg String.toList)
  have hfind : find plan.verbs (text ++ after).toList = find plan.verbs text.toList ++
      (find plan.verbs after.toList).map (behind text.toList) := by
    rw [String.toList_append, find, find, find, findFrom_append hverbs hends hafter,
      findFrom_behind]
  refine ⟨hfind, fun urls service => ?_⟩
  rw [ScanPlan.dependencies, hfind]
  simp [ScanPlan.dependencies, Function.comp_def, behind]

theorem find_of_cut_behind_verb :
    let plan : ScanPlan := ⟨Settings.default.rules, ["get", "put"], [], []⟩
    let text := "a.GET\n (x)) b.put\n"
    let after := "\t.put (y).get(z)\n"
    ((∀ verb ∈ plan.verbs, '\n' ∉ verb.toList) ∧ text.toList.getLast? = some '\n' ∧
      (after.toList.dropWhile Text.isBlank).head? ≠ some '(') ∧
    find plan.verbs text.toList = [⟨1, 1, "GET", ".GET\n (x))"⟩] ∧
    find plan.verbs after.toList = [⟨1, 1, "put", ".put (y).get(z)"⟩] ∧
    find plan.verbs (text ++ after).toList =
      [⟨1, 1, "GET", ".GET\n (x))"⟩, ⟨19, 3, "put", ".put (y).get(z)"⟩] := by
  intro plan text after
  have hverbs : ∀ verb ∈ plan.verbs, '\n' ∉ verb.toList := by decide
  have htext : text.toList.getLast? = some '\n' := by decide
  have hafter : (after.toList.dropWhile Text.isBlank).head? ≠ some '(' := by decide
  have hfirst : find plan.verbs text.toList = [⟨1, 1, "GET", ".GET\n (x))"⟩] := by decide +kernel
  have hsecond : find plan.verbs after.toList = [⟨1, 1, "put", ".put (y).get(z)"⟩] := by
    decide +kernel
  refine ⟨⟨hverbs, htext, hafter⟩, hfirst, hsecond, ?_⟩
  rw [(find_of_cut_at_line plan text after hverbs (.inr htext) hafter).1, hfirst, hsecond]
  decide +kernel

end CallSite

end ServiceAtlas
