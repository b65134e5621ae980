import ServiceAtlas.Scan
import Mathlib.Data.List.TakeWhile

/-!
The search for calls finds exactly the calls. `CallSite.IsCall` says what a call is, without the
search: a dot, a verb, blanks, and brackets that reach as far as their line allows. What the search
reports are such calls, one after the other (`CallSite.Finds`), and wherever such a call could begin
there is a reported one that begins there or reaches over the place.
-/

namespace ServiceAtlas.CallSite

/-! ### What a call is -/

/-- The piece `matched`, with `after` behind it, is a call by the verb as it is written in it. -/
structure IsCall (verbs : List String) (verb matched after : List Char) : Prop where
  listed : ∃ v ∈ verbs, v.toList.map Text.fold = verb.map Text.fold
  shape : ∃ blanks inside, matched = '.' :: (verb ++ blanks ++ '(' :: (inside ++ [')'])) ∧
    (∀ c ∈ blanks, Text.isBlank c = true) ∧ '\n' ∉ inside
  last : ')' ∉ after.takeWhile (· != '\n')

/-- The calls reported for a text of which `start` characters and `line` lines precede: they follow
one another, they are calls, and no place where a call could begin is left out. -/
structure Finds (verbs : List String) (start line : Nat) (text : List Char) (calls : List CallSite) :
    Prop where
  disjoint : calls.Pairwise fun a b => a.start + a.matched.length ≤ b.start
  sound : ∀ c ∈ calls, ∃ before after, text = before ++ c.matched.toList ++ after ∧
    c.start = start + before.length ∧ c.line = line + before.count '\n' ∧
    IsCall verbs c.verb.toList c.matched.toList after
  complete : ∀ before verb matched after, text = before ++ matched ++ after →
    IsCall verbs verb matched after →
    ∃ c ∈ calls, c.start ≤ start + before.length ∧ start + before.length < c.start + c.matched.length

variable {verbs : List String} {verb matched after text : List Char}

theorem IsCall.matched_ne_nil (h : IsCall verbs verb matched after) : matched ≠ [] := by
  obtain ⟨blanks, inside, hmatched, -⟩ := h.shape
  rw [hmatched]
  exact List.cons_ne_nil _ _

/-! ### The parts of a call -/

theorem afterVerb?_eq_some_iff {verb text rest : List Char} :
    afterVerb? verb text = some rest ↔
      ∃ written, text = written ++ rest ∧ verb.map Text.fold = written.map Text.fold := by
  fun_induction afterVerb? verb text with
  | case1 text =>
    constructor
    · intro h
      exact ⟨[], Option.some.inj h, rfl⟩
    · rintro ⟨written, htext, hfold⟩
      rw [htext, List.map_eq_nil_iff.1 hfold.symm]
      rfl
  | case2 v verb =>
    constructor
    · intro h
      cases h
    · rintro ⟨written, htext, hfold⟩
      rw [(List.append_eq_nil_iff.1 htext.symm).1] at hfold
      cases hfold
  | case3 v verb c text hvc ih =>
    rw [ih]
    constructor
    · rintro ⟨written, rfl, hfold⟩
      exact ⟨c :: written, rfl, by rw [List.map_cons, List.map_cons, hvc, hfold]⟩
    · rintro ⟨written, htext, hfold⟩
      cases written with
      | nil => cases hfold
      | cons d written =>
        cases htext
        exact ⟨written, rfl, (List.cons.inj hfold).2⟩
  | case4 v verb c text hvc =>
    constructor
    · intro h
      cases h
    · rintro ⟨written, htext, hfold⟩
      cases written with
      | nil => cases hfold
      | cons d written =>
        cases htext
        exact (hvc (List.cons.inj hfold).1).elim

/-- A line is cut behind its last closing bracket, if it has one. -/
theorem upToLastBracket_append (line : List Char) :
    ∃ tail, line = upToLastBracket line ++ tail ∧ ')' ∉ tail ∧
      (upToLastBracket line = [] ∨ ∃ inside, upToLastBracket line = inside ++ [')']) := by
  refine ⟨(line.reverse.takeWhile (· != ')')).reverse, ?_, ?_, ?_⟩
  · rw [upToLastBracket, ← List.reverse_append, List.takeWhile_append_dropWhile,
      List.reverse_reverse]
  · intro hmem
    have htail := List.mem_takeWhile_imp (List.mem_reverse.1 hmem)
    simp at htail
  · rw [upToLastBracket]
    cases hdrop : line.reverse.dropWhile (· != ')') with
    | nil => exact .inl rfl
    | cons c front =>
      have hhead := List.head?_dropWhile_not (· != ')') line.reverse
      rw [hdrop] at hhead
      have hc : c = ')' := by simpa using hhead
      exact .inr ⟨front.reverse, by rw [List.reverse_cons, hc]⟩

theorem upToLastBracket_ne_nil {line : List Char} (h : ')' ∈ line) : upToLastBracket line ≠ [] := by
  obtain ⟨tail, hline, htail, -⟩ := upToLastBracket_append line
  intro hnil
  rw [hnil, List.nil_append] at hline
  exact htail (hline ▸ h)

/-- What stands behind a line holds nothing of it. -/
theorem takeWhile_dropWhile_newline (rest : List Char) :
    (rest.dropWhile (· != '\n')).takeWhile (· != '\n') = [] := by
  have hhead := List.head?_dropWhile_not (· != '\n') rest
  cases hrest : rest.dropWhile (· != '\n') with
  | nil => rfl
  | cons c cs =>
    rw [hrest] at hhead
    exact List.takeWhile_cons_of_neg (by simpa using hhead)

/-- Arguments reach to the last closing bracket of their line. -/
theorem exists_of_upToLastBracket_ne_nil {rest : List Char}
    (h : upToLastBracket (rest.takeWhile (· != '\n')) ≠ []) :
    ∃ inside after, upToLastBracket (rest.takeWhile (· != '\n')) = inside ++ [')'] ∧
      rest = inside ++ [')'] ++ after ∧ '\n' ∉ inside ∧ ')' ∉ after.takeWhile (· != '\n') := by
  obtain ⟨tail, hline, htail, hcut⟩ := upToLastBracket_append (rest.takeWhile (· != '\n'))
  obtain ⟨inside, hinside⟩ := hcut.resolve_left h
  rw [hinside] at hline
  have hkept : ∀ c ∈ inside ++ [')'] ++ tail, (c != '\n') = true := by
    intro c hc
    rw [← hline] at hc
    have hne := List.mem_takeWhile_imp (p := (· != '\n')) hc
    exact hne
  refine ⟨inside, tail ++ rest.dropWhile (· != '\n'), hinside, ?_, ?_, ?_⟩
  · calc rest = rest.takeWhile (· != '\n') ++ rest.dropWhile (· != '\n') :=
          List.takeWhile_append_dropWhile.symm
      _ = inside ++ [')'] ++ (tail ++ rest.dropWhile (· != '\n')) := by
          rw [hline, List.append_assoc]
  · intro hc
    have hne := hkept '\n' (by simp [hc])
    simp at hne
  · rw [List.takeWhile_append_of_pos fun c hc => hkept c (by simp [hc]),
      takeWhile_dropWhile_newline, List.append_nil]
    exact htail

/-- Blanks, an opening bracket and arguments. -/
theorem argumentsLength?_eq_some {text : List Char} {n : Nat} (h : argumentsLength? text = some n) :
    ∃ blanks inside after, text = blanks ++ '(' :: (inside ++ [')']) ++ after ∧
      n = (blanks ++ '(' :: (inside ++ [')'])).length ∧ (∀ c ∈ blanks, Text.isBlank c = true) ∧
      '\n' ∉ inside ∧ ')' ∉ after.takeWhile (· != '\n') := by
  rw [argumentsLength?] at h
  split at h
  · rename_i rest hdrop
    by_cases hnil : upToLastBracket (rest.takeWhile (· != '\n')) = []
    · simp [hnil] at h
    · obtain ⟨inside, after, hinside, hrest, hnewline, hlast⟩ := exists_of_upToLastBracket_ne_nil hnil
      refine ⟨text.takeWhile Text.isBlank, inside, after, ?_, ?_,
        fun c hc => List.mem_takeWhile_imp hc, hnewline, hlast⟩
      · calc text = text.takeWhile Text.isBlank ++ text.dropWhile Text.isBlank :=
              List.takeWhile_append_dropWhile.symm
          _ = text.takeWhile Text.isBlank ++ '(' :: (inside ++ [')']) ++ after := by
              rw [hdrop, hrest]
              simp
      · simp only [hinside] at h
        simp at h
        simp
        omega
  · cases h

theorem isSome_argumentsLength? {blanks inside : List Char}
    (hblanks : ∀ c ∈ blanks, Text.isBlank c = true) (hinside : '\n' ∉ inside) (after : List Char) :
    (argumentsLength? (blanks ++ '(' :: (inside ++ [')']) ++ after)).isSome = true := by
  have hopen : Text.isBlank '(' = false := by decide
  have hdrop : (blanks ++ '(' :: (inside ++ [')']) ++ after).dropWhile Text.isBlank =
      '(' :: (inside ++ [')'] ++ after) := by
    rw [List.append_assoc, List.dropWhile_append_of_pos hblanks, List.cons_append,
      List.dropWhile_cons_of_neg (by simp [hopen])]
  have hkept : ∀ c ∈ inside ++ [')'], (c != '\n') = true := by
    intro c hc
    rw [bne_iff_ne]
    rintro rfl
    rcases List.mem_append.1 hc with hc | hc
    · exact hinside hc
    · simp at hc
  have hbracket : ')' ∈ (inside ++ [')'] ++ after).takeWhile (· != '\n') := by
    rw [List.takeWhile_append_of_pos hkept]
    simp
  have hnonempty := upToLastBracket_ne_nil hbracket
  rw [argumentsLength?, hdrop]
  simp only [List.isEmpty_iff, hnonempty, if_false, Option.isSome_some]

theorem lengths?_eq_some {text : List Char} {verbs : List (List Char)} {v n : Nat}
    (h : lengths? text verbs = some (v, n)) :
    ∃ verb ∈ verbs, ∃ rest k, afterVerb? verb text = some rest ∧ argumentsLength? rest = some k ∧
      v = verb.length ∧ n = verb.length + k := by
  induction verbs with
  | nil => cases h
  | cons verb verbs ih =>
    rw [lengths?] at h
    split at h
    · rename_i k hk
      obtain ⟨rest, hrest, harguments⟩ := Option.bind_eq_some_iff.1 hk
      cases h
      exact ⟨verb, List.mem_cons_self, rest, k, hrest, harguments, rfl, rfl⟩
    · obtain ⟨other, hother, found⟩ := ih h
      exact ⟨other, List.mem_cons_of_mem verb hother, found⟩

theorem lengths?_eq_none {text : List Char} {verbs : List (List Char)}
    (h : lengths? text verbs = none) {verb : List Char} (hverb : verb ∈ verbs) :
    (afterVerb? verb text).bind argumentsLength? = none := by
  induction verbs with
  | nil => cases hverb
  | cons first verbs ih =>
    rw [lengths?] at h
    split at h
    · cases h
    · rename_i hfirst
      rcases List.mem_cons.1 hverb with rfl | hverb
      · exact hfirst
      · exact ih h hverb

/-! ### The search -/

/-- The first verb that fits behind a dot makes a call. -/
theorem isCall_of_lengths? {rest : List Char} {v n : Nat}
    (h : lengths? rest (verbs.map String.toList) = some (v, n)) :
    n ≤ rest.length ∧ IsCall verbs (rest.take v) ('.' :: rest.take n) (rest.drop n) := by
  obtain ⟨verb, hverb, behind, k, hbehind, harguments, rfl, rfl⟩ := lengths?_eq_some h
  obtain ⟨listed, hlisted, rfl⟩ := List.mem_map.1 hverb
  obtain ⟨written, rfl, hfold⟩ := afterVerb?_eq_some_iff.1 hbehind
  obtain ⟨blanks, inside, after, rfl, rfl, hblanks, hinside, hlast⟩ :=
    argumentsLength?_eq_some harguments
  have hlength : listed.toList.length = written.length := by
    have hmap := congrArg List.length hfold
    rwa [List.length_map, List.length_map] at hmap
  have hpiece : written ++ (blanks ++ '(' :: (inside ++ [')']) ++ after) =
      (written ++ (blanks ++ '(' :: (inside ++ [')']))) ++ after := (List.append_assoc ..).symm
  have hwhole : listed.toList.length + (blanks ++ '(' :: (inside ++ [')'])).length =
      (written ++ (blanks ++ '(' :: (inside ++ [')']))).length := by
    rw [hlength, ← List.length_append]
  refine ⟨?_, ?_⟩
  · rw [hwhole, hpiece]
    exact (List.prefix_append _ after).length_le
  · rw [hwhole, hlength, List.take_left, hpiece, List.take_left, List.drop_left]
    exact ⟨⟨listed, hlisted, hfold⟩,
      ⟨blanks, inside, by rw [List.append_assoc], hblanks, hinside⟩, hlast⟩

/-- Where no verb fits behind a dot, no call begins. -/
theorem not_isCall_of_lengths? {rest : List Char}
    (h : lengths? rest (verbs.map String.toList) = none) (htext : '.' :: rest = matched ++ after) :
    ¬ IsCall verbs verb matched after := by
  intro hcall
  obtain ⟨listed, hlisted, hfold⟩ := hcall.listed
  obtain ⟨blanks, inside, rfl, hblanks, hinside⟩ := hcall.shape
  have hrest : rest = verb ++ (blanks ++ '(' :: (inside ++ [')']) ++ after) := by
    have htail := (List.cons.inj htext).2
    rw [htail]
    simp
  have hafter := afterVerb?_eq_some_iff.2 ⟨verb, hrest, hfold⟩
  have hnone := lengths?_eq_none h (List.mem_map_of_mem hlisted)
  rw [hafter, Option.bind_some] at hnone
  have hsome := isSome_argumentsLength? hblanks hinside after
  rw [hnone] at hsome
  cases hsome

theorem finds_nil (verbs : List String) (start line : Nat) : Finds verbs start line [] [] where
  disjoint := .nil
  sound := by simp
  complete before verb matched after htext hcall := by
    have hmatched := (List.append_eq_nil_iff.1 (List.append_eq_nil_iff.1 htext.symm).1).2
    exact (hcall.matched_ne_nil hmatched).elim

/-- A character with which no call begins is passed. -/
theorem Finds.pass {start line : Nat} {c : Char} {rest : List Char} {calls : List CallSite}
    (hnone : ∀ verb matched after, c :: rest = matched ++ after → ¬ IsCall verbs verb matched after)
    (h : Finds verbs (start + 1) (if c = '\n' then line + 1 else line) rest calls) :
    Finds verbs start line (c :: rest) calls where
  disjoint := h.disjoint
  sound d hd := by
    obtain ⟨before, after, rfl, hstart, hline, hcall⟩ := h.sound d hd
    refine ⟨c :: before, after, rfl, ?_, ?_, hcall⟩
    · rw [hstart, List.length_cons]
      omega
    · rw [hline, List.count_cons]
      by_cases hc : c = '\n'
      · simp [hc]
        omega
      · simp [hc]
  complete before verb matched after htext hcall := by
    cases before with
    | nil => exact (hnone verb matched after htext hcall).elim
    | cons d before =>
      cases htext
      obtain ⟨found, hfound, hle, hlt⟩ := h.complete before verb matched after rfl hcall
      refine ⟨found, hfound, ?_, ?_⟩ <;> rw [List.length_cons] <;> omega

/-- A call is reported, and the search goes on behind it. -/
theorem Finds.report {start line : Nat} {verb matched rest : List Char} {calls : List CallSite}
    (hcall : IsCall verbs verb matched rest)
    (h : Finds verbs (start + matched.length) (line + matched.count '\n') rest calls) :
    Finds verbs start line (matched ++ rest)
      (⟨start, line, String.ofList verb, String.ofList matched⟩ :: calls) where
  disjoint := by
    refine List.pairwise_cons.2 ⟨fun d hd => ?_, h.disjoint⟩
    obtain ⟨before, after, -, hstart, -⟩ := h.sound d hd
    rw [hstart, String.length_ofList]
    exact Nat.le_add_right _ _
  sound d hd := by
    rcases List.mem_cons.1 hd with rfl | hd
    · refine ⟨[], rest, ?_, rfl, rfl, ?_⟩
      · rw [String.toList_ofList, List.nil_append]
      · rw [String.toList_ofList, String.toList_ofList]
        exact hcall
    · obtain ⟨before, after, rfl, hstart, hline, hother⟩ := h.sound d hd
      refine ⟨matched ++ before, after, by simp, ?_, ?_, hother⟩
      · rw [hstart, List.length_append, Nat.add_assoc]
      · rw [hline, List.count_append, Nat.add_assoc]
  complete before verb' matched' after htext hother := by
    by_cases hshort : before.length < matched.length
    · refine ⟨_, List.mem_cons_self, Nat.le_add_right _ _, ?_⟩
      rw [String.length_ofList]
      exact Nat.add_lt_add_left hshort start
    · -- the place lies behind the call, so what precedes the place begins with the call
      rw [List.append_assoc] at htext
      have hprefix : matched <+: before := List.prefix_of_prefix_length_le (List.prefix_append _ _)
        (htext ▸ List.prefix_append before _) (Nat.not_lt.1 hshort)
      obtain ⟨between, rfl⟩ := hprefix
      rw [List.append_assoc, List.append_cancel_left_eq, ← List.append_assoc] at htext
      obtain ⟨found, hfound, hle, hlt⟩ := h.complete between verb' matched' after htext hother
      rw [Nat.add_assoc, ← List.length_append] at hle hlt
      exact ⟨found, List.mem_cons_of_mem _ hfound, hle, hlt⟩

theorem finds_findFrom (verbs : List String) (start line : Nat) (text : List Char) :
    Finds verbs start line text (findFrom (verbs.map String.toList) start line text) := by
  fun_induction findFrom (verbs.map String.toList) start line text with
  | case1 start line => exact finds_nil verbs start line
  | case2 start line c rest v n hlengths ih =>
    by_cases hdot : c = '.'
    · rw [dif_pos hdot] at hlengths
      subst hdot
      obtain ⟨hle, hcall⟩ := isCall_of_lengths? hlengths
      have hcount : ('.' :: rest.take n).count '\n' = Text.newlines (rest.take n) := by
        rw [List.count_cons_of_ne (by decide)]
        rfl
      have hstart : start + ('.' :: rest.take n).length = start + 1 + n := by
        rw [List.length_cons, List.length_take_of_le hle]
        omega
      rw [← hstart, ← hcount] at ih
      have hreport := Finds.report hcall ih
      rw [List.cons_append, List.take_append_drop] at hreport
      rw [← hstart, ← hcount]
      exact hreport
    · rw [dif_neg hdot] at hlengths
      cases hlengths
  | case3 start line c rest hlengths ih =>
    refine ih.pass fun verb matched after htext hcall => ?_
    by_cases hdot : c = '.'
    · rw [dif_pos hdot] at hlengths
      exact not_isCall_of_lengths? hlengths (hdot ▸ htext) hcall
    · obtain ⟨blanks, inside, rfl, -⟩ := hcall.shape
      exact hdot (List.cons.inj htext).1

/-- The calls that are reported for a text are exactly the calls in it, whatever URLs are known; these
decide only where the calls go, which is to one service for all of them. -/
theorem find_exactly_calls (plan : ScanPlan) (text : String) :
    Finds plan.verbs 0 1 text.toList (find plan.verbs text.toList) ∧
      ∀ urls : UrlTable, ∃ callee, ∀ service, plan.dependencies urls service text =
        (find plan.verbs text.toList).map fun call => ⟨service, callee, call.verb⟩ :=
  ⟨finds_findFrom plan.verbs 0 1 text.toList, fun urls => ⟨calleeOf urls text.toList, fun _ => rfl⟩⟩

end ServiceAtlas.CallSite
