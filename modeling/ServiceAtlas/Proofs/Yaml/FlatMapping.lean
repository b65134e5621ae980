import ServiceAtlas.Proofs.PrintedText
import ServiceAtlas.Proofs.Yaml.PlainLines

/-!
What a mapping of plain pairs is read as. Its tokens become the events of the pairs, one after the
other (`events?_pairs`). A word that begins with a letter is a string, unless it is one of the
keywords (`Value.ofPlain?_of_isAlpha`), and pairs of strings with different keys are all kept, in
their order (`Value.ofEvents?_pairs`). So lines that hold one pair each are read as these pairs
(`topLevel_lines`).
-/

namespace ServiceAtlas.Yaml

/-! ### Events -/

/-- The events of a pair whose parts are written without quotes. -/
def pairEvents (p : String × String) : List Event := [.scalar {} p.1 true, .scalar {} p.2 true]

theorem node?_scalar (handles : Handles) (block indentless : Bool) (fuel : Nat) (text : String)
    (ts : List Token) (events : Array Event) :
    node? handles block indentless (fuel + 1) ⟨.scalar text true :: ts, events⟩ =
      some ⟨ts, events.push (.scalar {} text true)⟩ := by
  simp [node?, Draft.properties?, Draft.anchorOf, Draft.tagOf, Draft.next, Draft.emit]

theorem blockPairs?_pair (handles : Handles) (p : String × String) (ts : List Token)
    (events : List Event) (fuel : Nat) :
    blockPairs? handles (fuel + 3) ⟨pairTokens p ++ ts, events.toArray⟩ =
      blockPairs? handles (fuel + 1) ⟨ts, (events ++ pairEvents p).toArray⟩ := by
  have hkey : blockPairs? handles (fuel + 3) ⟨pairTokens p ++ ts, events.toArray⟩ =
      (node? handles true true (fuel + 2)
        ⟨.scalar p.1 true :: .value :: .scalar p.2 true :: ts, events.toArray⟩).bind
        (blockValue? handles (fuel + 2)) := rfl
  have hvalue (events : Array Event) : blockValue? handles (fuel + 2)
        ⟨.value :: .scalar p.2 true :: ts, events⟩ =
      (node? handles true true (fuel + 1) ⟨.scalar p.2 true :: ts, events⟩).bind
        (blockPairs? handles (fuel + 1)) := rfl
  simp [hkey, node?_scalar, hvalue, pairEvents]

theorem blockPairs?_pairs (handles : Handles) (pairs : List (String × String)) (events : List Event)
    (fuel : Nat) :
    blockPairs? handles (fuel + 2 * pairs.length + 1)
        ⟨pairs.flatMap pairTokens ++ [.blockEnd], events.toArray⟩ =
      some ⟨[], (events ++ (pairs.flatMap pairEvents ++ [Event.close])).toArray⟩ := by
  induction pairs generalizing events with
  | nil => simp [blockPairs?, Draft.next, Draft.emit]
  | cons p pairs ih =>
    rw [List.length_cons, Nat.mul_succ, ← Nat.add_assoc, List.flatMap_cons, List.append_assoc,
      blockPairs?_pair, ih, List.flatMap_cons, List.append_assoc, List.append_assoc]

theorem node?_blockMapping (handles : Handles) (fuel : Nat) (ts : List Token) :
    node? handles true false (fuel + 1) ⟨.blockMapping :: ts, #[]⟩ =
      blockPairs? handles fuel ⟨ts, [Event.mapping {}].toArray⟩ := rfl

theorem events?_blockMapping (ts : List Token) : events? (.blockMapping :: ts) =
    (node? defaultHandles true false (8 * (ts.length + 1 + 1)) ⟨.blockMapping :: ts, #[]⟩).bind
      fun d => if (d.tokens.dropWhile (· == .documentEnd)).isEmpty then some d.events.toList
        else none := rfl

theorem events?_pairs (pairs : List (String × String)) :
    events? (.blockMapping :: (pairs.flatMap pairTokens ++ [.blockEnd])) =
      some (.mapping {} :: (pairs.flatMap pairEvents ++ [.close])) := by
  have hlength : 8 * ((pairs.flatMap pairTokens ++ [Token.blockEnd]).length + 1 + 1) =
      30 * pairs.length + 22 + 2 * pairs.length + 1 + 1 := by
    have htokens : (pairs.flatMap pairTokens).length = 4 * pairs.length := by
      simp [List.length_flatMap, pairTokens, Nat.mul_comm]
    rw [List.length_append, htokens, List.length_singleton]
    omega
  rw [events?_blockMapping, hlength, node?_blockMapping, blockPairs?_pairs]
  rfl

/-! ### Words that are strings -/

section Letters

variable {c : Char} {cs : List Char}

theorem isSign_of_isAlpha (h : c.isAlpha = true) : Scan.isSign c = false := by
  have hsigns : "-?:,[]\x7b\x7d#&*!|>'\"%@\x60".toList.all (!·.isAlpha) = true := by decide
  rw [Scan.isSign, String.contains_char_eq, decide_eq_false_iff_not]
  intro hmem
  simpa [h] using List.all_eq_true.1 hsigns c hmem

/-- Printable characters after a letter make up a word, if there is no blank among them. -/
theorem isPlainWord_of_isAlpha (h : c.isAlpha = true)
    (hchars : ∀ d ∈ c :: cs, IsPrintable d ∧ d ≠ ' ') (hlast : (c :: cs).getLast? ≠ some ':') :
    IsPlainWord (c :: cs) where
  nonempty := List.cons_ne_nil c cs
  allowed d hd := by
    obtain ⟨hlow, hhigh⟩ := (hchars d hd).1
    simp [isAllowed, hlow, hhigh]
  solid d hd := by
    obtain ⟨hprintable, hblank⟩ := hchars d hd
    have hne (e : Char) (he : ¬ IsPrintable e) : d ≠ e := by
      rintro rfl
      exact he hprintable
    constructor
    · simp [isBlank, hblank, hne '\t' (by decide)]
    · simp [isBreak, hne '\n' (by decide), hne '\r' (by decide), hne '\x85' (by decide),
        hne '\u2028' (by decide), hne '\u2029' (by decide)]
  first d hd := by
    cases hd
    exact ⟨isSign_of_isAlpha h, ne_of_isAlpha h rfl, ne_of_isAlpha h rfl⟩
  last := hlast

theorem le_of_mem_digitValue? (h : c.isAlpha = true) : ∀ n ∈ Text.digitValue? c, 10 ≤ n := by
  intro n hn
  rw [isAlpha_iff] at h
  have hle (d : Char) : d ≤ c ↔ d.toNat ≤ c.toNat := UInt32.le_iff_toNat_le
  have hle' (d : Char) : c ≤ d ↔ c.toNat ≤ d.toNat := UInt32.le_iff_toNat_le
  simp only [Text.digitValue?, Bool.and_eq_true, decide_eq_true_eq, hle, hle', Char.reduceToNat]
    at hn
  split_ifs at hn <;> cases hn <;> omega

theorem numberIn?_of_isAlpha (h : c.isAlpha = true) : Text.numberIn? 10 (c :: cs) = none := by
  have hdigit : (Text.digitValue? c).bind (fun d => if d < 10 then some (0 * 10 + d) else none) =
      none := by
    refine Option.bind_eq_none_iff.2 fun n hn => if_neg ?_
    exact Nat.not_lt.2 (le_of_mem_digitValue? h n hn)
  have hnone (cs : List Char) : cs.foldl (fun acc c => do
      let n ← acc
      let d ← Text.digitValue? c
      if d < 10 then some (n * 10 + d) else none) none = none := by
    induction cs with
    | nil => rfl
    | cons c cs ih => exact ih
  exact (congrArg (cs.foldl _) hdigit).trans (hnone cs)

theorem whole?_of_isAlpha (h : c.isAlpha = true) (top bottom : Nat) :
    Number.whole? top bottom (c :: cs) = none := by
  have hzero : (c == '0') = false := beq_false_of_ne (ne_of_isAlpha h rfl)
  have hmagnitude : Number.magnitude? top (c :: cs) = none := by
    simp [Number.magnitude?, Number.bases, List.lookup_cons, hzero, Number.digits?,
      numberIn?_of_isAlpha h]
  rw [Number.whole?, hmagnitude]
  · rfl
  · exact fun _ heq => ne_of_isAlpha h rfl (List.cons.inj heq).1
  · exact fun _ heq => ne_of_isAlpha h rfl (List.cons.inj heq).1

theorem fraction?_of_isAlpha (h : c.isAlpha = true) : Number.fraction? (c :: cs) = none := by
  have hdigit : c.isDigit = false := by
    rw [Bool.eq_false_iff, Ne, isDigit_iff]
    rw [isAlpha_iff] at h
    omega
  have hread : Decimal.read? (c :: cs) = none := by
    have hsign : Decimal.sign (c :: cs) = (false, c :: cs) := by
      rw [Decimal.sign]
      · exact fun _ heq => ne_of_isAlpha h rfl (List.cons.inj heq).1
      · exact fun _ heq => ne_of_isAlpha h rfl (List.cons.inj heq).1
    have hpoint : c ≠ '.' := ne_of_isAlpha h rfl
    simp [Decimal.read?, hsign, hdigit, hpoint]
  have hword (words : List String)
      (hwords : words.all (fun w => w.toList.head?.any (!·.isAlpha)) = true) :
      words.contains (String.ofList (c :: cs)) = false := by
    rw [List.contains_eq_mem, decide_eq_false_iff_not]
    intro hmem
    simpa [h] using List.all_eq_true.1 hwords _ hmem
  have hplus : c ≠ '+' := ne_of_isAlpha h rfl
  simp only [Number.fraction?, List.head?_cons, Option.some.injEq, hplus, if_false,
    decide_false, Bool.false_and, Bool.false_eq_true, hread, Option.map_none,
    hword [".inf", ".Inf", ".INF"] (by decide), hword ["-.inf", "-.Inf", "-.INF"] (by decide),
    hword [".nan", ".NaN", ".NAN"] (by decide)]

/-- The words for null and the truth values. -/
def Value.keywords : List String :=
  ["null", "Null", "NULL", "~", "true", "True", "TRUE", "false", "False", "FALSE"]

theorem Value.ofPlain?_of_isAlpha {s : String} (hs : s.toList = c :: cs) (h : c.isAlpha = true)
    (hword : s ∉ keywords) : ofPlain? s = some (.string s) := by
  have hempty : s.isEmpty = false := by
    rw [Bool.eq_false_iff, Ne, String.isEmpty_iff]
    rintro rfl
    cases hs
  have hnull : isNull s = false := by simp_all [isNull, keywords]
  have hbool : bool? s = none := by simp_all [bool?, keywords]
  simp [ofPlain?, hempty, hnull, hbool, hs, Number.reading, whole?_of_isAlpha h,
    fraction?_of_isAlpha h]

end Letters

/-! ### Values -/

namespace Value

theorem resolve?_pairEvents (a : Anchors) (place : Nat) (pairs : List (String × String)) :
    Anchors.resolve? a place (pairs.flatMap pairEvents ++ [.close]) = some (a, []) := by
  induction pairs generalizing place with
  | nil => rfl
  | cons p pairs ih => simp [pairEvents, Anchors.resolve?, Anchors.note, ih]

def stringPair (p : String × String) : Value × Value := (.string p.1, .string p.2)

/-- Both parts of a pair are strings without quotes. -/
def ReadsAsStrings (p : String × String) : Prop :=
  ofPlain? p.1 = some (.string p.1) ∧ ofPlain? p.2 = some (.string p.2)

variable {d : Document} {place : Nat}

theorem at?_string {text : String} (h : d.events[place]? = some (.scalar {} text true))
    (hstring : ofPlain? text = some (.string text)) (depth jumps : Nat) :
    at? d depth place jumps = some (.string text, place + 1, jumps) := by
  rw [at?.eq_def]
  simp [h, node?, ofScalar?, hstring, localTag?, withTag]

theorem any_same_eq_false {known : List (String × String)} {key : String}
    (h : key ∉ known.map Prod.fst) :
    (known.map stringPair).any (fun (k, _) => k.same (.string key)) = false := by
  simp only [List.any_eq_false, List.forall_mem_map, stringPair, same, beq_iff_eq]
  exact fun p hp heq => h (heq ▸ List.mem_map_of_mem hp)

/-- The pairs of a mapping, read one after the other. -/
theorem pairs?_pairEvents {pairs : List (String × String)} (hstrings : ∀ p ∈ pairs, ReadsAsStrings p)
    (front : List Event) (known : List (String × String))
    (hevents : d.events = (front ++ (pairs.flatMap pairEvents ++ [Event.close])).toArray)
    (hkeys : ((known ++ pairs).map Prod.fst).Nodup) (depth fuel jumps : Nat) :
    pairs? d (at? d depth) (fuel + pairs.length + 1) (known.map stringPair) front.length jumps =
      some ((known ++ pairs).map stringPair, d.events.size, jumps) := by
  induction pairs generalizing front known with
  | nil => simp [pairs?, hevents]
  | cons p pairs ih =>
    obtain ⟨⟨hkey, hvalue⟩, hstrings⟩ := List.forall_mem_cons.1 hstrings
    have hfirst : d.events[front.length]? = some (.scalar {} p.1 true) := by
      simp [hevents, pairEvents]
    have hsecond : d.events[front.length + 1]? = some (.scalar {} p.2 true) := by
      simp [hevents, pairEvents]
    have hnew : p.1 ∉ known.map Prod.fst := by
      rw [List.map_append, List.nodup_append] at hkeys
      exact fun hmem => hkeys.2.2 _ hmem _ (by simp) rfl
    have hrest := ih hstrings (front ++ pairEvents p) (known ++ [p]) (by simp [hevents])
      (by simpa using hkeys)
    rw [List.length_cons, ← Nat.add_assoc, pairs?, hfirst]
    simp [at?_string hfirst hkey, at?_string hsecond hvalue, any_same_eq_false hnew]
    simpa [pairEvents, stringPair] using hrest

theorem at?_pairEvents {pairs : List (String × String)} (hstrings : ∀ p ∈ pairs, ReadsAsStrings p)
    (hkeys : (pairs.map Prod.fst).Nodup)
    (hevents : d.events = ([Event.mapping {}] ++ (pairs.flatMap pairEvents ++ [Event.close])).toArray)
    (depth jumps : Nat) :
    at? d (depth + 1) 0 jumps = some (.mapping (pairs.map stringPair), d.events.size, jumps) := by
  have hfirst : d.events[0]? = some (.mapping {}) := by simp [hevents]
  have hsize : d.events.size = pairs.length + 2 + pairs.length := by
    simp [hevents, List.length_flatMap, pairEvents]
    omega
  have hpairs := pairs?_pairEvents hstrings [.mapping {}] [] hevents hkeys depth (pairs.length + 2)
    jumps
  rw [← hsize] at hpairs
  rw [at?.eq_def]
  simp only [hfirst, node?]
  exact congrArg (Option.map _) hpairs

theorem ofEvents?_pairs {pairs : List (String × String)} (hstrings : ∀ p ∈ pairs, ReadsAsStrings p)
    (hkeys : (pairs.map Prod.fst).Nodup) :
    ofEvents? (.mapping {} :: (pairs.flatMap pairEvents ++ [.close])) =
      some (.mapping (pairs.map stringPair)) := by
  simp only [ofEvents?, Document.ofEvents?, Anchors.resolve?, Anchors.note, resolve?_pairEvents]
  simp [maxDepth, at?_pairEvents hstrings hkeys]

end Value

theorem textPairs?_stringPair (pairs : List (String × String)) :
    textPairs? (pairs.map Value.stringPair) = some pairs := by
  induction pairs with
  | nil => rfl
  | cons p pairs ih =>
    rw [List.map_cons, Value.stringPair, textPairs?, ih]
    rfl

/-- Pairs on lines of their own are read as these pairs, in their order. -/
theorem topLevel_lines {ps : List PlainPair} {ending : List Char} (hne : ps ≠ [])
    (hending : ending = [] ∨ ending = ['\n']) (hstrings : ∀ p ∈ ps, Value.ReadsAsStrings p.pair)
    (hkeys : (ps.map PlainPair.key).Nodup) {text : String}
    (htext : text.toList = PlainPair.text ps ending) :
    topLevel text = .ok (ps.map PlainPair.pair) := by
  have hread : Value.read? text =
      some (.mapping ((ps.map PlainPair.pair).map Value.stringPair)) := by
    have hvalue := Value.ofEvents?_pairs (List.forall_mem_map.2 hstrings) (by rwa [List.map_map])
    obtain ⟨p, ps, rfl⟩ := List.exists_cons_of_ne_nil hne
    rw [Value.read?, htext, tokens?_lines hending]
    simp only [Option.bind_eq_bind, Option.bind_some, events?_pairs, hvalue]
  simp only [topLevel, hread, textPairs?_stringPair]

end ServiceAtlas.Yaml
