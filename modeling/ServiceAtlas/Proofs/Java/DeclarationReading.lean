import ServiceAtlas.Proofs.Java.PrintedTokens
import ServiceAtlas.Proofs.Java.Refusal

/-!
How the grammar reads the annotations, types and methods of a printed program. Each lemma follows
one rule over the tokens it takes and gives the line on which reading goes on; where a rule is tried
in vain, it is refused for want of the token it needs.
-/

namespace ServiceAtlas.Java

open Rule (Reads Fails)

/-! ### The next token -/

namespace Cursor

variable {n : Nat} {lead : List Char} {ts : List Token} {ss : List String} {P : String → Prop}

@[simp] theorem atSign_nil : ¬ AtSign ss ⟨n, []⟩ := by simp [AtSign]

@[simp] theorem atSign_signToken {s : String} : AtSign ss ⟨n, signToken lead s :: ts⟩ ↔ s ∈ ss := by
  simp [AtSign, signToken]

@[simp] theorem atSign_wordToken {w : String} : ¬ AtSign ss ⟨n, wordToken lead w :: ts⟩ := by
  simp [AtSign, wordToken]

@[simp] theorem atSign_string {p : PathText} : ¬ AtSign ss ⟨n, pathToken lead p :: ts⟩ := by
  simp [AtSign, pathToken]

@[simp] theorem atWord_nil : ¬ AtWord P ⟨n, []⟩ := by simp [AtWord]

@[simp] theorem atWord_signToken {s : String} : ¬ AtWord P ⟨n, signToken lead s :: ts⟩ := by
  simp [AtWord, signToken]

@[simp] theorem atWord_wordToken {w : String} : AtWord P ⟨n, wordToken lead w :: ts⟩ ↔ P w := by
  simp [AtWord, wordToken]

@[simp] theorem atWord_string {p : PathText} : ¬ AtWord P ⟨n, pathToken lead p :: ts⟩ := by
  simp [AtWord, pathToken]

@[simp] theorem opens_nil : ¬ Opens ⟨n, []⟩ := by simp [Opens]

theorem not_opens_signToken {s : String} (hs : s ∈ [",", ")", "\x7d"]) :
    ¬ Opens ⟨n, signToken lead s :: ts⟩ := by
  rintro ⟨t, ht, hclose⟩
  obtain rfl := Option.mem_some_iff.1 ht
  exact hclose ⟨rfl, hs⟩

end Cursor

open Cursor

/-! ### Single tokens -/

/-- The line on which a token ends if the text before it ended on line `n`. -/
def lineAfter (n : Nat) (t : Token) : Nat :=
  n + Text.newlines t.lead + Text.newlines t.text.toList

def linesAfter (n : Nat) (ts : List Token) : Nat := ts.foldl lineAfter n

theorem linesAfter_append (n : Nat) (ts us : List Token) :
    linesAfter n (ts ++ us) = linesAfter (linesAfter n ts) us := List.foldl_append

theorem reads_tokenIf {test : Token → Bool} {t : Token} (h : test t = true) (n : Nat)
    (ts : List Token) : (tokenIf test).Reads ⟨n, t :: ts⟩ t [] ⟨lineAfter n t, ts⟩ := by
  simp [Reads, tokenIf, h, lineAfter]

section Tokens

variable (n : Nat) (lead : List Char) (ts : List Token)

theorem reads_sign (s : String) : (sign s).Reads ⟨n, signToken lead s :: ts⟩ () []
    ⟨lineAfter n (signToken lead s), ts⟩ :=
  Reads.skip (reads_tokenIf (by simp [signToken]) n ts)

theorem reads_keyword (w : String) : (keyword w).Reads ⟨n, wordToken lead w :: ts⟩ () []
    ⟨lineAfter n (wordToken lead w), ts⟩ :=
  Reads.skip (reads_tokenIf (by simp [wordToken]) n ts)

theorem reads_wordExcept {ws : List String} {w : String} (h : w ∉ ws) :
    (wordExcept ws).Reads ⟨n, wordToken lead w :: ts⟩ w [] ⟨lineAfter n (wordToken lead w), ts⟩ :=
  Reads.next (reads_tokenIf (by simp [wordToken, h]) n ts) (Rule.reads_pure w _)

theorem reads_word (w : String) :
    word.Reads ⟨n, wordToken lead w :: ts⟩ w [] ⟨lineAfter n (wordToken lead w), ts⟩ :=
  reads_wordExcept n lead ts List.not_mem_nil

end Tokens

theorem reads_withText {α : Type} {p : JavaRule α} {n m : Nat} {ts rest : List Token} {a : α}
    {ds : List (Located Declaration)} (h : p.Reads ⟨n, ts ++ rest⟩ a ds ⟨m, rest⟩) :
    (withText p).Reads ⟨n, ts ++ rest⟩ (a, textOf ts) ds ⟨m, rest⟩ := by
  rw [← @Cursor.textUpTo_eq ⟨n, ts ++ rest⟩ ⟨m, rest⟩ ts rfl]
  exact Reads.next (Rule.reads_place _) (Reads.last h (Reads.next (Rule.reads_place _)
    (Rule.reads_pure _ _)))

namespace Grammar

variable {g : Grammar} (hg : g.Guarded)
include hg

/-! ### Types -/

theorem reads_annotations_nil {c : Cursor} (h : ¬ c.AtSign ["@"]) : g.annotations.Reads c [] [] c :=
  Fails.many (hg.annotationNode c h)

theorem reads_dimensions_false {c : Cursor} (h : ¬ c.AtSign ["@", "["]) :
    g.dimensions.Reads c false [] c := by
  refine Reads.next (Fails.many ?_) (Rule.reads_pure false c)
  refine Reads.bind_fails (reads_annotations_nil hg fun h' => h (h'.mono (by simp))) ?_
  exact Fails.bind (needs_sign "[" c fun h' => h (h'.mono (by simp)))

omit hg in
theorem reads_classType (w : Name) (n : Nat) (lead : List Char) {ts : List Token}
    (hnext : ∀ m, ¬ Cursor.AtSign ["<", "."] ⟨m, ts⟩) :
    g.classType.Reads ⟨n, wordToken lead w.text :: ts⟩ (w.text, false) []
      ⟨lineAfter n (wordToken lead w.text), ts⟩ := by
  have htext : ∀ m, Cursor.textUpTo ⟨n, wordToken lead w.text :: ts⟩ ⟨m, ts⟩ = w.text := by
    intro m
    exact (@Cursor.textUpTo_eq ⟨n, _⟩ ⟨m, ts⟩ [wordToken lead w.text] rfl).trans
      (by simp [textOf, wordToken])
  have hsegment : typeSegment.Reads ⟨n, wordToken lead w.text :: ts⟩ () []
      ⟨lineAfter n (wordToken lead w.text), ts⟩ :=
    Reads.next (reads_wordExcept n lead ts (w.not_mem (by decide))) (Rule.reads_pure () _)
  refine Reads.next (Rule.reads_place _) (Reads.next hsegment (Reads.next (Rule.reads_place _) ?_))
  refine Reads.next (Fails.accepts (typeArguments_needs _ fun h => hnext _ (h.mono (by simp)))) ?_
  rw [htext]
  exact Rule.reads_extend_stop (Fails.bind (needs_sign "." _ fun h => hnext _ (h.mono (by simp))))

/-- A name is a type where neither arguments nor dimensions follow. -/
theorem reads_bareTypeRule (w : Name) (n : Nat) (lead : List Char) {ts : List Token}
    (hnext : ∀ m, ¬ Cursor.AtSign ["<", ".", "@", "["] ⟨m, ts⟩) :
    g.bareTypeRule.Reads ⟨n, wordToken lead w.text :: ts⟩ w.text []
      ⟨lineAfter n (wordToken lead w.text), ts⟩ := by
  have hprimitive : w.text ∉ primitives := w.not_mem (by decide)
  have hclass := reads_classType (g := g) w n lead fun m h => hnext m (h.mono (by simp))
  have hsimple : g.simpleType.Reads ⟨n, wordToken lead w.text :: ts⟩ w.text []
      ⟨lineAfter n (wordToken lead w.text), ts⟩ :=
    Fails.orElse_reads (needs_keywordIn _ _ (by simpa using hprimitive))
      (Reads.next hclass (Rule.reads_pure _ _))
  refine Reads.next hsimple (Reads.next (reads_dimensions_false hg ?_) (Rule.reads_pure _ _))
  exact fun h => hnext _ (h.mono (by simp))

/-! ### Strings -/

omit hg in
theorem reads_stringLiteral (p : PathText) (n : Nat) (lead : List Char) (ts : List Token) :
    g.stringLiteral.Reads ⟨n, pathToken lead p :: ts⟩ p.quoted []
      ⟨lineAfter n (pathToken lead p), ts⟩ := by
  have hkind : (ofKind .string).Reads ⟨n, pathToken lead p :: ts⟩ p.quoted []
      ⟨lineAfter n (pathToken lead p), ts⟩ :=
    Reads.next (reads_tokenIf (by simp [pathToken]) n ts) (Rule.reads_pure _ _)
  have hstring : (Rule.orElse (ofKind .string).skip fun _ => g.template).Reads
      ⟨n, [pathToken lead p] ++ ts⟩ () [] ⟨lineAfter n (pathToken lead p), ts⟩ :=
    Reads.orElse (Reads.skip hkind)
  have htext : textOf [pathToken lead p] = p.quoted := by simp [textOf, pathToken]
  have h := reads_withText hstring
  rw [htext] at h
  exact Reads.next h (Rule.reads_pure _ _)

omit hg in
theorem reads_primary (p : PathText) (n : Nat) (lead : List Char) {ts : List Token}
    (hnext : ∀ m, ¬ Cursor.Opens ⟨m, ts⟩) :
    g.primary.Reads ⟨n, pathToken lead p :: ts⟩ (.literal (.string p.quoted)) []
      ⟨lineAfter n (pathToken lead p), ts⟩ := by
  have hliteral : g.literal.Reads ⟨n, pathToken lead p :: ts⟩ (.string p.quoted) []
      ⟨lineAfter n (pathToken lead p), ts⟩ :=
    Reads.firstOf (Reads.next (reads_stringLiteral p n lead ts) (Rule.reads_pure _ _))
  refine Reads.next (Reads.firstOf (Reads.next hliteral (Rule.reads_pure _ _))) ?_
  refine Reads.next (Rule.reads_extend_stop (access_needs _ _ (hnext _))) ?_
  exact Reads.next (Rule.reads_require rfl) (Rule.reads_pure _ _)

omit hg in
theorem reads_operandRule (p : PathText) (label : Bool) (n : Nat) (lead : List Char)
    {ts : List Token} (hnext : ∀ m, ¬ Cursor.Opens ⟨m, ts⟩) :
    (g.operandRule label).Reads ⟨n, pathToken lead p :: ts⟩ (.literal (.string p.quoted)) []
      ⟨lineAfter n (pathToken lead p), ts⟩ := by
  refine Fails.firstOf_reads (Fails.bind (needs_signIn _ _ (by simp))) ?_
  refine Fails.firstOf_reads (Rule.needs_require_bind (Rule.Needs.bind lambda_needs) _ (by simp)) ?_
  refine Fails.firstOf_reads (Fails.bind (Fails.between (needs_sign "(" _ (by simp)))) ?_
  refine Fails.firstOf_reads (Fails.bind (Fails.bind (needs_keyword "switch" _ (by simp)))) ?_
  exact Reads.firstOf (Reads.next (reads_primary p n lead hnext) (Rule.reads_pure _ _))

omit hg

/-- A string followed by the end of an item is an expression. -/
theorem reads_expression (depth : Nat) (p : PathText) (label : Bool) (n : Nat) (lead : List Char)
    {ts : List Token} (hnext : ∀ m, ¬ Cursor.Opens ⟨m, ts⟩) :
    ((nested (depth + 2)).expression label).Reads ⟨n, pathToken lead p :: ts⟩
      (.literal (.string p.quoted)) [] ⟨lineAfter n (pathToken lead p), ts⟩ := by
  have hoperand := reads_operandRule (g := nested depth) p label n lead hnext
  have hstop : ((nested (depth + 1)).continuation label (.literal (.string p.quoted))).Fails
      ⟨lineAfter n (pathToken lead p), ts⟩ := continuation_needs _ _ _ (hnext _)
  exact Reads.next (p := (nested (depth + 1)).operand label) hoperand (Rule.reads_extend_stop hstop)

theorem reads_elementValue (depth : Nat) (p : PathText) (n : Nat) (lead : List Char)
    {ts : List Token} (hnext : ∀ m, ¬ Cursor.Opens ⟨m, ts⟩) :
    (nested (depth + 3)).elementValue.Reads ⟨n, pathToken lead p :: ts⟩
      (.literal (.string p.quoted)) [] ⟨lineAfter n (pathToken lead p), ts⟩ := by
  have hg := guarded_nested (depth + 2)
  refine Fails.firstOf_reads (Fails.bind (Fails.skip (hg.annotationNode _ (by simp)))) ?_
  refine Fails.firstOf_reads (Fails.bind (Fails.skip (Fails.between (needs_sign _ _ (by simp))))) ?_
  exact Reads.firstOf (reads_expression depth p false n lead hnext)

/-! ### Lists -/

section Lists

variable {α β : Type} {p : JavaRule β} {item : List Char → α → List Token} {val : α → β}
  {close : String}

/-- After an item comes a comma or the closing sign. -/
theorem moreTokens_append_eq (item : List Char → α → List Token)
    (hclose : close ∈ [",", ")", "\x7d"]) (as : List α) (ts : List Token) :
    ∃ s ∈ [",", ")", "\x7d"], ∃ ts',
      moreTokens item as ++ signToken [] close :: ts = signToken [] s :: ts' := by
  cases as with
  | nil => exact ⟨close, hclose, ts, rfl⟩
  | cons b bs => exact ⟨",", by simp, _, rfl⟩

variable (hclose : close ∈ [")", "\x7d"])
  (hp : ∀ n lead a s ts, s ∈ [",", ")", "\x7d"] →
    p.Reads ⟨n, item lead a ++ signToken [] s :: ts⟩ (val a) []
      ⟨linesAfter n (item lead a), signToken [] s :: ts⟩)
include hclose hp

theorem reads_moreTokens (as : List α) (n : Nat) (ts : List Token) :
    (Rule.many (sign "," >>= fun _ => p)).Reads
      ⟨n, moreTokens item as ++ signToken [] close :: ts⟩ (as.map val) []
      ⟨linesAfter n (moreTokens item as), signToken [] close :: ts⟩ := by
  induction as generalizing n with
  | nil =>
    have hcomma : close ≠ "," := by rintro rfl; simp at hclose
    exact Fails.many (Fails.bind (needs_sign "," _ (by simpa [moreTokens] using hcomma)))
  | cons b bs ih =>
    obtain ⟨s, hs, ts', htail⟩ := moreTokens_append_eq item (.tail _ hclose) bs ts
    have hitem : (sign "," >>= fun _ => p).Reads
        ⟨n, signToken [] "," :: (item [' '] b ++ (moreTokens item bs ++ signToken [] close :: ts))⟩
        (val b) [] ⟨linesAfter n (signToken [] "," :: item [' '] b),
          moreTokens item bs ++ signToken [] close :: ts⟩ := by
      rw [htail]
      exact Reads.next (reads_sign n [] _ ",") (hp _ [' '] b s ts' hs)
    have hmore := Reads.many hitem
      (by simp only [Place.size, List.length_cons, List.length_append]; omega) (ih _)
    rw [← linesAfter_append] at hmore
    simpa [moreTokens] using hmore

/-- Items with commas between them are read if each can be read up to a comma or the closing
sign. -/
theorem reads_commaList (a : α) (as : List α) (n : Nat) (ts : List Token) :
    (commaList p).Reads ⟨n, commaTokens item (a :: as) ++ signToken [] close :: ts⟩
      ((a :: as).map val) []
      ⟨linesAfter n (commaTokens item (a :: as)), signToken [] close :: ts⟩ := by
  obtain ⟨s, hs, ts', htail⟩ := moreTokens_append_eq item (.tail _ hclose) as ts
  have hfirst := hp n [] a s ts' hs
  rw [← htail] at hfirst
  have h := Reads.sepBy1 hfirst (reads_moreTokens hclose hp as _ ts)
  rw [← linesAfter_append] at h
  rw [commaTokens, List.append_assoc]
  exact Reads.sepBy h

end Lists

/-! ### Annotations -/

/-- A nonterminal is read as its rule is read one level deeper. -/
theorem reads_annotationNode {depth : Nat} {c c' : Cursor} {a : Annotation}
    (h : (nested depth).annotationRule.Reads c a [] c') :
    (nested (depth + 1)).annotationNode.Reads c a [] c' := h

theorem reads_dottedName (w : String) (n : Nat) (lead : List Char) {ts : List Token}
    (hnext : ∀ m, ¬ Cursor.AtSign ["."] ⟨m, ts⟩) :
    (withText dottedName).Reads ⟨n, wordToken lead w :: ts⟩ ((), w) []
      ⟨lineAfter n (wordToken lead w), ts⟩ := by
  have htext : textOf [wordToken lead w] = w := by simp [textOf, wordToken]
  have hname : dottedName.Reads ⟨n, [wordToken lead w] ++ ts⟩ () []
      ⟨lineAfter n (wordToken lead w), ts⟩ :=
    Reads.skip (Reads.sepBy1 (reads_word n lead ts w)
      (Fails.many (Fails.bind (needs_sign "." _ (hnext _)))))
  have h := reads_withText hname
  rwa [htext] at h

/-- An annotation without arguments. -/
theorem reads_tag (g : Grammar) (a : Name) (n : Nat) (lead : List Char) (ts : List Token)
    (hnext : ∀ m, ¬ Cursor.AtSign [".", "("] ⟨m, ts⟩) :
    g.annotationRule.Reads ⟨n, [signToken lead "@", wordToken [] a.text] ++ ts⟩
      ⟨"@" ++ a.text, a.text, .none⟩ []
      ⟨linesAfter n [signToken lead "@", wordToken [] a.text], ts⟩ := by
  have htext : textOf [signToken lead "@", wordToken [] a.text] = "@" ++ a.text := by
    simp [textOf, signToken]
  rw [← htext]
  refine Reads.next (reads_withText (a := (a.text, none)) ?_) (Rule.reads_pure _ _)
  refine Reads.next (reads_sign n lead _ "@") ?_
  refine Reads.next (reads_dottedName a.text _ [] fun m h => hnext m (h.mono (by simp))) ?_
  refine Reads.next (Fails.optional (Fails.between (needs_sign "(" _ ?_))) (Rule.reads_pure _ _)
  exact fun h => hnext _ (h.mono (by simp))

end Grammar

namespace Method

open Grammar

/-- What is read between the brackets of the annotation. -/
def arguments (m : Method) : Arguments :=
  match m.morePaths with
  | [] => .literal (.string m.path.quoted)
  | _ => .array (m.paths.map fun p => .string p.quoted)

theorem fails_namedValues (g : Grammar) {c : Cursor} (hword : ¬ c.AtWord fun _ => True)
    (hclose : ¬ c.AtSign [")"]) :
    (commaList g.namedValue >>= fun _ => Rule.ahead (sign ")") >>= fun _ =>
      (pure .other : JavaRule Arguments)).Fails c := by
  have hvalue : g.namedValue.Fails c :=
    Fails.bind (needs_wordExcept [] c fun h => hword (h.mono fun _ _ => trivial))
  exact Reads.bind_fails (Fails.sepBy hvalue) (Fails.bind (Fails.ahead (needs_sign ")" c hclose)))

theorem reads_braced (depth : Nat) (q : PathText) (qs : List PathText) (n : Nat) (ts : List Token) :
    (braced (nested (depth + 3)).elementValue).Reads
      ⟨n, signToken [] "\x7b" :: commaTokens (fun lead p => [pathToken lead p]) (q :: qs) ++
        signToken [] "\x7d" :: ts⟩
      ((q :: qs).map fun p => .literal (.string p.quoted)) []
      ⟨linesAfter n (signToken [] "\x7b" :: commaTokens (fun lead p => [pathToken lead p])
        (q :: qs) ++ [signToken [] "\x7d"]), ts⟩ := by
  rw [linesAfter_append]
  refine Reads.between (reads_sign n [] _ "\x7b") (reads_commaList (by simp) ?_ q qs _ ts)
    (c := ()) ?_
  · intro n lead p s ts hs
    exact reads_elementValue depth p n lead fun m => not_opens_signToken hs
  · exact Reads.next (Fails.optional (needs_sign "," _ (by simp))) (reads_sign _ [] ts "\x7d")

theorem reads_argumentsInside (depth : Nat) (m : Method) (n : Nat) (ts : List Token) :
    (nested (depth + 3)).argumentsInside.Reads
      ⟨n, m.argumentTokens ++ signToken [] ")" :: ts⟩ m.arguments []
      ⟨linesAfter n m.argumentTokens, signToken [] ")" :: ts⟩ := by
  have hg := guarded_nested (depth + 3)
  unfold argumentTokens arguments
  cases hpaths : m.morePaths with
  | nil =>
    refine Fails.firstOf_reads (fails_namedValues _ (by simp) (by simp)) ?_
    refine Fails.firstOf_reads (Fails.bind (Fails.between (needs_sign _ _ (by simp)))) ?_
    refine Fails.firstOf_reads (Fails.bind (hg.annotationNode _ (by simp))) ?_
    refine Reads.firstOf (Reads.next (reads_expression (depth + 1) m.path false n [] fun k => ?_)
      (Rule.reads_pure _ _))
    exact not_opens_signToken (by simp)
  | cons q qs =>
    have hbraced := reads_braced depth m.path (q :: qs) n (signToken [] ")" :: ts)
    have hpaths' : m.paths = m.path :: q :: qs := by rw [paths, hpaths]
    rw [← hpaths'] at hbraced
    have hliterals : literals (m.paths.map fun p => .literal (.string p.quoted)) =
        m.paths.map fun p => .string p.quoted := by
      rw [literals, List.filterMap_map]
      exact congrFun (List.filterMap_eq_map (f := fun p : PathText => Literal.string p.quoted)) m.paths
    refine Fails.firstOf_reads (fails_namedValues _ (by simp) (by simp)) ?_
    rw [List.append_assoc, List.singleton_append, ← hliterals]
    exact Reads.firstOf (Reads.next hbraced (Rule.reads_pure _ _))

/-- The annotation of a method. -/
def tagNode (m : Method) : Annotation := ⟨textOf (m.tagTokens []), m.tag.text, m.arguments⟩

theorem reads_annotationRule (depth : Nat) (m : Method) (n : Nat) (lead : List Char)
    (ts : List Token) :
    (nested (depth + 3)).annotationRule.Reads ⟨n, m.tagTokens lead ++ ts⟩ m.tagNode []
      ⟨linesAfter n (m.tagTokens lead), ts⟩ := by
  have htext : textOf (m.tagTokens lead) = textOf (m.tagTokens []) := rfl
  have htokens : m.tagTokens lead ++ ts = signToken lead "@" :: wordToken [] m.tag.text ::
      signToken [] "(" :: (m.argumentTokens ++ signToken [] ")" :: ts) := by
    simp [tagTokens]
  rw [tagNode, ← htext]
  refine Reads.next (reads_withText (a := (m.tag.text, some m.arguments)) ?_) (Rule.reads_pure _ _)
  rw [htokens, tagTokens, linesAfter_append, linesAfter_append]
  refine Reads.next (reads_sign n lead _ "@") ?_
  refine Reads.next (reads_dottedName m.tag.text _ [] (by simp)) ?_
  refine Reads.next (Reads.optional (Reads.between (reads_sign _ [] _ "(")
    (reads_argumentsInside depth m _ ts) (reads_sign _ [] ts ")"))) (Rule.reads_pure _ _)

end Method

namespace Grammar

variable {g : Grammar}

/-! ### Modifiers -/

section Modifiers

variable (hg : g.Guarded) {w : String} (hw : w ∉ modifierWords) (v : String) (n : Nat)
  (lead lead' : List Char) (ts : List Token)
include hg hw

/-- Where two words follow each other, the first is a modifier only by itself. -/
theorem fails_modifier :
    (Rule.firstOf [
      do return some (← g.annotationNode),
      do modifierWord; return none,
      do nonSealed; return none]).Fails ⟨n, wordToken lead w :: wordToken lead' v :: ts⟩ := by
  refine Fails.firstOf (Fails.bind (hg.annotationNode _ (by simp))) ?_
  refine Fails.firstOf (Fails.bind (Fails.bind (needs_keywordIn _ _ (by simpa using hw)))) ?_
  refine Fails.firstOf (Fails.bind ?_) Rule.fails_firstOf_nil
  by_cases hnon : w = "non"
  · subst hnon
    exact Reads.bind_fails (reads_keyword n lead _ "non")
      (Fails.bind (needs_tightSign "-" _ (by simp)))
  · exact Fails.bind (needs_keyword "non" _ (by simpa using hnon))

theorem reads_modifiersIfAny_none :
    g.modifiersIfAny.Reads ⟨n, wordToken lead w :: wordToken lead' v :: ts⟩ [] []
      ⟨n, wordToken lead w :: wordToken lead' v :: ts⟩ :=
  reads_modifiersIfAny_nil (Fails.bind (Fails.bind (fails_modifier hg hw v n lead lead' ts)))

theorem reads_modifiersIfAny_one {c : Cursor} {a : Annotation}
    (h : g.annotationNode.Reads c a [] ⟨n, wordToken lead w :: wordToken lead' v :: ts⟩) :
    g.modifiersIfAny.Reads c [a] [] ⟨n, wordToken lead w :: wordToken lead' v :: ts⟩ := by
  have hmany : (Rule.many1 (Rule.firstOf [
      do return some (← g.annotationNode),
      do modifierWord; return none,
      do nonSealed; return none])).Reads c [some a] []
      ⟨n, wordToken lead w :: wordToken lead' v :: ts⟩ :=
    Reads.next (Reads.firstOf (Reads.next h (Rule.reads_pure _ _)))
      (Reads.next (Fails.many (fails_modifier hg hw v n lead lead' ts)) (Rule.reads_pure _ _))
  exact Reads.next (Reads.optional (Reads.next hmany (Rule.reads_pure _ _))) (Rule.reads_pure _ _)

end Modifiers

end Grammar

/-! ### Methods -/

namespace Method

open Grammar

theorem reads_bareType (depth : Nat) (w : Name) (v : String) (n : Nat) (lead lead' : List Char)
    (ts : List Token) :
    (nested (depth + 1)).bareType.Reads ⟨n, wordToken lead w.text :: wordToken lead' v :: ts⟩
      w.text []
      ⟨lineAfter n (wordToken lead w.text), wordToken lead' v :: ts⟩ :=
  reads_bareTypeRule (guarded_nested depth) w n lead (by simp)

variable (depth : Nat)

theorem reads_parameter (p : Name × Name) (n : Nat) (lead : List Char) {s : String}
    (hs : s ∈ [",", ")", "\x7d"]) (ts : List Token) :
    (nested (depth + 1)).parameter.Reads ⟨n, parameterTokens lead p ++ signToken [] s :: ts⟩
      p.1.text []
      ⟨linesAfter n (parameterTokens lead p), signToken [] s :: ts⟩ := by
  have hg := guarded_nested (depth + 1)
  have hmodifier : p.1.text ∉ modifierWords := p.1.not_mem (by decide)
  have hname : ∀ k, (nested (depth + 1)).declaratorName.Reads
      ⟨k, wordToken [' '] p.2.text :: signToken [] s :: ts⟩ () []
      ⟨lineAfter k (wordToken [' '] p.2.text), signToken [] s :: ts⟩ := by
    intro k
    refine Reads.next (reads_word k [' '] _ p.2.text) ?_
    refine Reads.next (reads_dimensions_false hg ?_) (Rule.reads_pure _ _)
    exact fun h => not_opens_signToken hs (h.opens (by decide))
  refine Reads.next (reads_modifiersIfAny_none hg hmodifier _ n lead [' '] _) ?_
  refine Reads.next (reads_bareType depth p.1 _ n lead [' '] _) ?_
  exact Reads.next (Fails.orElse_reads (Fails.bind (needs_sign "..." _ (by simp))) (hname _))
    (Rule.reads_pure _ _)

/-- No parameter is a receiver, because none is named by a reserved word. -/
theorem fails_receiver (p : Name × Name) (n : Nat) (lead : List Char) {s : String}
    (hs : s ∈ [",", ")", "\x7d"]) (ts : List Token) :
    (nested (depth + 1)).receiver.Fails ⟨n, parameterTokens lead p ++ signToken [] s :: ts⟩ := by
  have hthis : p.2.text ≠ "this" := p.2.ne_reserved (by decide)
  refine Reads.bind_fails (reads_annotations_nil (guarded_nested _) (by simp [parameterTokens])) ?_
  refine Reads.bind_fails (reads_bareType depth p.1 _ n lead [' '] _) ?_
  refine Reads.bind_fails (Fails.many (Reads.bind_fails (reads_word _ [' '] _ p.2.text)
    (needs_sign "." _ fun h => not_opens_signToken hs (h.opens (by decide))))) ?_
  exact Fails.bind (needs_keyword "this" _ (by simpa using hthis))

theorem reads_parameters (ps : List (Name × Name)) (n : Nat) (ts : List Token) :
    (nested (depth + 1)).parameters.Reads
      ⟨n, signToken [] "(" :: (commaTokens parameterTokens ps ++ signToken [] ")" :: ts)⟩
      (ps.map fun p => p.1.text) []
      ⟨lineAfter (linesAfter (lineAfter n (signToken [] "(")) (commaTokens parameterTokens ps))
        (signToken [] ")"), ts⟩ := by
  have hg := guarded_nested (depth + 1)
  refine Reads.between (reads_sign n [] _ "(") ?_ (reads_sign _ [] ts ")")
  cases ps with
  | nil =>
    have htype : ∀ k, (nested (depth + 1)).bareType.Fails ⟨k, signToken [] ")" :: ts⟩ :=
      fun k => hg.bareType _ (by simp)
    refine Reads.next (Fails.accepts ?_) (Fails.sepBy ?_)
    · exact Reads.bind_fails (reads_annotations_nil hg (by simp [commaTokens]))
        (Fails.bind (htype _))
    · refine Reads.bind_fails (reads_modifiersIfAny_nil (modifiers_needs hg _ ?_))
        (Fails.bind (htype _))
      simp [commaTokens]
  | cons p ps =>
    obtain ⟨s, hs, ts', htail⟩ :=
      moreTokens_append_eq parameterTokens (by simp : ")" ∈ [",", ")", "\x7d"]) ps ts
    have hown := fails_receiver depth p (lineAfter n (signToken [] "(")) [] hs ts'
    rw [← htail, ← List.append_assoc] at hown
    exact Reads.next (Fails.accepts hown) (reads_commaList (by simp)
      (fun n lead p s ts hs => reads_parameter depth p n lead hs ts) p ps _ ts)

theorem reads_block (n : Nat) (ts : List Token) :
    (nested (depth + 1)).block.Reads ⟨n, signToken [' '] "\x7b" :: signToken [] "\x7d" :: ts⟩ () []
      ⟨linesAfter n [signToken [' '] "\x7b", signToken [] "\x7d"], ts⟩ := by
  have hempty : ∀ k, (Rule.many (nested depth).statement).skip.Reads
      ⟨k, signToken [] "\x7d" :: ts⟩ () [] ⟨k, signToken [] "\x7d" :: ts⟩ := fun k =>
    Reads.skip (Fails.many (statement_needs depth _ (not_opens_signToken (by simp))))
  exact Reads.between (reads_sign n [' '] _ "\x7b") (hempty _) (reads_sign _ [] ts "\x7d")

theorem reads_method (m : Method) (n : Nat) (ts : List Token) :
    (nested (depth + 1)).method.Reads ⟨n, m.headerTokens ++ ts⟩
      (m.returnType.text, m.parameters.map fun p => p.1.text) []
      ⟨linesAfter n m.headerTokens, ts⟩ := by
  have hg := guarded_nested (depth + 1)
  have htokens : m.headerTokens ++ ts = wordToken ['\n'] m.returnType.text ::
      wordToken [' '] m.name.text :: signToken [] "(" ::
      (commaTokens parameterTokens m.parameters ++ signToken [] ")" ::
        signToken [' '] "\x7b" :: signToken [] "\x7d" :: ts) := by
    simp [headerTokens]
  rw [htokens, headerTokens, linesAfter_append, linesAfter_append]
  refine Reads.next (Fails.optional (Fails.bind (typeParameters_needs _ (by simp)))) ?_
  refine Reads.next (reads_bareType depth m.returnType _ n ['\n'] [' '] _) ?_
  refine Reads.next (reads_word _ [' '] _ m.name.text) ?_
  refine Reads.next (reads_parameters depth m.parameters _ _) ?_
  refine Reads.next (reads_dimensions_false hg (by simp)) ?_
  refine Reads.next
    (Reads.skip (Fails.optional (Fails.bind (needs_keyword "throws" _ (by simp))))) ?_
  exact Reads.next (Fails.orElse_reads (needs_sign ";" _ (by simp)) (reads_block depth _ ts))
    (Rule.reads_pure _ _)

end Method

end ServiceAtlas.Java
