import ServiceAtlas.Proofs.Java.WrittenTypes
import Mathlib.Data.List.Forall2

/-!
Rules told by the tokens that they take. `Rule.TakesAt` relates the tokens taken at a place to the
value given, with one lemma for each combinator; what a rule finds has to stand among these tokens.
Most rules only pass on what they find. That they do is the class `Rule.Keeps`, and its instances
follow the way in which a rule is built.
-/

namespace ServiceAtlas.Rule

open Java

variable {α β γ : Type}

/-- What the rule takes at a place and the value that it gives are related, and the declarations that
it finds stand among the tokens taken. -/
def TakesAt (p : JavaRule α) (s : Cursor) (R : List Token → α → Prop) : Prop :=
  ∀ r, p.read s = some r → ∃ taken, s.tokens = taken ++ r.rest.tokens ∧
    (∀ d ∈ r.found, d.item.StandsIn taken) ∧ R taken r.value

/-- The declarations that the rule finds stand among the tokens that it takes, at every place. Rules
have this from the rules that they are built of, which is left to instances. -/
class Keeps (p : JavaRule α) : Prop where
  takesAt : ∀ s, p.TakesAt s fun _ _ => True

variable {p : JavaRule α} {f : α → JavaRule β} {s : Cursor} {R S : List Token → α → Prop}
  {T : List Token → β → Prop}

theorem TakesAt.mono (h : p.TakesAt s R) (hRS : ∀ ts a, R ts a → S ts a) : p.TakesAt s S := by
  intro r hr
  obtain ⟨taken, htaken, hfound, hvalue⟩ := h r hr
  exact ⟨taken, htaken, hfound, hRS _ _ hvalue⟩

theorem keeps_of_takesAt {R : Cursor → List Token → α → Prop} (h : ∀ s, p.TakesAt s (R s)) :
    p.Keeps :=
  ⟨fun s => (h s).mono fun _ _ _ => trivial⟩

/-- A rule that neither moves nor finds anything. -/
theorem takesAt_of_stay (h : ∀ r, p.read s = some r → r.rest = s ∧ r.found = [] ∧ R [] r.value) :
    p.TakesAt s R := by
  intro r hr
  obtain ⟨hrest, hfound, hvalue⟩ := h r hr
  exact ⟨[], by rw [hrest]; rfl, by simp [hfound], hvalue⟩

theorem takesAt_pure {a : α} (h : R [] a) : (Pure.pure a : JavaRule α).TakesAt s R :=
  takesAt_of_stay fun r hr => by cases hr; exact ⟨rfl, rfl, h⟩

theorem takesAt_place : (Rule.place : JavaRule Cursor).TakesAt s fun ts c => ts = [] ∧ c = s :=
  takesAt_of_stay fun r hr => by cases hr; exact ⟨rfl, rfl, rfl, rfl⟩

theorem TakesAt.bind (hp : p.TakesAt s R)
    (hf : ∀ a s' ts, s.tokens = ts ++ s'.tokens → R ts a →
      (f a).TakesAt s' fun us b => T (ts ++ us) b) : (p >>= f).TakesAt s T := by
  intro r hr
  change (Rule.bind p f).read s = some r at hr
  simp only [Rule.bind] at hr
  split at hr
  · cases hr
  · rename_i u hu
    split at hr
    · cases hr
    · rename_i t ht
      cases hr
      obtain ⟨ts, hts, hfound, hvalue⟩ := hp u hu
      obtain ⟨us, hus, hfound', hvalue'⟩ := hf u.value u.rest ts hts hvalue t ht
      refine ⟨ts ++ us, by rw [hts, hus, List.append_assoc], fun d hd => ?_, hvalue'⟩
      rcases List.mem_append.1 hd with hd | hd
      · exact (hfound d hd).append_right us
      · exact (hfound' d hd).append_left ts

theorem TakesAt.orElse {q : Unit → JavaRule α} (hp : p.TakesAt s R) (hq : (q ()).TakesAt s R) :
    (Rule.orElse p q).TakesAt s R := by
  intro r hr
  simp only [Rule.orElse] at hr
  split at hr
  · rename_i u hu
    exact hp r (hu.trans hr)
  · exact hq r hr

/-- A relation that every step carries on holds at the end. -/
theorem takesAt_extend {step : α → JavaRule α} {a : α} (h : R [] a)
    (hstep : ∀ a s' ts, s.tokens = ts ++ s'.tokens → R ts a →
      (step a).TakesAt s' fun us b => R (ts ++ us) b) : (Rule.extend step a).TakesAt s R := by
  -- the relation is generalised to what was taken before the place that the loop stands at
  suffices hloop : ∀ a s' ts, s.tokens = ts ++ s'.tokens → R ts a → ∃ us,
      s'.tokens = us ++ (extendFrom step a s').rest.tokens ∧
      (∀ d ∈ (extendFrom step a s').found, d.item.StandsIn us) ∧
      R (ts ++ us) (extendFrom step a s').value by
    intro r hr
    cases hr
    exact hloop a s [] rfl h
  intro a s'
  fun_induction extendFrom step a s' with
  | case1 a s' hnone => exact fun ts hts hR => ⟨[], rfl, by simp, by simpa using hR⟩
  | case2 a s' r hr hlt t ih =>
    intro ts hts hR
    obtain ⟨us, hus, hfound, hR'⟩ := hstep a s' ts hts hR r hr
    obtain ⟨vs, hvs, hfound', hR''⟩ := ih (ts ++ us) (by rw [hts, hus, List.append_assoc]) hR'
    refine ⟨us ++ vs, by rw [hus, hvs, List.append_assoc], fun d hd => ?_, ?_⟩
    · rcases List.mem_append.1 hd with hd | hd
      · exact (hfound d hd).append_right vs
      · exact (hfound' d hd).append_left us
    · rwa [← List.append_assoc]
  | case3 a s' r hr hlt => exact fun ts hts hR => ⟨[], rfl, by simp, by simpa using hR⟩

theorem takesAt_many (h : ∀ s, p.TakesAt s R) : (Rule.many p).TakesAt s fun ts as =>
    ∃ pieces : List (List Token), ts = pieces.flatten ∧ List.Forall₂ R pieces as := by
  have hloop : (Rule.extend (fun acc : List α => p >>= fun a => Rule.pure (a :: acc)) []).TakesAt s
      fun ts acc => ∃ pieces : List (List Token), ts = pieces.flatten ∧
        List.Forall₂ R pieces acc.reverse := by
    refine takesAt_extend ⟨[], rfl, .nil⟩ ?_
    rintro acc s' ts - ⟨pieces, rfl, hpieces⟩
    refine (h s').bind fun a s'' piece _ hpiece => takesAt_pure ⟨pieces ++ [piece], by simp, ?_⟩
    rw [List.reverse_cons]
    exact List.rel_append hpieces (.cons hpiece .nil)
  refine hloop.bind fun acc s' ts _ hacc => takesAt_pure ?_
  rwa [List.append_nil]

theorem takesAt_many_series {P : List Token → Prop} (h : ∀ s, p.TakesAt s fun ts _ => P ts) :
    (Rule.many p).TakesAt s fun ts _ => Series P ts := by
  refine (takesAt_many h).mono ?_
  rintro ts as ⟨pieces, rfl, hpieces⟩
  refine ⟨pieces, rfl, ?_⟩
  induction hpieces with
  | nil => simp
  | cons hpiece _ ih => exact List.forall_mem_cons.2 ⟨hpiece, ih⟩

/-- A relation that stays when more tokens are taken holds of every value in a row. -/
theorem takesAt_sepBy {sep : JavaRule β} (hR : ∀ before ts after a, R ts a →
      R (before ++ ts ++ after) a) (hsep : ∀ s, sep.TakesAt s fun _ _ => True)
    (hp : ∀ s, p.TakesAt s R) :
    (Rule.sepBy p sep).TakesAt s fun ts as => ∀ a ∈ as, R ts a := by
  have hnext : ∀ s, (sep >>= fun _ => p).TakesAt s R := fun s =>
    (hsep s).bind fun _ s' ts _ _ => (hp s').mono fun us a h => by simpa using hR ts us [] a h
  refine TakesAt.orElse ?_ (takesAt_pure (by simp))
  refine (hp s).bind fun a s₁ ts _ ha => (takesAt_many hnext).bind ?_
  rintro as s₂ - - ⟨pieces, rfl, hpieces⟩
  have hrow : ∀ before, ∀ b ∈ as, R (before ++ pieces.flatten) b := by
    clear ha
    induction hpieces with
    | nil => simp
    | @cons piece b pieces bs hpiece _ ih =>
      intro before
      refine List.forall_mem_cons.2 ⟨?_, fun c hc => ?_⟩
      · rw [List.flatten_cons, ← List.append_assoc]
        exact hR before piece pieces.flatten b hpiece
      · rw [List.flatten_cons, ← List.append_assoc]
        exact ih (before ++ piece) c hc
  refine takesAt_pure (List.forall_mem_cons.2 ⟨by simpa using hR [] ts pieces.flatten a ha, ?_⟩)
  rw [List.append_nil]
  exact hrow ts

theorem TakesAt.accepts {P : List Token → Prop} (h : p.TakesAt s fun ts _ => P ts) (hnil : P []) :
    p.accepts.TakesAt s fun ts _ => P ts :=
  (h.bind fun a s' ts _ hts => takesAt_pure (by rwa [List.append_nil])).orElse (takesAt_pure hnil)

/-! ### Keeping to the tokens -/

section Keeps

variable {q : Unit → JavaRule α} {ps : List (JavaRule α)} {sep : JavaRule β} {right : JavaRule γ}

instance (a : α) : (Pure.pure a : JavaRule α).Keeps := ⟨fun _ => takesAt_pure trivial⟩

instance (a : α) : (Rule.pure a : JavaRule α).Keeps := ⟨fun _ => takesAt_pure trivial⟩

instance : (Rule.fail : JavaRule α).Keeps := ⟨fun _ r hr => by cases hr⟩

instance : (Rule.place : JavaRule Cursor).Keeps := keeps_of_takesAt fun _ => takesAt_place

instance : p.ahead.Keeps := by
  refine ⟨fun s => takesAt_of_stay fun r hr => ?_⟩
  simp only [Rule.ahead] at hr
  split at hr <;> cases hr
  exact ⟨rfl, rfl, trivial⟩

instance : p.absent.Keeps := by
  refine ⟨fun s => takesAt_of_stay fun r hr => ?_⟩
  simp only [Rule.absent] at hr
  split at hr <;> cases hr
  exact ⟨rfl, rfl, trivial⟩

instance keeps_bind [p.Keeps] [∀ a, (f a).Keeps] : (p >>= f).Keeps :=
  ⟨fun s => (Keeps.takesAt s).bind fun _ s' _ _ _ => Keeps.takesAt s'⟩

instance [p.Keeps] [(q ()).Keeps] : (Rule.orElse p q).Keeps :=
  ⟨fun s => (Keeps.takesAt s).orElse (Keeps.takesAt s)⟩

instance {c : Prop} [Decidable c] {q : JavaRule α} [p.Keeps] [q.Keeps] :
    (if c then p else q).Keeps := by
  split <;> infer_instance

instance (c : Bool) : (Rule.require c : JavaRule Unit).Keeps := by
  unfold Rule.require
  infer_instance

instance {p : Unit → JavaRule α} [h : (p ()).Keeps] : (Rule.delay p).Keeps := ⟨h.takesAt⟩

instance [p.Keeps] : p.optional.Keeps := by
  unfold Rule.optional
  infer_instance

instance [p.Keeps] : p.accepts.Keeps := by
  unfold Rule.accepts
  infer_instance

instance [p.Keeps] : p.skip.Keeps := by
  unfold Rule.skip
  infer_instance

instance : (Rule.firstOf [] : JavaRule α).Keeps := by
  unfold Rule.firstOf
  infer_instance

instance [p.Keeps] [(Rule.firstOf ps).Keeps] : (Rule.firstOf (p :: ps)).Keeps := by
  unfold Rule.firstOf
  infer_instance

instance {step : α → JavaRule α} [∀ a, (step a).Keeps] (a : α) : (Rule.extend step a).Keeps :=
  ⟨fun _ => takesAt_extend trivial fun _ s' _ _ _ => Keeps.takesAt s'⟩

instance [p.Keeps] : (Rule.many p).Keeps := by
  unfold Rule.many
  infer_instance

instance [p.Keeps] : (Rule.many1 p).Keeps := by
  unfold Rule.many1
  infer_instance

instance [p.Keeps] [sep.Keeps] : (Rule.sepBy1 p sep).Keeps := by
  unfold Rule.sepBy1
  infer_instance

instance [p.Keeps] [sep.Keeps] : (Rule.sepBy p sep).Keeps := by
  unfold Rule.sepBy
  infer_instance

instance [sep.Keeps] [right.Keeps] [p.Keeps] : (Rule.between sep right p).Keeps := by
  unfold Rule.between
  infer_instance

/-- A relation that tokens taken before do not matter to. -/
theorem takesAt_bind_of_stable [p.Keeps] (hT : ∀ ts us b, T us b → T (ts ++ us) b)
    (hf : ∀ a s, (f a).TakesAt s T) : (p >>= f).TakesAt s T :=
  (Keeps.takesAt s).bind fun a s' ts _ _ => (hf a s').mono (hT ts)

end Keeps

/-! ### Declarations -/

/-- What the rule gives is a declaration that stands among the tokens taken, or nothing. -/
class Declares (p : JavaRule (Option Declaration)) : Prop where
  takesAt : ∀ s, p.TakesAt s fun ts o => ∀ d ∈ o, d.StandsIn ts

section Declares

variable {p : JavaRule (Option Declaration)} {q : Unit → JavaRule (Option Declaration)}
  {ps : List (JavaRule (Option Declaration))} {f : α → JavaRule (Option Declaration)}

instance : (Pure.pure none : JavaRule (Option Declaration)).Declares :=
  ⟨fun _ => takesAt_pure (by simp)⟩

instance (annotations : List Annotation) (name : String) :
    (Pure.pure (some (.type annotations name)) : JavaRule (Option Declaration)).Declares :=
  ⟨fun _ => takesAt_pure (by simp [Declaration.StandsIn])⟩

instance {p : JavaRule α} [p.Keeps] [∀ a, (f a).Declares] : (p >>= f).Declares :=
  ⟨fun _ => takesAt_bind_of_stable (fun ts _ _ h d hd => (h d hd).append_left ts)
    fun _ => Declares.takesAt⟩

instance [p.Declares] [(q ()).Declares] : (Rule.orElse p q).Declares :=
  ⟨fun s => (Declares.takesAt s).orElse (Declares.takesAt s)⟩

instance {c : Prop} [Decidable c] {q : JavaRule (Option Declaration)} [p.Declares] [q.Declares] :
    (if c then p else q).Declares := by
  split <;> infer_instance

instance : (Rule.firstOf [] : JavaRule (Option Declaration)).Declares := ⟨fun _ r hr => by cases hr⟩

instance [p.Declares] [(Rule.firstOf ps).Declares] : (Rule.firstOf (p :: ps)).Declares := by
  unfold Rule.firstOf
  infer_instance

instance [p.Declares] : (Rule.declare p).Keeps := by
  refine ⟨fun s r hr => ?_⟩
  simp only [Rule.declare] at hr
  split at hr
  · cases hr
  · rename_i u hu
    obtain ⟨taken, htaken, hfound, hvalue⟩ := Declares.takesAt s u hu
    split at hr
    · cases hr
      exact ⟨taken, htaken, hfound, trivial⟩
    · rename_i d hd
      cases hr
      exact ⟨taken, htaken, List.forall_mem_cons.2 ⟨hvalue d hd, hfound⟩, trivial⟩

end Declares

end ServiceAtlas.Rule

namespace ServiceAtlas.Java

open Rule (TakesAt)

variable {α : Type} {s : Cursor}

/-! ### Single tokens -/

theorem takesAt_tokenIf (test : Token → Bool) :
    (tokenIf test).TakesAt s fun ts t => ts = [t] ∧ test t = true := by
  intro r hr
  simp only [tokenIf] at hr
  split at hr
  · cases hr
  · rename_i t rest htokens
    split at hr
    · rename_i htest
      cases hr
      exact ⟨[t], htokens, by simp, rfl, htest⟩
    · cases hr

theorem takesAt_sign (text : String) :
    (sign text).TakesAt s fun ts _ => ∃ t, ts = [t] ∧ t.IsSign text := by
  refine (takesAt_tokenIf _).bind ?_
  rintro t s' ts - ⟨rfl, ht⟩
  refine Rule.takesAt_pure ⟨t, rfl, ?_⟩
  simpa [Token.IsSign] using ht

theorem takesAt_wordIf (test : Token → Bool) : TakesAt (do
      let t ← tokenIf fun t => t.kind == .word && test t
      return t.text) s fun ts text => ∃ t, ts = [t] ∧ t.kind = .word ∧ t.text = text := by
  refine (takesAt_tokenIf _).bind ?_
  rintro t s' ts - ⟨rfl, ht⟩
  refine Rule.takesAt_pure ⟨t, rfl, ?_, rfl⟩
  simp only [Bool.and_eq_true, beq_iff_eq] at ht
  exact ht.1

theorem takesAt_wordExcept (refused : List String) : (wordExcept refused).TakesAt s
    fun ts text => ∃ t, ts = [t] ∧ t.kind = .word ∧ t.text = text := takesAt_wordIf _

theorem takesAt_keywordIn (words : List String) : (keywordIn words).TakesAt s
    fun ts text => ∃ t, ts = [t] ∧ t.kind = .word ∧ t.text = text := takesAt_wordIf _

theorem takesAt_withText {p : JavaRule α} {R : List Token → α → Prop} (h : ∀ s, p.TakesAt s R) :
    (withText p).TakesAt s fun ts v => R ts v.1 := by
  refine Rule.takesAt_place.bind ?_
  rintro start s₁ - - ⟨rfl, rfl⟩
  refine (h s₁).bind fun a s₂ ts _ ha => Rule.takesAt_place.bind ?_
  rintro stop s₃ - - ⟨rfl, rfl⟩
  exact Rule.takesAt_pure (by simpa using ha)

instance (test : Token → Bool) : (tokenIf test).Keeps :=
  Rule.keeps_of_takesAt fun _ => takesAt_tokenIf test

instance : atEnd.Keeps := by
  refine ⟨fun s => Rule.takesAt_of_stay fun r hr => ?_⟩
  simp only [atEnd] at hr
  split at hr <;> cases hr
  exact ⟨rfl, rfl, trivial⟩

instance (text : String) : (sign text).Keeps := by
  unfold sign
  infer_instance

instance (texts : List String) : (signIn texts).Keeps := by
  unfold signIn
  infer_instance

instance (text : String) : (tightSign text).Keeps := by
  unfold tightSign
  infer_instance

instance (text : String) : (keyword text).Keeps := by
  unfold keyword
  infer_instance

instance (texts : List String) : (keywordIn texts).Keeps := by
  unfold keywordIn
  infer_instance

instance (refused : List String) : (wordExcept refused).Keeps := by
  unfold wordExcept
  infer_instance

instance : word.Keeps := inferInstanceAs (wordExcept []).Keeps

instance (kind : TokenKind) : (ofKind kind).Keeps := by
  unfold ofKind
  infer_instance

instance {p : JavaRule α} [p.Keeps] : (withText p).Keeps := by
  unfold withText
  infer_instance

instance {p : JavaRule α} [p.Keeps] : (commaList1 p).Keeps := by
  unfold commaList1
  infer_instance

instance {p : JavaRule α} [p.Keeps] : (commaList p).Keeps := by
  unfold commaList
  infer_instance

instance {p : JavaRule α} [p.Keeps] : (parenthesized p).Keeps := by
  unfold parenthesized
  infer_instance

end ServiceAtlas.Java
