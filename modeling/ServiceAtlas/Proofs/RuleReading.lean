import ServiceAtlas.Outline.Rule

/-!
What a rule does at a place. `Reads` and `Fails` say how a rule ends there, with one lemma for each
way in which a combinator can get to that end, so that the reading of a known text is followed rule
by rule. `Needs` is for all places at once: a condition without which the rule cannot be read,
mostly on what stands next.
-/

namespace ServiceAtlas.Rule

variable {σ δ α β γ : Type} [Place σ]

/-- At `s` the rule reads `a`, finds `ds` and stops at `s'`. -/
def Reads (p : Rule σ δ α) (s : σ) (a : α) (ds : List (Located δ)) (s' : σ) : Prop :=
  p.read s = some ⟨a, ds, s'⟩

/-- The rule cannot be read at `s`. -/
def Fails (p : Rule σ δ α) (s : σ) : Prop := p.read s = none

/-- The rule can be read only where `F` holds. -/
def Needs (p : Rule σ δ α) (F : σ → Prop) : Prop := ∀ s, ¬ F s → p.Fails s

variable {p : Rule σ δ α} {f : α → Rule σ δ β} {s s' s'' : σ} {a : α} {b : β}
  {ds es : List (Located δ)}

/-! ### Sequences -/

theorem reads_pure (a : α) (s : σ) : (Pure.pure a : Rule σ δ α).Reads s a [] s := rfl

theorem Reads.bind (hp : p.Reads s a ds s') (hf : (f a).Reads s' b es s'') :
    (p >>= f).Reads s b (ds ++ es) s'' := by
  show (Rule.bind p f).read s = _
  simp only [Rule.bind, show p.read s = _ from hp, show (f a).read s' = _ from hf]

/-- The first rule finds nothing. -/
theorem Reads.next (hp : p.Reads s a [] s') (hf : (f a).Reads s' b es s'') :
    (p >>= f).Reads s b es s'' :=
  Reads.bind hp hf

/-- What follows the first rule finds nothing. -/
theorem Reads.last (hp : p.Reads s a ds s') (hf : (f a).Reads s' b [] s'') :
    (p >>= f).Reads s b ds s'' := by
  have h := Reads.bind hp hf
  rwa [List.append_nil] at h

theorem Fails.bind (hp : p.Fails s) : (p >>= f).Fails s := by
  show (Rule.bind p f).read s = _
  simp only [Rule.bind, show p.read s = _ from hp]

theorem Reads.bind_fails (hp : p.Reads s a ds s') (hf : (f a).Fails s') : (p >>= f).Fails s := by
  show (Rule.bind p f).read s = _
  simp only [Rule.bind, show p.read s = _ from hp, show (f a).read s' = _ from hf]

/-- Behind a rule that finds nothing, reading goes on with what follows it. -/
theorem Reads.read_bind (hp : p.Reads s a [] s') : (p >>= f).read s = (f a).read s' := by
  show (Rule.bind p f).read s = _
  simp only [Rule.bind, show p.read s = _ from hp, List.nil_append]
  cases (f a).read s' <;> rfl

theorem Reads.delay {p : Unit → Rule σ δ α} (h : (p ()).Reads s a ds s') :
    (Rule.delay p).Reads s a ds s' := h

theorem Reads.skip (hp : p.Reads s a ds s') : p.skip.Reads s () ds s' :=
  Reads.last hp (reads_pure () s')

theorem Fails.delay {p : Unit → Rule σ δ α} (h : (p ()).Fails s) : (Rule.delay p).Fails s := h

theorem Fails.skip (hp : p.Fails s) : p.skip.Fails s := Fails.bind hp

theorem Reads.between {left : Rule σ δ β} {right : Rule σ δ γ} {c : γ} {s₁ s₂ s₃ : σ}
    (hl : left.Reads s b [] s₁) (hp : p.Reads s₁ a ds s₂) (hr : right.Reads s₂ c [] s₃) :
    (Rule.between left right p).Reads s a ds s₃ :=
  Reads.next hl (Reads.last hp (Reads.next hr (reads_pure a s₃)))

theorem Fails.between {left : Rule σ δ β} {right : Rule σ δ γ} (hl : left.Fails s) :
    (Rule.between left right p).Fails s := Fails.bind hl

/-! ### Choices -/

section Choice

variable {q : Unit → Rule σ δ α} {ps : List (Rule σ δ α)}

theorem Reads.orElse (hp : p.Reads s a ds s') : (Rule.orElse p q).Reads s a ds s' := by
  simp only [Reads, Rule.orElse, show p.read s = _ from hp]

theorem Fails.orElse_reads (hp : p.Fails s) (hq : (q ()).Reads s a ds s') :
    (Rule.orElse p q).Reads s a ds s' := by
  simp only [Reads, Rule.orElse, show p.read s = _ from hp]
  exact hq

theorem Fails.orElse (hp : p.Fails s) (hq : (q ()).Fails s) : (Rule.orElse p q).Fails s := by
  simp only [Fails, Rule.orElse, show p.read s = _ from hp]
  exact hq

theorem Reads.firstOf (hp : p.Reads s a ds s') : (Rule.firstOf (p :: ps)).Reads s a ds s' :=
  Reads.orElse hp

theorem Fails.firstOf_reads (hp : p.Fails s) (h : (Rule.firstOf ps).Reads s a ds s') :
    (Rule.firstOf (p :: ps)).Reads s a ds s' :=
  Fails.orElse_reads hp h

theorem fails_firstOf_nil : (Rule.firstOf [] : Rule σ δ α).Fails s := rfl

theorem Fails.firstOf (hp : p.Fails s) (h : (Rule.firstOf ps).Fails s) :
    (Rule.firstOf (p :: ps)).Fails s :=
  Fails.orElse hp h

theorem fails_firstOf (h : ∀ p ∈ ps, p.Fails s) : (Rule.firstOf ps).Fails s := by
  induction ps with
  | nil => exact fails_firstOf_nil
  | cons p ps ih =>
    obtain ⟨hfirst, hrest⟩ := List.forall_mem_cons.1 h
    exact hfirst.firstOf (ih hrest)

/-- The rules before those that matter all fail. -/
theorem Reads.firstOf_append {qs : List (Rule σ δ α)} (hp : ∀ p ∈ ps, p.Fails s)
    (h : (Rule.firstOf qs).Reads s a ds s') : (Rule.firstOf (ps ++ qs)).Reads s a ds s' := by
  induction ps with
  | nil => exact h
  | cons p ps ih =>
    obtain ⟨hfirst, hrest⟩ := List.forall_mem_cons.1 hp
    exact hfirst.firstOf_reads (ih hrest)

theorem read_orElse_of_fails (hq : (q ()).Fails s) : (Rule.orElse p q).read s = p.read s := by
  simp only [Rule.orElse, show (q ()).read s = none from hq]
  cases p.read s <;> rfl

theorem Fails.read_orElse (hp : p.Fails s) : (Rule.orElse p q).read s = (q ()).read s := by
  simp only [Rule.orElse, show p.read s = none from hp]

theorem Reads.optional (hp : p.Reads s a ds s') : p.optional.Reads s (some a) ds s' :=
  Reads.orElse (Reads.last hp (reads_pure (some a) s'))

theorem Fails.optional (hp : p.Fails s) : p.optional.Reads s none [] s :=
  Fails.orElse_reads (Fails.bind hp) (reads_pure none s)

theorem Fails.accepts (hp : p.Fails s) : p.accepts.Reads s false [] s :=
  Fails.orElse_reads (Fails.bind hp) (reads_pure false s)

end Choice

/-! ### Tests and places -/

theorem reads_require {c : Bool} (h : c = true) :
    (Rule.require c : Rule σ δ Unit).Reads s () [] s := by
  rw [h]; rfl

theorem fails_require {c : Bool} (h : c = false) : (Rule.require c : Rule σ δ Unit).Fails s := by
  rw [h]; rfl

theorem Fails.ahead (hp : p.Fails s) : p.ahead.Fails s := by
  simp [Fails, Rule.ahead, show p.read s = _ from hp]

theorem Fails.absent (hp : p.Fails s) : p.absent.Reads s () [] s := by
  simp [Reads, Rule.absent, show p.read s = _ from hp]

theorem Reads.absent (hp : p.Reads s a ds s') : p.absent.Fails s := by
  simp [Fails, Rule.absent, show p.read s = _ from hp]

theorem reads_place (s : σ) : (Rule.place : Rule σ δ σ).Reads s s [] s := rfl

/-! ### Declarations -/

section Declare

variable {d : Rule σ δ (Option δ)} {item : δ}

theorem Reads.declare (h : d.Reads s (some item) ds s') :
    (Rule.declare d).Reads s () (⟨Place.line s, item⟩ :: ds) s' := by
  simp [Reads, Rule.declare, show d.read s = _ from h]

/-- What is declared is decided by where the reading begins and by what is read. -/
theorem read_declare_congr {d' : Rule σ δ (Option δ)} (hread : d.read s = d'.read s')
    (hline : Place.line s = Place.line s') : d.declare.read s = d'.declare.read s' := by
  simp only [Rule.declare, hread, hline]

theorem Fails.declare (h : d.Fails s) : (Rule.declare d).Fails s := by
  simp [Fails, Rule.declare, show d.read s = _ from h]

end Declare

/-! ### Repetition -/

section Repetition

variable {step : α → Rule σ δ α} {a' : α}

theorem reads_extend_stop (h : (step a).Fails s) : (Rule.extend step a).Reads s a [] s := by
  simp [Reads, Rule.extend, extendFrom.eq_1 step a s, show (step a).read s = _ from h]

theorem Reads.extend (h : (step a).Reads s a' ds s') (hlt : Place.size s' < Place.size s)
    {c : α} (hrest : (Rule.extend step a').Reads s' c es s'') :
    (Rule.extend step a).Reads s c (ds ++ es) s'' := by
  have hfrom : extendFrom step a' s' = ⟨c, es, s''⟩ := Option.some.inj hrest
  simp [Reads, Rule.extend, extendFrom.eq_1 step a s, show (step a).read s = _ from h, hlt, hfrom]

/-- One more item in front of those gathered so far. -/
private def gather (p : Rule σ δ α) (acc : List α) : Rule σ δ (List α) :=
  p >>= fun a => Rule.pure (a :: acc)

private theorem read_gather (p : Rule σ δ α) (acc : List α) (s : σ) :
    (gather p acc).read s = (p.read s).map fun r => ⟨r.value :: acc, r.found, r.rest⟩ := by
  show (Rule.bind p fun a => Rule.pure (a :: acc)).read s = _
  simp only [Rule.bind, Rule.pure, List.append_nil]
  cases p.read s <;> rfl

/-- What was gathered before has no influence on how the reading goes on. -/
private theorem extendFrom_gather (p : Rule σ δ α) (as before : List α) (s : σ) :
    extendFrom (gather p) (as ++ before) s =
      ⟨(extendFrom (gather p) as s).value ++ before, (extendFrom (gather p) as s).found,
        (extendFrom (gather p) as s).rest⟩ := by
  induction hn : Place.size s using Nat.strongRecOn generalizing as s with
  | _ n ih =>
    rw [extendFrom.eq_1 _ (as ++ before) s, extendFrom.eq_1 _ as s, read_gather, read_gather]
    cases p.read s with
    | none => rfl
    | some r =>
      simp only [Option.map_some]
      by_cases hlt : Place.size r.rest < Place.size s
      · have h := ih _ (hn ▸ hlt) (r.value :: as) r.rest rfl
        rw [List.cons_append] at h
        simp only [hlt, if_true, h]
      · simp only [hlt, if_false]

private theorem read_many (p : Rule σ δ α) (s : σ) :
    p.many.read s = some ⟨(extendFrom (gather p) [] s).value.reverse,
      (extendFrom (gather p) [] s).found, (extendFrom (gather p) [] s).rest⟩ := by
  show some (Reading.mk _ (_ ++ []) _) = _
  rw [List.append_nil]
  rfl

theorem Fails.many (h : p.Fails s) : p.many.Reads s [] [] s :=
  Reads.next (reads_extend_stop (Fails.bind h)) (reads_pure [] s)

theorem Reads.many {as : List α} (h : p.Reads s a ds s') (hlt : Place.size s' < Place.size s)
    (hrest : p.many.Reads s' as es s'') : p.many.Reads s (a :: as) (ds ++ es) s'' := by
  have hstep : (gather p []).read s = some ⟨[a], ds, s'⟩ := by
    rw [read_gather, show p.read s = _ from h]
    rfl
  have hgather := extendFrom_gather p [] [a] s'
  rw [Reads, read_many, Option.some.injEq, Reading.mk.injEq] at hrest
  obtain ⟨rfl, rfl, rfl⟩ := hrest
  rw [Reads, read_many, extendFrom.eq_1, hstep]
  rw [List.nil_append] at hgather
  simp only [hlt, if_true, hgather, List.reverse_append, List.reverse_singleton,
    List.singleton_append]

theorem Reads.sepBy1 {sep : Rule σ δ β} {as : List α} (hp : p.Reads s a ds s')
    (hrest : (Rule.many (sep >>= fun _ => p)).Reads s' as es s'') :
    (Rule.sepBy1 p sep).Reads s (a :: as) (ds ++ es) s'' :=
  Reads.bind hp (Reads.last hrest (reads_pure (a :: as) s''))

theorem Reads.sepBy {sep : Rule σ δ β} {as : List α} (h : (Rule.sepBy1 p sep).Reads s as ds s') :
    (Rule.sepBy p sep).Reads s as ds s' := Reads.orElse h

theorem Fails.sepBy {sep : Rule σ δ β} (hp : p.Fails s) : (Rule.sepBy p sep).Reads s [] [] s :=
  Fails.orElse_reads (Fails.bind hp) (reads_pure [] s)

end Repetition

/-! ### What a rule needs -/

section Needs

variable {F G : σ → Prop} {q : Unit → Rule σ δ α} {ps : List (Rule σ δ α)}

theorem Needs.mono (h : p.Needs F) (hFG : ∀ s, F s → G s) : p.Needs G :=
  fun s hs => h s fun hF => hs (hFG s hF)

theorem Needs.bind (h : p.Needs F) : (p >>= f).Needs F := fun s hs => Fails.bind (h s hs)

theorem Needs.delay {p : Unit → Rule σ δ α} (h : (p ()).Needs F) : (Rule.delay p).Needs F := h

theorem Needs.skip (h : p.Needs F) : p.skip.Needs F := h.bind

theorem Needs.between {left : Rule σ δ β} {right : Rule σ δ γ} (h : left.Needs F) :
    (Rule.between left right p).Needs F := h.bind

theorem Needs.orElse (hp : p.Needs F) (hq : (q ()).Needs F) : (Rule.orElse p q).Needs F :=
  fun s hs => Fails.orElse (hp s hs) (hq s hs)

theorem needs_firstOf_nil : (Rule.firstOf [] : Rule σ δ α).Needs F := fun _ _ => fails_firstOf_nil

theorem Needs.firstOf (hp : p.Needs F) (h : (Rule.firstOf ps).Needs F) :
    (Rule.firstOf (p :: ps)).Needs F := hp.orElse h

theorem needs_firstOf (h : ∀ p ∈ ps, p.Needs F) : (Rule.firstOf ps).Needs F :=
  fun s hs => fails_firstOf fun p hp => h p hp s hs

theorem Needs.declare {d : Rule σ δ (Option δ)} (h : d.Needs F) : (Rule.declare d).Needs F :=
  fun s hs => Fails.declare (h s hs)

/-- A rule that may be passed over needs no more than what follows it. -/
theorem Needs.optional_bind {f : Option α → Rule σ δ β} (hp : p.Needs F) (hf : (f none).Needs F) :
    (p.optional >>= f).Needs F :=
  fun s hs => Reads.bind_fails (Fails.optional (hp s hs)) (hf s hs)

theorem Needs.many_bind {f : List α → Rule σ δ β} (hp : p.Needs F) (hf : (f []).Needs F) :
    (p.many >>= f).Needs F :=
  fun s hs => Reads.bind_fails (Fails.many (hp s hs)) (hf s hs)

theorem needs_place_bind {f : σ → Rule σ δ β} (h : ∀ s, (f s).Needs F) :
    ((Rule.place : Rule σ δ σ) >>= f).Needs F :=
  fun s hs => Reads.bind_fails (reads_place s) (h s s hs)

theorem needs_require_bind {c : Bool} {f : Unit → Rule σ δ β} (h : (f ()).Needs F) :
    ((Rule.require c : Rule σ δ Unit) >>= f).Needs F := by
  intro s hs
  cases c with
  | false => exact Fails.bind (fails_require rfl)
  | true => exact Reads.bind_fails (reads_require rfl) (h s hs)

/-- A test of what comes next does not move. -/
theorem needs_absent_bind {f : Unit → Rule σ δ β} (p : Rule σ δ α) (h : (f ()).Needs F) :
    (p.absent >>= f).Needs F := by
  intro s hs
  cases hp : p.read s with
  | none => exact Reads.bind_fails (Fails.absent hp) (h s hs)
  | some r => exact Fails.bind (Reads.absent (show p.Reads s r.value r.found r.rest from hp))

end Needs

end ServiceAtlas.Rule
