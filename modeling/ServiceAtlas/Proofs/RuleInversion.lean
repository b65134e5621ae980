import ServiceAtlas.Proofs.RuleReading
import Mathlib.Logic.Relation

/-!
How a reading came about. `Spans` is `Reads` without what is found. Its lemmas go from the reading of
a combinator to the readings of its parts, so that the parts of a text can be told from the rule that
read it: one after the other (`Runs`), or each on from the value before it (`Extends`).
-/

namespace ServiceAtlas.Rule

variable {σ δ α β : Type} [Place σ]

/-- From `s` to `s'` the rule reads `a`. -/
def Spans (p : Rule σ δ α) (s : σ) (a : α) (s' : σ) : Prop := ∃ ds, p.Reads s a ds s'

variable {p : Rule σ δ α} {f : α → Rule σ δ β} {s s' s'' : σ} {a a' : α} {b : β}

theorem Spans.size_le (h : p.Spans s a s') : Place.size s' ≤ Place.size s := by
  obtain ⟨ds, h⟩ := h
  exact (p.ordered h).size_le

/-- A rule reads one thing at a place. -/
theorem Spans.unique (h : p.Spans s a s') (h' : p.Spans s a' s'') : a = a' ∧ s' = s'' := by
  obtain ⟨ds, h⟩ := h
  obtain ⟨es, h'⟩ := h'
  have heq : some (Reading.mk a ds s') = some ⟨a', es, s''⟩ := by rw [← h, ← h']
  cases heq
  exact ⟨rfl, rfl⟩

theorem Fails.not_spans (h : p.Fails s) : ¬ p.Spans s a s' := by
  rintro ⟨ds, hreads⟩
  rw [Reads, show p.read s = none from h] at hreads
  cases hreads

theorem fails_or_spans (p : Rule σ δ α) (s : σ) : p.Fails s ∨ ∃ a s', p.Spans s a s' := by
  cases h : p.read s with
  | none => exact .inl h
  | some r => exact .inr ⟨r.value, r.rest, r.found, h⟩

/-- What a rule needs holds where it is read. -/
theorem Spans.needed {F : σ → Prop} (h : p.Spans s a s') (hp : p.Needs F) : F s := by
  refine Classical.byContradiction fun hF => ?_
  exact (hp s hF).not_spans h

/-! ### Sequences -/

theorem spans_pure_iff : (Pure.pure a : Rule σ δ α).Spans s a' s' ↔ a' = a ∧ s' = s := by
  constructor
  · rintro ⟨ds, h⟩
    cases h
    exact ⟨rfl, rfl⟩
  · rintro ⟨rfl, rfl⟩
    exact ⟨[], reads_pure _ _⟩

theorem spans_bind_iff :
    (p >>= f).Spans s b s'' ↔ ∃ a s', p.Spans s a s' ∧ (f a).Spans s' b s'' := by
  constructor
  · rintro ⟨ds, h⟩
    rcases fails_or_spans p s with hp | ⟨a, s', es, hp⟩
    · exact absurd ⟨ds, h⟩ hp.bind.not_spans
    · rcases fails_or_spans (f a) s' with hf | ⟨b', t, fs, hf⟩
      · exact absurd ⟨ds, h⟩ (hp.bind_fails hf).not_spans
      · obtain ⟨rfl, rfl⟩ := Spans.unique ⟨ds, h⟩ ⟨_, hp.bind hf⟩
        exact ⟨a, s', ⟨es, hp⟩, fs, hf⟩
  · rintro ⟨a, s', ⟨ds, hp⟩, es, hf⟩
    exact ⟨ds ++ es, hp.bind hf⟩

theorem spans_skip_iff {u : Unit} : p.skip.Spans s u s' ↔ ∃ a, p.Spans s a s' := by
  rw [skip, spans_bind_iff]
  constructor
  · rintro ⟨a, t, hp, ⟨ds, h⟩⟩
    cases h
    exact ⟨a, hp⟩
  · rintro ⟨a, hp⟩
    exact ⟨a, s', hp, [], rfl⟩

theorem not_spans_fail : ¬ (Rule.fail : Rule σ δ α).Spans s a s' := Fails.not_spans rfl

/-! ### Tests and places -/

theorem spans_require_iff {c : Bool} {u : Unit} :
    (Rule.require c : Rule σ δ Unit).Spans s u s' ↔ c = true ∧ s' = s := by
  constructor
  · rintro h
    cases c with
    | false => exact absurd h (fails_require rfl).not_spans
    | true => exact ⟨rfl, (Spans.unique h ⟨[], reads_require rfl⟩).2⟩
  · rintro ⟨rfl, rfl⟩
    exact ⟨[], reads_require rfl⟩

theorem spans_place_iff {t : σ} :
    (Rule.place : Rule σ δ σ).Spans s t s' ↔ t = s ∧ s' = s := by
  constructor
  · intro h
    exact Spans.unique h ⟨[], reads_place s⟩
  · rintro ⟨rfl, rfl⟩
    exact ⟨[], reads_place _⟩

/-! ### Choices -/

section Choice

variable {q : Unit → Rule σ δ α} {ps : List (Rule σ δ α)}

theorem spans_orElse_iff : (Rule.orElse p q).Spans s a s' ↔
    p.Spans s a s' ∨ p.Fails s ∧ (q ()).Spans s a s' := by
  constructor
  · intro h
    rcases fails_or_spans p s with hp | ⟨b, t, ds, hp⟩
    · rcases fails_or_spans (q ()) s with hq | ⟨b, t, ds, hq⟩
      · exact absurd h (hp.orElse hq).not_spans
      · obtain ⟨rfl, rfl⟩ := h.unique ⟨ds, hp.orElse_reads hq⟩
        exact .inr ⟨hp, ds, hq⟩
    · obtain ⟨rfl, rfl⟩ := h.unique ⟨ds, hp.orElse⟩
      exact .inl ⟨ds, hp⟩
  · rintro (⟨ds, hp⟩ | ⟨hp, ds, hq⟩)
    · exact ⟨ds, hp.orElse⟩
    · exact ⟨ds, hp.orElse_reads hq⟩

theorem not_spans_firstOf_nil : ¬ (Rule.firstOf [] : Rule σ δ α).Spans s a s' :=
  fails_firstOf_nil.not_spans

theorem spans_firstOf_cons_iff : (Rule.firstOf (p :: ps)).Spans s a s' ↔
    p.Spans s a s' ∨ p.Fails s ∧ (Rule.firstOf ps).Spans s a s' := spans_orElse_iff

theorem spans_optional_iff {o : Option α} : p.optional.Spans s o s' ↔
    (∃ a, o = some a ∧ p.Spans s a s') ∨ p.Fails s ∧ o = none ∧ s' = s := by
  constructor
  · intro h
    rcases fails_or_spans p s with hp | ⟨a, t, ds, hp⟩
    · obtain ⟨rfl, rfl⟩ := h.unique ⟨[], hp.optional⟩
      exact .inr ⟨hp, rfl, rfl⟩
    · obtain ⟨rfl, rfl⟩ := h.unique ⟨ds, hp.optional⟩
      exact .inl ⟨a, rfl, ds, hp⟩
  · rintro (⟨a, rfl, ds, hp⟩ | ⟨hp, rfl, rfl⟩)
    · exact ⟨ds, hp.optional⟩
    · exact ⟨[], hp.optional⟩

theorem exists_spans_optional (p : Rule σ δ α) (s : σ) : ∃ o s', p.optional.Spans s o s' := by
  rcases fails_or_spans p s with hp | ⟨a, s', ds, hp⟩
  · exact ⟨none, s, [], hp.optional⟩
  · exact ⟨some a, s', ds, hp.optional⟩

theorem spans_accepts_iff {c : Bool} : p.accepts.Spans s c s' ↔
    (c = true ∧ ∃ a, p.Spans s a s') ∨ p.Fails s ∧ c = false ∧ s' = s := by
  constructor
  · intro h
    rcases spans_orElse_iff.1 h with h | ⟨hp, ds, h⟩
    · obtain ⟨a, t, hp, ds, h⟩ := spans_bind_iff.1 h
      cases h
      exact .inl ⟨rfl, a, hp⟩
    · cases h
      rcases fails_or_spans p s with hfails | ⟨a, t, es, hspans⟩
      · exact .inr ⟨hfails, rfl, rfl⟩
      · exact absurd ⟨es, hspans.last (reads_pure true t)⟩ hp.not_spans
  · rintro (⟨rfl, a, ds, hp⟩ | ⟨hp, rfl, rfl⟩)
    · exact spans_orElse_iff.2 (.inl ⟨ds, hp.last (reads_pure true s')⟩)
    · exact spans_orElse_iff.2 (.inr ⟨hp.bind, [], reads_pure false _⟩)

/-- Where one rule may be left out, a rule that reads the same texts is accepted or not. -/
theorem Spans.exists_accepts {q : Rule σ δ β} {o : Option α} (h : p.optional.Spans s o s')
    (hpq : ∀ s', (∃ a, p.Spans s a s') ↔ ∃ b, q.Spans s b s') : ∃ c, q.accepts.Spans s c s' := by
  rcases spans_optional_iff.1 h with ⟨a, -, hp⟩ | ⟨hp, -, rfl⟩
  · exact ⟨true, spans_accepts_iff.2 (.inl ⟨rfl, (hpq s').1 ⟨a, hp⟩⟩)⟩
  · rcases fails_or_spans q s' with hq | ⟨b, t, hq⟩
    · exact ⟨false, spans_accepts_iff.2 (.inr ⟨hq, rfl, rfl⟩)⟩
    · obtain ⟨a, hspans⟩ := (hpq t).2 ⟨b, hq⟩
      exact absurd hspans hp.not_spans

end Choice

/-! ### Repetition -/

/-- The step, read at the second of the one, leads to the other and moves. -/
def Extends (step : α → Rule σ δ α) (x y : α × σ) : Prop :=
  (step x.1).Spans x.2 y.1 y.2 ∧ Place.size y.2 < Place.size x.2

theorem Spans.extend_steps {step : α → Rule σ δ α} (h : (Rule.extend step a).Spans s a' s') :
    Relation.ReflTransGen (Extends step) (a, s) (a', s') := by
  obtain ⟨ds, h⟩ := h
  obtain ⟨rfl, rfl, rfl⟩ := Reading.mk.inj (Option.some.inj h)
  clear h
  fun_induction extendFrom step a s with
  | case1 a s hnone => exact .refl
  | case2 a s r hr hlt t ih =>
    have hstep : Extends step (a, s) (r.value, r.rest) := ⟨⟨r.found, hr⟩, hlt⟩
    exact .head hstep ih
  | case3 a s r hr hlt => exact .refl

theorem size_le_of_extends {step : α → Rule σ δ α} {x y : α × σ}
    (h : Relation.ReflTransGen (Extends step) x y) : Place.size y.2 ≤ Place.size x.2 := by
  induction h with
  | refl => exact Nat.le_refl _
  | tail _ hlast ih => exact Nat.le_trans (Nat.le_of_lt hlast.2) ih

/-- The rule, read time after time and moving each time. -/
inductive Runs (p : Rule σ δ α) : σ → List α → σ → Prop
  | nil (s : σ) : Runs p s [] s
  | cons {a : α} {as : List α} {s s' s'' : σ} (head : p.Spans s a s')
      (moves : Place.size s' < Place.size s) (tail : Runs p s' as s'') : Runs p s (a :: as) s''

theorem Runs.size_le {as : List α} (h : Runs p s as s') : Place.size s' ≤ Place.size s := by
  induction h with
  | nil => exact Nat.le_refl _
  | cons _ moves _ ih => exact Nat.le_trans ih (Nat.le_of_lt moves)

theorem Spans.many_runs {as : List α} (h : p.many.Spans s as s') : Runs p s as s' := by
  obtain ⟨acc, t, hsteps, hpure⟩ := spans_bind_iff.1 h
  obtain ⟨ds, hpure⟩ := hpure
  cases hpure
  -- what is gathered stands in front of what was gathered before, the last item first
  have hruns : ∀ x y : List α × σ,
      Relation.ReflTransGen (Extends fun acc => p >>= fun a => Rule.pure (a :: acc)) x y →
        ∃ as, y.1 = as.reverse ++ x.1 ∧ Runs p x.2 as y.2 := by
    intro x y hxy
    induction hxy using Relation.ReflTransGen.head_induction_on with
    | refl => exact ⟨[], rfl, .nil _⟩
    | head hfirst _ ih =>
      obtain ⟨hspans, hlt⟩ := hfirst
      obtain ⟨a, t, hp, ds, hcons⟩ := spans_bind_iff.1 hspans
      obtain ⟨heq, -, rfl⟩ := Reading.mk.inj (Option.some.inj hcons)
      obtain ⟨as, hgathered, hruns⟩ := ih
      exact ⟨a :: as, by rw [hgathered, ← heq]; simp, .cons hp hlt hruns⟩
  obtain ⟨as, hgathered, hruns⟩ := hruns _ _ hsteps.extend_steps
  obtain rfl : acc = as.reverse := by simpa using hgathered
  simpa using hruns

/-- Where the rule is read once, it is read once and then as often as it can be. -/
theorem Spans.many_of_head {as : List α} (h : p.many.Spans s as s'') (hp : p.Spans s a s')
    (hlt : Place.size s' < Place.size s) : ∃ bs, as = a :: bs ∧ p.many.Spans s' bs s'' := by
  obtain ⟨ds, hp⟩ := hp
  obtain hfails | ⟨bs, t, es, hrest⟩ := fails_or_spans p.many s'
  · cases hfails
  · obtain ⟨rfl, rfl⟩ := h.unique ⟨_, hp.many hlt hrest⟩
    exact ⟨bs, rfl, es, hrest⟩

end ServiceAtlas.Rule
