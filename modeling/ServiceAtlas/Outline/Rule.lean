/-!
Rules for reading a source from front to back while noting the declarations in it. A rule either
fails or gives a value, the declarations found on the way and the place where it stopped. Every rule
carries the proof that it never moves back, that it stays within the lines of the source and that what
it found stands in the order of the source (`Ordered`), so that the grammars built from rules need no
further argument for it.
-/

namespace ServiceAtlas

/-- A place in a source: the line on which what follows begins, how much is left to read, and the line
on which that ends. -/
class Place (σ : Type) where
  line : σ → Nat
  size : σ → Nat
  lastLine : σ → Nat
  line_le_lastLine : ∀ s, line s ≤ lastLine s

/-- Something declared in a source, with the line on which its declaration begins. -/
structure Located (δ : Type) where
  line : Nat
  item : δ
  deriving DecidableEq, Repr

/-- Reading moved from `s` to `s'` and found the declarations `found`. -/
structure Ordered {σ δ : Type} [Place σ] (s : σ) (found : List (Located δ)) (s' : σ) : Prop where
  size_le : Place.size s' ≤ Place.size s
  line_le : Place.line s ≤ Place.line s'
  lastLine_eq : Place.lastLine s' = Place.lastLine s
  sorted : (found.map Located.line).Pairwise (· ≤ ·)
  within : ∀ d ∈ found, Place.line s ≤ d.line ∧ d.line ≤ Place.line s'

namespace Ordered

variable {σ δ : Type} [Place σ] {s s' s'' : σ} {ds es : List (Located δ)}

theorem stay (s : σ) : Ordered (δ := δ) s [] s :=
  ⟨Nat.le_refl _, Nat.le_refl _, rfl, .nil, by simp⟩

theorem append (h : Ordered s ds s') (h' : Ordered s' es s'') : Ordered s (ds ++ es) s'' where
  size_le := Nat.le_trans h'.size_le h.size_le
  line_le := Nat.le_trans h.line_le h'.line_le
  lastLine_eq := h'.lastLine_eq.trans h.lastLine_eq
  sorted := by
    rw [List.map_append, List.pairwise_append]
    refine ⟨h.sorted, h'.sorted, ?_⟩
    intro a ha b hb
    obtain ⟨d, hd, rfl⟩ := List.mem_map.1 ha
    obtain ⟨e, he, rfl⟩ := List.mem_map.1 hb
    exact Nat.le_trans (h.within d hd).2 (h'.within e he).1
  within d hd := by
    rcases List.mem_append.1 hd with hd | hd
    · exact ⟨(h.within d hd).1, Nat.le_trans (h.within d hd).2 h'.line_le⟩
    · exact ⟨Nat.le_trans h.line_le (h'.within d hd).1, (h'.within d hd).2⟩

theorem cons (h : Ordered s ds s') (item : δ) :
    Ordered s (⟨Place.line s, item⟩ :: ds) s' where
  size_le := h.size_le
  line_le := h.line_le
  lastLine_eq := h.lastLine_eq
  sorted := by
    rw [List.map_cons, List.pairwise_cons]
    refine ⟨?_, h.sorted⟩
    intro a ha
    obtain ⟨d, hd, rfl⟩ := List.mem_map.1 ha
    exact (h.within d hd).1
  within d hd := by
    rcases List.mem_cons.1 hd with rfl | hd
    · exact ⟨Nat.le_refl _, h.line_le⟩
    · exact h.within d hd

end Ordered

/-- What a rule gives back. -/
structure Reading (σ δ α : Type) where
  value : α
  found : List (Located δ)
  rest : σ

structure Rule (σ δ : Type) [Place σ] (α : Type) where
  read : σ → Option (Reading σ δ α)
  ordered : ∀ {s r}, read s = some r → Ordered s r.found r.rest

namespace Rule

variable {σ δ α β γ : Type} [Place σ]

def pure (a : α) : Rule σ δ α where
  read s := some ⟨a, [], s⟩
  ordered h := by cases h; exact .stay _

def fail : Rule σ δ α where
  read _ := none
  ordered h := by cases h

def bind (p : Rule σ δ α) (f : α → Rule σ δ β) : Rule σ δ β where
  read s :=
    match p.read s with
    | none => none
    | some r =>
      match (f r.value).read r.rest with
      | none => none
      | some t => some ⟨t.value, r.found ++ t.found, t.rest⟩
  ordered {s r} h := by
    split at h
    · cases h
    · rename_i u hu
      split at h
      · cases h
      · rename_i t ht
        cases h
        exact (p.ordered hu).append ((f u.value).ordered ht)

instance : Monad (Rule σ δ) where
  pure := pure
  bind := bind

/-- The first rule, or the second where the first fails. -/
def orElse (p : Rule σ δ α) (q : Unit → Rule σ δ α) : Rule σ δ α where
  read s :=
    match p.read s with
    | some r => some r
    | none => (q ()).read s
  ordered {s r} h := by
    split at h
    · rename_i u hu
      cases h
      exact p.ordered hu
    · exact (q ()).ordered h

instance : OrElse (Rule σ δ α) := ⟨orElse⟩

/-- The same rule, built only when it is read with. -/
def delay (p : Unit → Rule σ δ α) : Rule σ δ α where
  read s := (p ()).read s
  ordered h := (p ()).ordered h

def optional (p : Rule σ δ α) : Rule σ δ (Option α) :=
  orElse (p >>= fun a => pure (some a)) fun _ => pure none

/-- Whether the rule could be read; where it could, it is. -/
def accepts (p : Rule σ δ α) : Rule σ δ Bool :=
  orElse (p >>= fun _ => pure true) fun _ => pure false

def skip (p : Rule σ δ α) : Rule σ δ Unit := p >>= fun _ => pure ()

/-- The first of the rules that can be read. -/
def firstOf : List (Rule σ δ α) → Rule σ δ α
  | [] => fail
  | p :: ps => orElse p fun _ => firstOf ps

/-- Succeeds where the rule could be read, without moving. -/
def ahead (p : Rule σ δ α) : Rule σ δ Unit where
  read s := if (p.read s).isSome then some ⟨(), [], s⟩ else none
  ordered {s r} h := by
    split at h
    · cases h; exact .stay _
    · cases h

/-- Succeeds where the rule could not be read, without moving. -/
def absent (p : Rule σ δ α) : Rule σ δ Unit where
  read s := if (p.read s).isSome then none else some ⟨(), [], s⟩
  ordered {s r} h := by
    split at h
    · cases h
    · cases h; exact .stay _

/-- Goes on only if the condition holds. -/
def require (b : Bool) : Rule σ δ Unit := if b then pure () else fail

/-- The place where reading stands. -/
def place : Rule σ δ σ where
  read s := some ⟨s, [], s⟩
  ordered h := by cases h; exact .stay _

/-- Notes the declaration that the rule gives, if it gives one, before all that is found inside. -/
def declare (p : Rule σ δ (Option δ)) : Rule σ δ Unit where
  read s :=
    match p.read s with
    | none => none
    | some r =>
      match r.value with
      | none => some ⟨(), r.found, r.rest⟩
      | some d => some ⟨(), ⟨Place.line s, d⟩ :: r.found, r.rest⟩
  ordered {s r} h := by
    split at h
    · cases h
    · rename_i u hu
      split at h
      · cases h; exact p.ordered hu
      · cases h; exact (p.ordered hu).cons _

/-- Reads on from a value for as long as the step can be read and moves. -/
def extendFrom (step : α → Rule σ δ α) (a : α) (s : σ) : Reading σ δ α :=
  match (step a).read s with
  | none => ⟨a, [], s⟩
  | some r =>
    if Place.size r.rest < Place.size s then
      let t := extendFrom step r.value r.rest
      ⟨t.value, r.found ++ t.found, t.rest⟩
    else ⟨a, [], s⟩
termination_by Place.size s

private theorem ordered_extendFrom (step : α → Rule σ δ α) (a : α) (s : σ) :
    Ordered s (extendFrom step a s).found (extendFrom step a s).rest := by
  fun_induction extendFrom step a s with
  | case1 a s _ => exact .stay s
  | case2 a s r hr _ t ih => exact ((step a).ordered hr).append ih
  | case3 a s _ _ _ => exact .stay s

def extend (step : α → Rule σ δ α) (a : α) : Rule σ δ α where
  read s := some (extendFrom step a s)
  ordered h := by cases h; exact ordered_extendFrom step a _

/-- The rule, as often as it can be read and moves. -/
def many (p : Rule σ δ α) : Rule σ δ (List α) :=
  extend (fun acc => p >>= fun a => pure (a :: acc)) [] >>= fun acc => pure acc.reverse

def many1 (p : Rule σ δ α) : Rule σ δ (List α) :=
  p >>= fun a => many p >>= fun as => pure (a :: as)

/-- One or more, with the separator between them. -/
def sepBy1 (p : Rule σ δ α) (sep : Rule σ δ β) : Rule σ δ (List α) :=
  p >>= fun a => many (sep >>= fun _ => p) >>= fun as => pure (a :: as)

/-- Any number, with the separator between them. -/
def sepBy (p : Rule σ δ α) (sep : Rule σ δ β) : Rule σ δ (List α) :=
  orElse (sepBy1 p sep) fun _ => pure []

def between (left : Rule σ δ α) (right : Rule σ δ β) (p : Rule σ δ γ) : Rule σ δ γ :=
  left >>= fun _ => p >>= fun a => right >>= fun _ => pure a

end Rule

end ServiceAtlas
