import Mathlib.Data.Option.Basic

/-!
Scanners, for the reading of printed texts. A scanner takes a text character by character; each
character moves it from one mode to another and may complete tokens. A text is followed piece by
piece: what a piece does is known once the mode is known in which it begins (`Scanner.run_append`).
-/

namespace ServiceAtlas

/-- What a character does in a mode, and which tokens the end of the text completes. -/
structure Scanner (μ τ : Type) where
  start : μ
  next : μ → Char → Option (List τ × μ)
  finish : μ → Option (List τ)

namespace Scanner

variable {μ τ : Type} (S : Scanner μ τ)

/-- The tokens that a piece of text completes, and the mode in which it ends. -/
def run : μ → List Char → Option (List τ × μ)
  | m, [] => some ([], m)
  | m, c :: cs => (S.next m c).bind fun r => (run r.2 cs).map fun q => (r.1 ++ q.1, q.2)

/-- The tokens of a text. -/
def tokens? (text : String) : Option (List τ) :=
  (S.run S.start text.toList).bind fun r => (S.finish r.2).map (r.1 ++ ·)

variable {S} {m m' m'' : μ} {c : Char} {cs ds : List Char} {ts us : List τ}

theorem run_cons (h : S.next m c = some (ts, m')) (h' : S.run m' cs = some (us, m'')) :
    S.run m (c :: cs) = some (ts ++ us, m'') := by
  rw [run, h, Option.bind_some, h']
  rfl

theorem run_append (h : S.run m cs = some (ts, m')) (h' : S.run m' ds = some (us, m'')) :
    S.run m (cs ++ ds) = some (ts ++ us, m'') := by
  induction cs generalizing m ts with
  | nil =>
    cases h
    exact h'
  | cons c cs ih =>
    obtain ⟨⟨first, mid⟩, hnext, hrest⟩ := Option.bind_eq_some_iff.1 h
    obtain ⟨⟨others, last⟩, hrun, heq⟩ := Option.map_eq_some_iff.1 hrest
    cases heq
    rw [List.append_assoc]
    exact run_cons hnext (ih hrun)

/-- Pieces that each begin and end in one mode: their tokens follow each other. -/
theorem run_pieces {α : Type} (piece : α → List Char) (found : α → List τ)
    (h : ∀ a, S.run m (piece a) = some (found a, m)) (as : List α) :
    S.run m (as.flatMap piece) = some (as.flatMap found, m) := by
  induction as with
  | nil => rfl
  | cons a as ih => exact run_append (h a) ih

/-- Inside a token, pieces that complete nothing: each adds what it stands for to the mode. -/
theorem run_flatMap {α : Type} (piece : α → List Char) (mode : List α → μ) {as : List α}
    (h : ∀ front, ∀ a ∈ as, S.run (mode front) (piece a) = some ([], mode (front ++ [a])))
    (front : List α) : S.run (mode front) (as.flatMap piece) = some ([], mode (front ++ as)) := by
  induction as generalizing front with
  | nil =>
    rw [List.append_nil]
    rfl
  | cons a as ih =>
    have hrest := ih (fun front b hb => h front b (List.mem_cons_of_mem a hb)) (front ++ [a])
    have hall := run_append (h front a List.mem_cons_self) hrest
    rwa [List.append_assoc, List.singleton_append, ← List.flatMap_cons] at hall

/-- A token of characters of one kind, of which the first opens it and each other makes it longer. -/
theorem run_chars {inside : Char → Bool} (mode : List Char → μ)
    (hfirst : ∀ c, inside c = true → S.next m c = some ([], mode [c]))
    (hmore : ∀ front c, inside c = true → S.next (mode front) c = some ([], mode (front ++ [c])))
    (hne : cs ≠ []) (hcs : ∀ c ∈ cs, inside c = true) : S.run m cs = some ([], mode cs) := by
  cases cs with
  | nil => exact (hne rfl).elim
  | cons c cs =>
    obtain ⟨hc, hcs⟩ := List.forall_mem_cons.1 hcs
    have hrest := run_flatMap (fun d => [d]) mode
      (fun front d hd => run_cons (hmore front d (hcs d hd)) rfl) [c]
    rw [List.flatMap_singleton'] at hrest
    exact run_cons (hfirst c hc) hrest

/-- A token that the character behind it completes. Apart from that, this character does what it does
in the mode in which the token begins. -/
theorem run_completed {inside : Char → Bool} {mid : μ} {t : τ} (hcs : S.run m cs = some ([], mid))
    (hend : ∀ c r, inside c = false → S.next m c = some r → S.next mid c = some (t :: r.1, r.2))
    (hds : (ds.head?.any fun c => !inside c) = true) (h : S.run m ds = some (us, m')) :
    S.run m (cs ++ ds) = some (t :: us, m') := by
  cases ds with
  | nil => cases hds
  | cons c ds =>
    have hc : inside c = false := by simpa using hds
    obtain ⟨⟨first, next⟩, hnext, hrun⟩ := Option.bind_eq_some_iff.1 h
    obtain ⟨⟨others, last⟩, hothers, heq⟩ := Option.map_eq_some_iff.1 hrun
    cases heq
    exact run_append hcs (run_cons (hend c (first, next) hc hnext) hothers)

theorem tokens?_eq {text : String} (h : S.run S.start text.toList = some (ts, m))
    (hm : S.finish m = some us) : S.tokens? text = some (ts ++ us) := by
  rw [tokens?, h, Option.bind_some, hm]
  rfl

end Scanner

end ServiceAtlas
