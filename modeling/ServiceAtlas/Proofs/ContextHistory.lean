import ServiceAtlas.Proofs.OrderedMapHistory
import ServiceAtlas.Service.Facts

/-!
The contexts of a scan after any history of steps. A step mentions a service, or adds an endpoint or an
entity under it; whatever the steps are, a service holds exactly what was added under its own name
(`Contexts.get?_foldl_add_eq`), each step leaves the contexts of the other services as they are
(`Contexts.filter_entries_add`), and nothing is lost or counted twice
(`Contexts.length_parts_foldl_add`).
-/

namespace ServiceAtlas

@[simp] theorem Facts.append_none (f : Facts) : f ++ Facts.none = f := by
  show Facts.append f .none = f
  simp [Facts.append, Facts.none]

@[simp] theorem Facts.none_append (f : Facts) : Facts.none ++ f = f := rfl

@[simp] theorem Facts.endpoints_append (f f' : Facts) :
    (f ++ f').endpoints = f.endpoints ++ f'.endpoints := rfl

@[simp] theorem Facts.entities_append (f f' : Facts) :
    (f ++ f').entities = f.entities ++ f'.entities := rfl

namespace Contexts

/-! ### One addition -/

section Addition

variable (c : Contexts) (service : String) (facts : Facts)

/-- What is added under one service leaves the contexts of the others, and their order. -/
theorem filter_entries_add :
    (c.add service facts).entries.filter (·.1 ≠ service) = c.entries.filter (·.1 ≠ service) := by
  by_cases hkey : service ∈ OrderedMap.keys c
  · obtain ⟨before, v, after, hentries, hadd⟩ :=
      OrderedMap.entries_alter_of_mem c hkey fun present => present.getD .none ++ facts
    rw [add, hadd, hentries]
    simp
  · rw [add, OrderedMap.entries_alter_of_not_mem c hkey]
    simp

/-- How many endpoints or entities there are grows by those that are added. -/
theorem length_parts_add {β : Type} {part : Facts → List β}
    (happend : ∀ f f', part (f ++ f') = part f ++ part f') :
    ((c.add service facts).entries.flatMap fun e => part e.2).length =
      (c.entries.flatMap fun e => part e.2).length + (part facts).length := by
  -- a known service keeps what it has in front of the new facts, a new one has only these
  by_cases hkey : service ∈ OrderedMap.keys c
  · obtain ⟨before, v, after, hentries, hadd⟩ :=
      OrderedMap.entries_alter_of_mem c hkey fun present => present.getD .none ++ facts
    rw [add, hadd, hentries]
    simp only [Option.getD_some, List.flatMap_append, List.flatMap_cons, happend,
      List.length_append]
    omega
  · rw [add, OrderedMap.entries_alter_of_not_mem c hkey]
    simp

/-- Lengths added up one after the other are the length of all the lists together. -/
theorem foldl_add_length {α β : Type} (part : α → List β) (entries : List (String × α)) (n : Nat) :
    (entries.map Prod.snd).foldl (fun n a => n + (part a).length) n =
      n + (entries.flatMap fun e => part e.2).length := by
  induction entries generalizing n with
  | nil => rfl
  | cons e entries ih =>
    rw [List.map_cons, List.foldl_cons, ih, List.flatMap_cons, List.length_append, Nat.add_assoc]

theorem totalEndpoints_eq :
    c.totalEndpoints = (c.entries.flatMap fun e => e.2.endpoints).length :=
  (foldl_add_length Facts.endpoints c.entries 0).trans (Nat.zero_add _)

theorem totalEntities_eq : c.totalEntities = (c.entries.flatMap fun e => e.2.entities).length :=
  (foldl_add_length Facts.entities c.entries 0).trans (Nat.zero_add _)

end Addition

/-! ### Facts added one after the other -/

section Additions

variable {α : Type} (service : α → String) (facts : α → Facts)

theorem keys_foldl_add (as : List α) :
    (as.foldl (fun c a => add c (service a) (facts a)) .empty).keys = (as.map service).eraseDups := by
  have hkeys := OrderedMap.keys_foldl_alter service (fun a present => present.getD .none ++ facts a)
    as .empty
  rw [OrderedMap.keys_empty, List.nil_append] at hkeys
  exact hkeys

private theorem foldl_append_facts (as : List α) (f : Facts) :
    as.foldl (fun v a => some (v.getD .none ++ facts a)) (some f) =
      some ⟨f.endpoints ++ as.flatMap fun a => (facts a).endpoints,
        f.entities ++ as.flatMap fun a => (facts a).entities⟩ := by
  induction as generalizing f with
  | nil => simp
  | cons a as ih =>
    rw [List.foldl_cons, Option.getD_some, ih]
    simp

/-- Under a service that facts were added to stand those facts, in their order; no other service is
there. -/
theorem get?_foldl_add_eq (as : List α) (name : String) :
    (as.foldl (fun c a => add c (service a) (facts a)) .empty).get? name =
      if name ∈ as.map service then
        some ⟨(as.filter fun a => service a = name).flatMap fun a => (facts a).endpoints,
          (as.filter fun a => service a = name).flatMap fun a => (facts a).entities⟩
      else none := by
  have hget := OrderedMap.get?_foldl_alter service (fun a present => present.getD .none ++ facts a)
    as .empty name
  unfold add
  rw [hget]
  cases hown : as.filter fun a => service a = name with
  | nil =>
    have habsent : name ∉ as.map service := by
      rw [List.mem_map]
      rintro ⟨a, ha, hname⟩
      exact List.filter_eq_nil_iff.1 hown a ha (decide_eq_true hname)
    rw [if_neg habsent]
    rfl
  | cons a own =>
    have ha : a ∈ as.filter fun a => service a = name := hown ▸ List.mem_cons_self
    obtain ⟨ha, hname⟩ := List.mem_filter.1 ha
    rw [if_pos (List.mem_map.2 ⟨a, ha, of_decide_eq_true hname⟩), List.foldl_cons,
      foldl_append_facts]
    simp

/-- After a history of additions there are as many endpoints or entities more as were added. -/
theorem length_parts_foldl_add {β : Type} {part : Facts → List β}
    (happend : ∀ f f', part (f ++ f') = part f ++ part f') (as : List α) (c : Contexts) :
    ((as.foldl (fun c a => add c (service a) (facts a)) c).entries.flatMap fun e => part e.2).length =
      (c.entries.flatMap fun e => part e.2).length + (as.flatMap fun a => part (facts a)).length := by
  induction as generalizing c with
  | nil => rfl
  | cons a as ih =>
    rw [List.foldl_cons, ih, length_parts_add c _ _ happend, List.flatMap_cons, List.length_append,
      Nat.add_assoc]

end Additions

/-! ### Histories of steps -/

/-- One step in the making of contexts. -/
inductive Step where
  | entry (service : String)
  | endpoint (service : String) (e : Endpoint)
  | entity (service : String) (e : Entity)

namespace Step

def service : Step → String
  | .entry service | .endpoint service _ | .entity service _ => service

/-- The endpoint that a step adds. -/
def endpoint? : Step → Option Endpoint
  | .endpoint _ e => some e
  | _ => none

/-- The entity that a step adds. -/
def entity? : Step → Option Entity
  | .entity _ e => some e
  | _ => none

def facts (step : Step) : Facts := ⟨step.endpoint?.toList, step.entity?.toList⟩

end Step

variable (c : Contexts)

def apply : Step → Contexts
  | .entry service => c.mention service
  | .endpoint service e => c.add service ⟨[e], []⟩
  | .entity service e => c.add service ⟨[], [e]⟩

theorem apply_eq_add (step : Step) : c.apply step = c.add step.service step.facts := by
  cases step <;> rfl

theorem foldl_apply_eq (steps : List Step) :
    steps.foldl apply c = steps.foldl (fun c step => add c step.service step.facts) c := by
  congr 1
  funext c step
  exact apply_eq_add c step

/-- What contexts hold of the steps that made them, and what the next step does to them. -/
structure Records (c : Contexts) (steps : List Step) : Prop where
  nodup : c.keys.Nodup
  keys : c.keys = (steps.map Step.service).eraseDups
  get? : ∀ name, c.get? name =
    if name ∈ steps.map Step.service then
      some ⟨(steps.filter (·.service = name)).filterMap Step.endpoint?,
        (steps.filter (·.service = name)).filterMap Step.entity?⟩
    else none
  totalEndpoints : c.totalEndpoints = steps.countP (·.endpoint?.isSome)
  totalEntities : c.totalEntities = steps.countP (·.entity?.isSome)
  others : ∀ step : Step, (c.apply step).entries.filter (·.1 ≠ step.service) =
    c.entries.filter (·.1 ≠ step.service)
  order : ∀ step : Step, (c.apply step).keys =
    if step.service ∈ c.keys then c.keys else c.keys ++ [step.service]

/-- Contexts, however they were made, list each service that was used once, in the order of first
use, with what was added under its name and nothing else. -/
theorem contexts_record_steps (steps : List Step) : Records (steps.foldl apply .empty) steps where
  nodup := OrderedMap.keys_nodup _
  keys := by rw [foldl_apply_eq, keys_foldl_add]
  get? name := by
    rw [foldl_apply_eq, get?_foldl_add_eq]
    simp only [Step.facts, ← List.filterMap_eq_flatMap_toList]
  totalEndpoints := by
    have hadded := length_parts_foldl_add Step.service Step.facts Facts.endpoints_append steps .empty
    rw [totalEndpoints_eq, foldl_apply_eq, hadded, ← List.length_filterMap_eq_countP,
      List.filterMap_eq_flatMap_toList]
    exact Nat.zero_add _
  totalEntities := by
    have hadded := length_parts_foldl_add Step.service Step.facts Facts.entities_append steps .empty
    rw [totalEntities_eq, foldl_apply_eq, hadded, ← List.length_filterMap_eq_countP,
      List.filterMap_eq_flatMap_toList]
    exact Nat.zero_add _
  others step := by rw [apply_eq_add, filter_entries_add]
  order step := by rw [apply_eq_add]; exact OrderedMap.keys_alter _ _ _

end Contexts

end ServiceAtlas
