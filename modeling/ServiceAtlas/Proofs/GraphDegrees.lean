import ServiceAtlas.Proofs.GraphHistory
import Mathlib.Algebra.BigOperators.Ring.List
import Mathlib.Algebra.Ring.Nat

/-!
Degrees and sizes in a graph of services. A degree counts calls by the names of their services, and so
the ends of edges at the place of a node (`ServiceGraph.degree_eq_countP_edges`). Every call has its
two ends at one node each, whether they are two nodes or one, and so all degrees together count every
call twice (`ServiceGraph.sum_degree`).
-/

namespace ServiceAtlas

private theorem sum_ite_eq_count {κ : Type} [DecidableEq κ] (k : κ) (ks : List κ) :
    (ks.map fun l => if k = l then 1 else 0).sum = ks.count k := by
  induction ks with
  | nil => rfl
  | cons l ks ih =>
    rw [List.map_cons, List.sum_cons, ih, List.count_cons, Nat.add_comm]
    by_cases h : k = l
    · simp [h]
    · simp [h, Ne.symm h]

/-- Each item is counted under exactly one of the keys. -/
theorem sum_countP_eq_length {α κ : Type} [DecidableEq κ] (key : α → κ) {ks : List κ}
    (hks : ks.Nodup) {as : List α} (h : ∀ a ∈ as, key a ∈ ks) :
    (ks.map fun k => as.countP fun a => key a = k).sum = as.length := by
  induction as with
  | nil => simp
  | cons a as ih =>
    have hone : (ks.map fun k => if key a = k then 1 else 0).sum = 1 := by
      rw [sum_ite_eq_count, List.count_eq_one_of_mem hks (h a List.mem_cons_self)]
    simp only [List.countP_cons, decide_eq_true_eq, List.sum_map_add, List.length_cons]
    rw [hone, ih fun b hb => h b (List.mem_cons_of_mem a hb)]

namespace ServiceGraph

variable {g : ServiceGraph}

/-- The place of a node tells its name. -/
theorem index_eq_iff (hg : g.services.Nodup) {name : String} (h : name ∈ g.services)
    (i : Fin g.services.length) : g.index name = i ↔ name = g.services.get i := by
  constructor
  · intro hi
    have hname := getElem?_index h
    rw [hi, List.getElem?_eq_getElem i.isLt] at hname
    exact (Option.some.inj hname).symm
  · rintro rfl
    exact hg.idxOf_getElem i i.isLt

/-- The degree of a service is the number of edge ends at its node. -/
theorem degree_eq_countP_edges (hg : g.services.Nodup) (hjoined : g.IsJoined)
    (i : Fin g.services.length) :
    g.degree (g.services.get i) =
      g.edges.countP (·.source = i.val) + g.edges.countP (·.target = i.val) := by
  rw [degree, edges, List.countP_map, List.countP_map]
  congr 1
  · refine List.countP_congr fun d hd => ?_
    rw [Function.comp_apply, decide_eq_true_eq, decide_eq_true_eq]
    exact (index_eq_iff hg (hjoined d hd).1 i).symm
  · refine List.countP_congr fun d hd => ?_
    rw [Function.comp_apply, decide_eq_true_eq, decide_eq_true_eq]
    exact (index_eq_iff hg (hjoined d hd).2 i).symm

/-- All degrees together count every call twice. -/
theorem sum_degree (hg : g.services.Nodup) (hjoined : g.IsJoined) :
    (g.services.map g.degree).sum = 2 * g.calls.length := by
  -- callers and callees are counted apart, so a call of a service to itself counts twice
  have hcallers := sum_countP_eq_length Dependency.caller hg fun d hd => (hjoined d hd).1
  have hcallees := sum_countP_eq_length Dependency.callee hg fun d hd => (hjoined d hd).2
  have hdegree : g.degree = fun s => g.calls.countP (·.caller = s) + g.calls.countP (·.callee = s) :=
    rfl
  rw [hdegree, List.sum_map_add, hcallers, hcallees, Nat.two_mul]

theorem sum_sizeHint (hg : g.services.Nodup) (hjoined : g.IsJoined) :
    (g.services.map g.sizeHint).sum = 3000 * (g.services.length + 2 * g.calls.length) := by
  calc (g.services.map g.sizeHint).sum
      = 3000 * (g.services.map fun s => g.degree s + 1).sum := List.sum_map_mul_left _ _ _
    _ = 3000 * ((g.services.map g.degree).sum + g.services.length) := by
        rw [List.sum_map_add, List.map_const', List.sum_replicate_nat, Nat.mul_one]
    _ = 3000 * (g.services.length + 2 * g.calls.length) := by
        rw [sum_degree hg hjoined, Nat.add_comm]

/-- In a graph that is built from contexts and calls, the degree of a node is the number of calls by
its service plus the number of calls of it, which are the edges out of the node and into it; so the
degrees and the sizes add up to what the numbers of nodes and edges say. -/
theorem degrees_account_for_calls (contexts : Contexts) (calls : List Dependency) :
    let g := build contexts.keys calls
    (∀ i : Fin g.services.length, let s := g.services.get i
      g.degree s = calls.countP (·.caller = s) + calls.countP (·.callee = s) ∧
      g.degree s = g.edges.countP (·.source = i.val) + g.edges.countP (·.target = i.val)) ∧
    g.edges.length = calls.length ∧
    (g.services.map g.degree).sum = 2 * calls.length ∧
    (g.services.map g.sizeHint).sum = 3000 * (g.services.length + 2 * calls.length) := by
  intro g
  have hg : g.services.Nodup := nodup_services_build contexts.keys calls
  have hjoined : g.IsJoined := isJoined_build contexts.keys calls
  have hcalls : g.calls = calls := calls_build contexts.keys calls
  refine ⟨fun i => ⟨?_, degree_eq_countP_edges hg hjoined i⟩, ?_, ?_, ?_⟩
  · rw [degree, hcalls]
  · rw [edges, List.length_map, hcalls]
  · rw [sum_degree hg hjoined, hcalls]
  · rw [sum_sizeHint hg hjoined, hcalls]

end ServiceGraph

end ServiceAtlas
