import ServiceAtlas.Graph
import ServiceAtlas.Proofs.OrderedMapHistory

/-!
The graph of services after any history of steps. A step mentions one service, or adds a call and so
mentions its caller and its callee; whatever the steps are, the nodes are the services mentioned, each
at the place of its first mention (`ServiceGraph.services_foldl_apply`). Nodes are only ever added
behind the others, so a place once given to a service stays its place (`ServiceGraph.index_foldl_apply`)
and a call can be kept as an edge between two places (`ServiceGraph.edges_addCall`).
-/

namespace ServiceAtlas.ServiceGraph

/-- One step in the making of a graph. -/
inductive Step where
  | service (name : String)
  | call (d : Dependency)

/-- The services that a step mentions, in their order. -/
def Step.names : Step → List String
  | .service name => [name]
  | .call d => [d.caller, d.callee]

def apply (g : ServiceGraph) : Step → ServiceGraph
  | .service name => g.mention name
  | .call d => g.addCall d

theorem build_eq_foldl_apply (contexts : List String) (calls : List Dependency) :
    build contexts calls = (contexts.map Step.service ++ calls.map Step.call).foldl apply empty := by
  rw [List.foldl_append, List.foldl_map, List.foldl_map]
  rfl

variable (g : ServiceGraph)

/-- Mentioning a service puts it behind the others unless it is among them. -/
theorem services_mention_append (name : String) (later : List String) :
    ((g.mention name).services ++ later).eraseDups = (g.services ++ name :: later).eraseDups := by
  rw [mention]
  split
  · rename_i hname
    rw [eraseDups_append_cons hname]
  · rw [List.append_assoc, List.singleton_append]

theorem nodup_mention (name : String) (hg : g.services.Nodup) :
    (g.mention name).services.Nodup := by
  rw [mention]
  split
  · exact hg
  · rename_i hname
    exact List.nodup_append_comm.1 (List.nodup_cons.2 ⟨hname, hg⟩)

theorem services_apply_append (step : Step) (later : List String) :
    ((g.apply step).services ++ later).eraseDups =
      (g.services ++ (step.names ++ later)).eraseDups := by
  cases step with
  | service name => exact g.services_mention_append name later
  | call d =>
    calc (((g.mention d.caller).mention d.callee).services ++ later).eraseDups
        = ((g.mention d.caller).services ++ d.callee :: later).eraseDups :=
          services_mention_append _ _ _
      _ = (g.services ++ d.caller :: d.callee :: later).eraseDups :=
          services_mention_append _ _ _

theorem nodup_apply (step : Step) (hg : g.services.Nodup) : (g.apply step).services.Nodup := by
  cases step with
  | service name => exact g.nodup_mention name hg
  | call d => exact nodup_mention _ d.callee (g.nodup_mention d.caller hg)

/-- The nodes after a history of steps, in the order in which each was first mentioned. -/
theorem services_foldl_apply (steps : List Step) {g : ServiceGraph} (hg : g.services.Nodup) :
    (steps.foldl apply g).services = (g.services ++ steps.flatMap Step.names).eraseDups := by
  induction steps generalizing g with
  | nil => simp [eraseDups_of_nodup hg]
  | cons step steps ih =>
    rw [List.foldl_cons, ih (g.nodup_apply step hg), services_apply_append, List.flatMap_cons]

/-- The nodes of a graph are the services it is built for, then those that only calls mention. -/
theorem services_build (contexts : List String) (calls : List Dependency) :
    (build contexts calls).services =
      (contexts ++ calls.flatMap fun d => [d.caller, d.callee]).eraseDups := by
  have hempty : empty.services.Nodup := .nil
  rw [build_eq_foldl_apply, services_foldl_apply _ hempty, List.flatMap_append, List.flatMap_map,
    List.flatMap_map]
  simp [Step.names, empty]

theorem nodup_services_build (contexts : List String) (calls : List Dependency) :
    (build contexts calls).services.Nodup := by
  rw [services_build]
  exact nodup_eraseDups _

/-! ### Calls -/

/-- The call that a step adds. -/
def Step.call? : Step → Option Dependency
  | .service _ => none
  | .call d => some d

@[simp] theorem calls_mention (name : String) : (g.mention name).calls = g.calls := by
  rw [mention]
  split <;> rfl

@[simp] theorem calls_addCall (d : Dependency) : (g.addCall d).calls = g.calls ++ [d] := by
  simp [addCall]

theorem calls_apply (step : Step) : (g.apply step).calls = g.calls ++ step.call?.toList := by
  cases step with
  | service name => simp [apply, Step.call?]
  | call d => simp [apply, Step.call?]

/-- Every call that was added is kept, in the order of the steps. -/
theorem calls_foldl_apply (steps : List Step) (g : ServiceGraph) :
    (steps.foldl apply g).calls = g.calls ++ steps.filterMap Step.call? := by
  induction steps generalizing g with
  | nil => simp
  | cons step steps ih =>
    rw [List.foldl_cons, ih, calls_apply, List.append_assoc]
    cases h : step.call? <;> simp [h]

theorem calls_build (contexts : List String) (calls : List Dependency) :
    (build contexts calls).calls = calls := by
  have hservices : contexts.filterMap (Step.call? ∘ Step.service) = [] :=
    List.filterMap_eq_nil_iff.2 fun _ _ => rfl
  have hcalls : calls.filterMap (Step.call? ∘ Step.call) = calls := List.filterMap_some
  rw [build_eq_foldl_apply, calls_foldl_apply, List.filterMap_append, List.filterMap_map,
    List.filterMap_map, hservices, hcalls]
  rfl

/-! ### Places -/

theorem mem_services_mention (name : String) : name ∈ (g.mention name).services := by
  rw [mention]
  split
  · assumption
  · simp

theorem services_prefix_mention (name : String) : g.services <+: (g.mention name).services := by
  rw [mention]
  split
  · exact List.prefix_rfl
  · exact List.prefix_append _ _

theorem services_prefix_apply (step : Step) : g.services <+: (g.apply step).services := by
  cases step with
  | service name => exact g.services_prefix_mention name
  | call d => exact (g.services_prefix_mention d.caller).trans (services_prefix_mention _ d.callee)

/-- Nodes are only ever added behind the others. -/
theorem services_prefix_foldl_apply (steps : List Step) (g : ServiceGraph) :
    g.services <+: (steps.foldl apply g).services := by
  induction steps generalizing g with
  | nil => exact List.prefix_rfl
  | cons step steps ih => exact (g.services_prefix_apply step).trans (ih _)

variable {g}

theorem getElem?_index {name : String} (h : name ∈ g.services) :
    g.services[g.index name]? = some name := by
  rw [index, List.getElem?_eq_getElem (List.idxOf_lt_length_of_mem h), List.getElem_idxOf]

theorem index_eq_of_grows {g' : ServiceGraph} (hg : g.services <+: g'.services) {name : String}
    (h : name ∈ g.services) : g'.index name = g.index name := by
  obtain ⟨later, hlater⟩ := hg
  rw [index, index, ← hlater, List.idxOf_append_of_mem h]

/-- A service keeps its place, whatever the later steps are. -/
theorem index_foldl_apply {name : String} (h : name ∈ g.services) (later : List Step) :
    (later.foldl apply g).index name = g.index name :=
  index_eq_of_grows (services_prefix_foldl_apply later g) h

/-! ### Edges -/

/-- A call between the places of two nodes. -/
structure Edge where
  source : Nat
  target : Nat
  label : String
  deriving DecidableEq, Repr

variable (g)

/-- The edge of a call: from the place of its caller to the place of its callee. -/
def edgeOf (d : Dependency) : Edge := ⟨g.index d.caller, g.index d.callee, d.label⟩

def edges : List Edge := g.calls.map g.edgeOf

/-- Every call joins two nodes. -/
def IsJoined : Prop := ∀ d ∈ g.calls, d.caller ∈ g.services ∧ d.callee ∈ g.services

variable {g}

theorem IsJoined.mention (hg : g.IsJoined) (name : String) : (g.mention name).IsJoined := by
  intro d hd
  rw [calls_mention] at hd
  have hgrows := (g.services_prefix_mention name).subset
  exact ⟨hgrows (hg d hd).1, hgrows (hg d hd).2⟩

theorem IsJoined.addCall (hg : g.IsJoined) (d : Dependency) : (g.addCall d).IsJoined := by
  intro d' hd'
  rw [calls_addCall, List.mem_append, List.mem_singleton] at hd'
  rcases hd' with hd' | rfl
  · refine ((hg.mention d.caller).mention d.callee) d' ?_
    rwa [calls_mention, calls_mention]
  · have hgrows := ((g.mention d'.caller).services_prefix_mention d'.callee).subset
    exact ⟨hgrows (g.mem_services_mention _), mem_services_mention _ _⟩

theorem IsJoined.apply (hg : g.IsJoined) (step : Step) : (g.apply step).IsJoined := by
  cases step with
  | service name => exact hg.mention name
  | call d => exact hg.addCall d

theorem IsJoined.foldl_apply (hg : g.IsJoined) (steps : List Step) :
    (steps.foldl ServiceGraph.apply g).IsJoined := by
  induction steps generalizing g with
  | nil => exact hg
  | cons step steps ih => exact ih (hg.apply step)

theorem isJoined_empty : empty.IsJoined := by
  intro d hd
  cases hd

theorem isJoined_build (contexts : List String) (calls : List Dependency) :
    (build contexts calls).IsJoined := by
  rw [build_eq_foldl_apply]
  exact isJoined_empty.foldl_apply _

/-- New nodes behind the others leave the edges as they are. -/
theorem map_edgeOf_of_grows {g' : ServiceGraph} (hjoined : g.IsJoined)
    (hg : g.services <+: g'.services) : g.calls.map g'.edgeOf = g.edges := by
  refine List.map_congr_left fun d hd => ?_
  rw [edgeOf, edgeOf, index_eq_of_grows hg (hjoined d hd).1, index_eq_of_grows hg (hjoined d hd).2]

theorem edges_mention (hg : g.IsJoined) (name : String) : (g.mention name).edges = g.edges := by
  rw [edges, calls_mention, map_edgeOf_of_grows hg (g.services_prefix_mention name)]

/-- A call adds one edge behind the others, between the places that its services have or now get. -/
theorem edges_addCall (hg : g.IsJoined) (d : Dependency) :
    (g.addCall d).edges = g.edges ++ [⟨(g.mention d.caller).index d.caller,
      ((g.mention d.caller).mention d.callee).index d.callee, d.label⟩] := by
  -- the caller has its place before the callee is mentioned, and keeps it
  have hcaller : (g.addCall d).index d.caller = (g.mention d.caller).index d.caller :=
    index_eq_of_grows (services_prefix_mention _ d.callee) (g.mem_services_mention d.caller)
  have hgrows : g.services <+: (g.addCall d).services := g.services_prefix_apply (.call d)
  rw [edges, calls_addCall, List.map_append, map_edgeOf_of_grows hg hgrows, List.map_singleton,
    edgeOf, hcaller]
  rfl

/-! ### Whole histories -/

/-- The edge joins the nodes that the call names, and carries its label. -/
structure Edge.Joins (e : Edge) (g : ServiceGraph) (d : Dependency) : Prop where
  source : g.services[e.source]? = some d.caller
  target : g.services[e.target]? = some d.callee
  label : e.label = d.label

/-- What a graph holds of the steps that made it, and what the next step does to it. -/
structure Records (g : ServiceGraph) (steps : List Step) : Prop where
  nodup : g.services.Nodup
  services : g.services = (steps.flatMap Step.names).eraseDups
  edges : List.Forall₂ (fun e d => e.Joins g d) g.edges (steps.filterMap Step.call?)
  /-- The place that a service is given is that of its node, after all later steps too. -/
  place : ∀ (name : String) (later : List Step), let i := (g.mention name).index name
    let g' := later.foldl apply (g.mention name)
    g'.services[i]? = some name ∧ (g'.mention name).index name = i
  mention_edges : ∀ name, (g.mention name).edges = g.edges
  addCall_edges : ∀ d, (g.addCall d).edges = g.edges ++ [⟨(g.mention d.caller).index d.caller,
    ((g.mention d.caller).mention d.callee).index d.callee, d.label⟩]

theorem IsJoined.forall₂_edges (hg : g.IsJoined) :
    List.Forall₂ (fun e d => e.Joins g d) g.edges g.calls := by
  rw [edges, List.forall₂_map_left_iff, List.forall₂_same]
  intro d hd
  exact ⟨getElem?_index (hg d hd).1, getElem?_index (hg d hd).2, rfl⟩

theorem place_foldl_apply (g : ServiceGraph) (name : String) (later : List Step) :
    let i := (g.mention name).index name
    let g' := later.foldl apply (g.mention name)
    g'.services[i]? = some name ∧ (g'.mention name).index name = i := by
  intro i g'
  have hname : name ∈ (g.mention name).services := g.mem_services_mention name
  have hname' : name ∈ g'.services := (services_prefix_foldl_apply later _).subset hname
  have hplace : g'.index name = i := index_foldl_apply hname later
  have hagain := index_eq_of_grows (g'.services_prefix_mention name) hname'
  exact ⟨hplace ▸ getElem?_index hname', hagain.trans hplace⟩

theorem records_foldl_apply (steps : List Step) : (steps.foldl apply empty).Records steps := by
  have hjoined := isJoined_empty.foldl_apply steps
  have hservices : (steps.foldl apply empty).services = (steps.flatMap Step.names).eraseDups := by
    simpa [empty] using services_foldl_apply steps (g := empty) .nil
  have hcalls : (steps.foldl apply empty).calls = steps.filterMap Step.call? :=
    calls_foldl_apply steps empty
  refine ⟨?_, hservices, ?_, place_foldl_apply _, edges_mention hjoined, edges_addCall hjoined⟩
  · rw [hservices]
    exact nodup_eraseDups _
  · rw [← hcalls]
    exact hjoined.forall₂_edges

/-- A graph, however it was made and also when it was built from services and calls, has one node for
each service mentioned, in the order of first mention, and one edge for each call added. -/
theorem graph_records_history :
    (∀ steps : List Step, (steps.foldl apply empty).Records steps) ∧
      ∀ (contexts : List String) (calls : List Dependency),
        (build contexts calls).Records (contexts.map Step.service ++ calls.map Step.call) := by
  refine ⟨records_foldl_apply, fun contexts calls => ?_⟩
  rw [build_eq_foldl_apply]
  exact records_foldl_apply _

end ServiceAtlas.ServiceGraph
