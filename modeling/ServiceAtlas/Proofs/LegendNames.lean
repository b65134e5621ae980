import ServiceAtlas.Proofs.DotReading
import Mathlib.Data.Finset.Card

/-!
The legend beside the services. All nodes of a drawing share one space of identifiers, the entries of
the legend among them, so a service is drawn as a node of its own only if its name is none of theirs.
The reader (`Dot.figure?`) takes the statements of a whole text, those of its subgraphs too. From the
drawing of a graph it gets the services and the entries of the legend (`Dot.figure?_render`), whose
identifiers are distinct exactly if no service has the name of an entry (`Dot.legend_apart_iff`).
-/

namespace ServiceAtlas.Dot

/-! ### Figures -/

/-- What a statement draws: nothing, a node, or an edge between two nodes. -/
inductive Stroke where
  | nothing
  | node (id : String)
  | edge (source target : String)
  deriving DecidableEq, Repr

namespace Stroke

def id? : Stroke → Option String
  | .node id => some id
  | _ => none

def ends? : Stroke → Option (String × String)
  | .edge source target => some (source, target)
  | _ => none

end Stroke

/-- A statement, or what stands before the bracket of a graph. -/
def stroke? : List Token → Option Stroke
  | [] => some .nothing
  | [.word "digraph", .word _] => some .nothing
  | [.word "subgraph", .word _] => some .nothing
  | .word "node" :: rest => (attributes? rest).map fun _ => .nothing
  | [.word _, .sign '=', value] => value.id?.map fun _ => .nothing
  | source :: .arrow :: target :: rest => do
    let _ ← attributes? rest
    return .edge (← source.id?) (← target.id?)
  | name :: rest => do
    let _ ← attributes? rest
    return .node (← name.id?)

/-- Statements end with a semicolon, and no statement goes on behind a bracket of a graph. -/
def endsStatement (t : Token) : Bool := t = .sign ';' || t = .sign '{' || t = .sign '}'

/-- The nodes and edges that a text states, in their order. A node may be stated more than once, and
stating an edge draws its ends. -/
structure Figure where
  stated : List String
  edges : List (String × String)
  deriving DecidableEq, Repr

namespace Figure

def ofStrokes (strokes : List Stroke) : Figure :=
  ⟨strokes.filterMap Stroke.id?, strokes.filterMap Stroke.ends?⟩

/-- The nodes that are drawn: statements with one identifier draw one node. -/
def nodes (f : Figure) : Finset String :=
  f.stated.toFinset ∪ (f.edges.flatMap fun e => [e.1, e.2]).toFinset

end Figure

def figure? (text : String) : Option Figure :=
  (scanner.tokens? text).bind fun tokens =>
    ((tokens.splitOnP endsStatement).mapM stroke?).map Figure.ofStrokes

/-! ### The statements of a drawing -/

theorem splitOnP_statements {pieces : List (List Token)}
    (h : ∀ piece ∈ pieces, ∀ t ∈ piece, endsStatement t = false) (rest : List Token) :
    (pieces.flatMap (· ++ [Token.sign ';']) ++ rest).splitOnP endsStatement =
      pieces ++ rest.splitOnP endsStatement := by
  induction pieces with
  | nil => rfl
  | cons piece pieces ih =>
    obtain ⟨hpiece, hpieces⟩ := List.forall_mem_cons.1 h
    rw [List.flatMap_cons, List.append_assoc, List.append_assoc, List.singleton_append,
      List.splitOnP_append_cons_of_forall_mem hpiece _ rfl, ih hpieces, List.cons_append]

theorem endsStatement_of_mem_statementTokens (g : ServiceGraph) :
    ∀ piece ∈ statementTokens g, ∀ t ∈ piece, endsStatement t = false := by
  have hsettings : ∀ piece ∈ settingTokens, ∀ t ∈ piece, endsStatement t = false := by decide
  intro piece hpiece
  rw [statementTokens, List.append_assoc] at hpiece
  rcases List.mem_append.1 hpiece with hsetting | hpiece
  · exact hsettings piece hsetting
  rcases List.mem_append.1 hpiece with hnode | hcall
  · obtain ⟨name, _, rfl⟩ := List.mem_map.1 hnode
    simp [nodeTokens, endsStatement]
  · obtain ⟨d, _, rfl⟩ := List.mem_map.1 hcall
    simp [callTokens, endsStatement]

theorem splitOnP_tokens (g : ServiceGraph) :
    (.word "digraph" :: .word "service_dependencies" :: .sign '{' ::
      ((statementTokens g).flatMap (· ++ [.sign ';']) ++
        .word "subgraph" :: legendBlock)).splitOnP endsStatement =
      [.word "digraph", .word "service_dependencies"] :: (statementTokens g ++
        [.word "subgraph", .word "cluster_legend"] :: (legendTokens ++ [[], [], []])) := by
  have hlegend : ∀ piece ∈ legendTokens, ∀ t ∈ piece, endsStatement t = false := by decide
  have hhead := @List.splitOnP_append_cons_of_forall_mem _ endsStatement
    [.word "digraph", .word "service_dependencies"] (by decide) (.sign '{') rfl
  have hsubgraph := @List.splitOnP_append_cons_of_forall_mem _ endsStatement
    [.word "subgraph", .word "cluster_legend"] (by decide) (.sign '{') rfl
  simp only [List.cons_append, List.nil_append] at hhead hsubgraph
  rw [hhead, splitOnP_statements (endsStatement_of_mem_statementTokens g), legendBlock, hsubgraph,
    splitOnP_statements hlegend]
  rfl

/-! ### What the statements draw -/

/-- The identifiers of the legend. -/
def legendNames : List String :=
  ["legend_get", "legend_post", "legend_put", "legend_delete", "legend_other"]

theorem mapM_stroke?_fixed :
    settingTokens.mapM stroke? = some (List.replicate settingTokens.length .nothing) ∧
    legendTokens.mapM stroke? = some (List.replicate legendSettingTokens.length .nothing ++
      legendNames.map .node) := by
  decide +kernel

theorem stroke?_nodeTokens (g : ServiceGraph) (name : String) :
    stroke? (nodeTokens g name) = some (.node name) := by
  simp [stroke?, nodeTokens, attributes?, Text.splitAtEach, attribute?, Token.id?]

theorem stroke?_callTokens (d : Dependency) :
    stroke? (callTokens d) = some (.edge d.caller d.callee) := by
  simp [stroke?, callTokens, attributes?, Text.splitAtEach, attribute?, Token.id?]

/-- The drawing of a graph states a node for each service and then one for each entry of the legend,
and an edge for each call. -/
theorem figure?_render (g : ServiceGraph) : figure? (render g) =
    some ⟨g.services ++ legendNames, g.calls.map fun d => (d.caller, d.callee)⟩ := by
  obtain ⟨hsettings, hlegend⟩ := mapM_stroke?_fixed
  have hnodes := mapM_map_eq_some (nodeTokens g) stroke? _ (stroke?_nodeTokens g) g.services
  have hcalls := mapM_map_eq_some callTokens stroke? _ stroke?_callTokens g.calls
  have hstatements : (statementTokens g).mapM stroke? =
      some (List.replicate settingTokens.length .nothing ++ (g.services.map Stroke.node ++
        g.calls.map fun d => .edge d.caller d.callee)) := by
    simp [statementTokens, hsettings, hnodes, hcalls]
  rw [figure?, tokens?_render, Option.bind_some, splitOnP_tokens]
  simp [hstatements, hlegend, stroke?, Figure.ofStrokes, List.filterMap_cons, List.filterMap_replicate,
    Function.comp_def, Stroke.id?, Stroke.ends?]

/-! ### Services and legend -/

theorem quote_injective : Function.Injective quote := by
  intro s t h
  have htokens : some ([Token.quoted s], Mode.between) = some ([.quoted t], .between) := by
    rw [← run_quote, ← run_quote, h]
  simpa using htokens

theorem nodup_append_legendNames_iff {services : List String} (h : services.Nodup) :
    (services ++ legendNames).Nodup ↔ ∀ name ∈ legendNames, name ∉ services := by
  have hlegend : legendNames.Nodup := by decide
  rw [List.nodup_append]
  constructor
  · intro hnodup name hname hservice
    exact hnodup.2.2 name hservice name hname rfl
  · intro hapart
    refine ⟨h, hlegend, fun service hservice name hname heq => ?_⟩
    exact hapart name hname (heq ▸ hservice)

/-- Each service with the name of an entry is one node with it. -/
theorem card_append_legendNames {services : List String} (h : services.Nodup) :
    (services ++ legendNames).toFinset.card + (legendNames.filter (· ∈ services)).length =
      services.length + legendNames.length := by
  have hlegend : legendNames.Nodup := by decide
  have hshared : (legendNames.filter (· ∈ services)).toFinset =
      services.toFinset ∩ legendNames.toFinset := by
    ext name
    simp [and_comm]
  rw [List.toFinset_append, ← List.toFinset_card_of_nodup (hlegend.filter _), hshared,
    Finset.card_union_add_card_inter, List.toFinset_card_of_nodup h,
    List.toFinset_card_of_nodup hlegend]

/-- The ends of the calls are services, so edges draw no further nodes. -/
theorem nodes_figure {g : ServiceGraph} (hjoined : g.IsJoined) :
    (Figure.mk (g.services ++ legendNames) (g.calls.map fun d => (d.caller, d.callee))).nodes =
      (g.services ++ legendNames).toFinset := by
  rw [Figure.nodes, Finset.union_eq_left]
  intro name hname
  rw [List.mem_toFinset, List.flatMap_map, List.mem_flatMap] at hname
  obtain ⟨d, hd, hname⟩ := hname
  have hends := hjoined d hd
  rw [List.mem_toFinset, List.mem_append]
  left
  rcases List.mem_cons.1 hname with rfl | hname
  · exact hends.1
  · rw [List.mem_singleton.1 hname]
    exact hends.2

/-- The drawing of a graph that steps build states a node for each service, in their order, and one for
each of the five entries of the legend. Read or as they are written, their identifiers are pairwise
distinct if and only if no service has the name of an entry; and there is one node for each service
and five for the legend, less one for each name that a service shares with an entry. -/
theorem legend_apart_iff (steps : List ServiceGraph.Step) :
    let g := steps.foldl ServiceGraph.apply .empty
    ∃ f, figure? (render g) = some f ∧ f.stated = g.services ++ legendNames ∧
      (f.stated.Nodup ↔ ∀ name ∈ legendNames, name ∉ g.services) ∧
      ((f.stated.map quote).Nodup ↔ ∀ name ∈ legendNames, name ∉ g.services) ∧
      f.nodes.card + (legendNames.filter (· ∈ g.services)).length = g.services.length + 5 := by
  intro g
  have hnodup : g.services.Nodup := by
    rw [ServiceGraph.services_foldl_apply steps (g := .empty) .nil]
    exact nodup_eraseDups _
  have hjoined : g.IsJoined := ServiceGraph.isJoined_empty.foldl_apply steps
  have hapart := nodup_append_legendNames_iff hnodup
  refine ⟨_, figure?_render g, rfl, hapart, ?_, ?_⟩
  · rw [List.nodup_map_iff quote_injective]
    exact hapart
  · rw [nodes_figure hjoined]
    exact card_append_legendNames hnodup

/-- A service with the name of an entry: six nodes are stated and five are drawn. -/
theorem legend_entry_shared :
    let g := [ServiceGraph.Step.service "legend_get"].foldl ServiceGraph.apply .empty
    g.services = ["legend_get"] ∧
    ∃ f, figure? (render g) = some f ∧ f.stated.length = 6 ∧ ¬ f.stated.Nodup ∧ f.nodes.card = 5 := by
  refine ⟨rfl, _, figure?_render _, ?_⟩
  decide

end ServiceAtlas.Dot
