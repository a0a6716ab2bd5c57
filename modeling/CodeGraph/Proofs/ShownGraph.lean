import CodeGraph.Analysis.Session
import CodeGraph.Drawing.Svg
import CodeGraph.Proofs.CleanGraph
import CodeGraph.Proofs.DocumentReader
import CodeGraph.Proofs.SceneShapes
import Mathlib.Data.List.Count

namespace CodeGraph

theorem comma_notMem_toString (n : Nat) : ',' ∉ (toString n).toList := by
  rw [Nat.toString_eq_ofList_toDigits, String.toList_ofList]
  intro h
  exact absurd (Nat.isDigit_of_mem_toDigits (by decide) (by decide) h) (by decide)

theorem toString_chars_injective {i j : Nat} (h : (toString i).toList = (toString j).toList) :
    i = j := by
  simp only [Nat.toString_eq_ofList_toDigits, String.toList_ofList] at h
  have hvalue := congrArg (fun ds => Nat.ofDigitChars 10 ds 0) h
  simpa only [Nat.ofDigitChars_ten_toDigits] using hvalue

/-- The status line gives both numbers away. -/
theorem Session.graphStatus_eq_iff {g : Graph} {n m : Nat} :
    graphStatus g = "Nodes: " ++ toString n ++ ", edges: " ++ toString m ↔
      g.nodes.length = n ∧ g.links.length = m := by
  constructor
  · intro h
    have hsep : ", edges: ".toList = ',' :: " edges: ".toList := rfl
    have hrest (k : Nat) : ',' ∉ " edges: ".toList ++ (toString k).toList := by
      rw [List.mem_append, not_or]
      exact ⟨by decide, comma_notMem_toString k⟩
    -- no comma stands among digits, so that the first one ends the first number
    have hlist := congrArg String.toList h
    simp only [graphStatus, String.toList_append, List.append_assoc, hsep, List.cons_append]
      at hlist
    obtain ⟨hnodes, -, hedges⟩ := (List.append_cons_inj_of_notMem (comma_notMem_toString _)
      (hrest _)).1 (List.append_cancel_left hlist)
    exact ⟨toString_chars_injective hnodes,
      toString_chars_injective (List.append_cancel_left hedges)⟩
  · rintro ⟨rfl, rfl⟩
    rfl

namespace Svg

open Document

theorem edge_wellNamed (e : EdgeShape Float) : wellNamed (edge e) = true := by
  cases harrow : e.arrow <;>
    simp only [edge, harrow, wellNamed, Bool.false_eq_true, if_false, if_true, List.all_append,
      List.all_cons, List.all_nil, isEntry_attr] <;> decide

theorem node_wellNamed (s : Scene Float) (n : NodeShape Float) : wellNamed (node s n) = true := by
  cases hglow : s.defs.glow.isSome <;>
    simp only [node, hglow, wellNamed, wellNamedAll, Bool.false_eq_true, if_false, if_true,
      List.all_append, List.all_cons, List.all_nil, isEntry_attr] <;> decide

theorem definitions_wellNamed (d : SceneDefs Float) : wellNamed (definitions d) = true := by
  obtain ⟨_ | _, _ | _, _ | _⟩ := d <;>
    simp [definitions, glowFilter, linearGradient, arrowMarker, wellNamed, wellNamedAll] <;> decide

theorem tree_wellNamed (s : Scene Float) (width height : Float) (t : Transform Float) :
    wellNamed (tree s width height t) = true := by
  have hedges : wellNamedAll (s.edges.map edge) = true := by
    rw [wellNamedAll_iff, List.forall_mem_map]
    exact fun e _ => edge_wellNamed e
  have hnodes : wellNamedAll (s.nodes.map (node s)) = true := by
    rw [wellNamedAll_iff, List.forall_mem_map]
    exact fun n _ => node_wellNamed s n
  simp only [tree, wellNamed, wellNamedAll, definitions_wellNamed, hedges, hnodes, List.all_cons,
    List.all_nil, isEntry_attr]
  decide

theorem names_definitions (d : SceneDefs Float) :
    (names (definitions d)).count "circle" = 0 ∧ (names (definitions d)).count "line" = 0 := by
  obtain ⟨_ | _, _ | _, _ | _⟩ := d <;> exact ⟨rfl, rfl⟩

theorem count_names_tree (s : Scene Float) (width height : Float) (t : Transform Float) :
    (names (tree s width height t)).count "circle" = s.nodes.length ∧
      (names (tree s width height t)).count "line" = s.edges.length := by
  have hedges : namesAll (s.edges.map edge) = s.edges.flatMap fun _ => ["line"] := by
    rw [namesAll_eq, List.flatMap_map]
    rfl
  have hnodes : namesAll (s.nodes.map (node s)) =
      s.nodes.flatMap fun _ => ["g", "circle", "text"] := by
    rw [namesAll_eq, List.flatMap_map]
    rfl
  obtain ⟨hcircle, hline⟩ := names_definitions s.defs
  have hcount {γ : Type} (l : List γ) (ns : List String) (name : String) :
      (l.flatMap fun _ => ns).count name = l.length * ns.count name := by
    simp [List.count_flatMap, Function.comp_def]
  constructor
  · simp [tree, names, namesAll, hedges, hnodes, hcircle, hcount]
  · simp [tree, names, namesAll, hedges, hnodes, hline, hcount]

theorem read?_render (s : Scene Float) (width height : Float) (t : Transform Float) :
    ∃ doc, read? (render s width height t) = some doc ∧
      (namesAll doc).count "circle" = s.nodes.length ∧
      (namesAll doc).count "line" = s.edges.length := by
  refine ⟨_, Document.read?_render (tree_wellNamed s width height t), ?_⟩
  have hnames : namesAll [tree s width height t] = names (tree s width height t) :=
    List.append_nil _
  rw [namesAll_joined, hnames]
  exact count_names_tree s width height t

end Svg

/-- A scene with one shape for each id of a graph, and for each link, in the order of the links, one
shape between the shapes of its ends. -/
structure Scene.Draws {α : Type} (s : Scene α) (g : Graph) : Prop where
  ids : (s.nodes.map NodeShape.id).Perm g.ids
  edges : s.edges.length = g.links.length
  joins : ∀ (k : Nat) (l : Link), g.links[k]? = some l →
    ∃ (shape : EdgeShape α) (a b : NodeShape α), s.edges[k]? = some shape ∧
      s.node? l.source = some a ∧ s.node? l.target = some b ∧
      shape.source = a.center ∧ shape.target = b.center

namespace Graph.Clean

variable {α β : Type} [Scalar α] [Scalar β] [Graded α β] {g : Graph} {sim : Simulation α β}
  {zoom : Zoom α} {width height : α} {actions : List (Action α β)} {w : View α β}

theorem draws (hg : g.Clean)
    (h : (View.ofGraph g sim zoom width height).run? actions = some w) (theme : Theme α) :
    (Scene.build w theme).Draws g := by
  have hw := View.run?_coherent h (View.ofGraph_coherent g sim zoom width height)
  have hnodes : w.nodes = g.nodes := (View.run?_same h).nodes.trans (View.nodesOf_eq_nodes hg.ids)
  have hedges : w.edges = g.links.map fun l => (g.ids.idxOf l.source, g.ids.idxOf l.target) :=
    (View.run?_same h).edges.trans hg.filterMap_resolveLink
  constructor
  · have hperm := Scene.build_ids_perm hw theme
    rwa [hnodes] at hperm
  · rw [Scene.build_edges_length hw, hedges, List.length_map]
  · intro k l hl
    obtain ⟨hsource, htarget⟩ := hg.links l (List.mem_of_getElem? hl)
    obtain ⟨n, hn, hid⟩ := node_at_idxOf hsource
    obtain ⟨m, hm, hid'⟩ := node_at_idxOf htarget
    have hedge : w.edges[k]? = some (g.ids.idxOf l.source, g.ids.idxOf l.target) := by
      rw [hedges, List.getElem?_map, hl, Option.map_some]
    rw [← hnodes] at hn hm
    rw [← hid, ← hid']
    exact Scene.edge_joins_shapes hw theme hedge hn hm

end Graph.Clean

/-- If an analysis gives a graph and the status line then says `n` nodes and `m` edges, a view of it
has them all without a warning, each edge between the places of its link's ends. Behind every run of
events every scene draws the graph, and its document has `n` circles and `m` lines. -/
theorem status_counts_shown {server : String → Analysis.Reply} {input : String} {g : Graph}
    {session : Session} {n m : Nat} (h : (Analysis.run server input).outcome.result = .ok g)
    (hstatus : (session.finish (Analysis.run server input).outcome.result).session.status =
      "Nodes: " ++ toString n ++ ", edges: " ++ toString m)
    (sim : Simulation Float Float32) (zoom : Zoom Float) (width height : Float) :
    (∀ line ∈ View.buildLog g, line.level ≠ .warn) ∧ g.ids.Nodup ∧
      (View.ofGraph g sim zoom width height).nodes = g.nodes ∧
      (View.ofGraph g sim zoom width height).nodes.length = n ∧
      (∀ l ∈ g.links, l.source ∈ g.ids ∧ l.target ∈ g.ids) ∧
      (View.ofGraph g sim zoom width height).edges =
        g.links.map (fun l => (g.ids.idxOf l.source, g.ids.idxOf l.target)) ∧
      (View.ofGraph g sim zoom width height).edges.length = m ∧
      (zoom.least ≤ zoom.greatest →
        ∀ actions, ((View.ofGraph g sim zoom width height).run? actions).isSome = true) ∧
      ∀ actions w, (View.ofGraph g sim zoom width height).run? actions = some w →
        ∀ theme, (Scene.build w theme).Draws g ∧
          (Scene.build w theme).nodes.length = n ∧ (Scene.build w theme).edges.length = m ∧
          ∀ width height t, ∃ doc,
            Document.read? (Svg.render (Scene.build w theme) width height t) = some doc ∧
            (Document.namesAll doc).count "circle" = n ∧
            (Document.namesAll doc).count "line" = m := by
  have hg := Analysis.run_clean h
  rw [h] at hstatus
  obtain ⟨rfl, rfl⟩ := Session.graphStatus_eq_iff.1 hstatus
  have hnodes : (View.ofGraph g sim zoom width height).nodes = g.nodes :=
    View.nodesOf_eq_nodes hg.ids
  have hedges := hg.filterMap_resolveLink
  refine ⟨fun _ => hg.buildLog_level, hg.ids, hnodes, by rw [hnodes], hg.links, hedges,
    (congrArg List.length hedges).trans (List.length_map _), fun hz => View.run?_isSome hz, ?_⟩
  intro actions w hw theme
  have hdraws := hg.draws hw theme
  have hcount : (Scene.build w theme).nodes.length = g.nodes.length := by
    simpa [Graph.ids] using hdraws.ids.length_eq
  refine ⟨hdraws, hcount, hdraws.edges, fun width height t => ?_⟩
  obtain ⟨doc, hdoc, hcircles, hlines⟩ := Svg.read?_render (Scene.build w theme) width height t
  exact ⟨doc, hdoc, hcircles.trans hcount, hlines.trans hdraws.edges⟩

/-- An answer with a repeated node, a link that leads nowhere, and markup in a label. -/
def untidyBody : String :=
  "\x7b\"ok\": true, \"data\": \x7b\"nodes\": [\x7b\"id\": \"a\", \"label\": \"<circle/>\"\x7d, " ++
    "\x7b\"id\": \"b\"\x7d, \x7b\"id\": \"a\"\x7d], \"edges\": [" ++
    "\x7b\"source\": \"b\", \"target\": \"a\"\x7d, " ++
    "\x7b\"source\": \"a\", \"target\": \"z\"\x7d]\x7d\x7d"

def untidyServer (_ : String) : Analysis.Reply := .ok ⟨200, untidyBody⟩

def tidiedGraph : Graph :=
  ⟨[⟨⟨"a"⟩, "<circle/>", "<circle/>", .unknown, none⟩, ⟨⟨"b"⟩, "b", "b", .unknown, none⟩],
    [⟨⟨"b"⟩, ⟨"a"⟩⟩]⟩

theorem untidyServer_result :
    (Analysis.run untidyServer " a/b ").outcome.result = .ok tidiedGraph := by
  have h : (Analysis.run untidyServer " a/b ").outcome.result.toOption = some tidiedGraph := by
    decide +kernel
  cases hresult : (Analysis.run untidyServer " a/b ").outcome.result with
  | error e =>
    rw [hresult] at h
    cases h
  | ok g =>
    rw [hresult] at h
    exact congrArg Except.ok (Option.some.inj h)

/-- The two nodes and the one edge in the status line are drawn while the first node is hovered, and
the markup in its label is no circle. -/
theorem tidied_graph_drawn :
    (Session.initial.finish
        (Analysis.run untidyServer " a/b ").outcome.result).session.status =
      "Nodes: 2, edges: 1" ∧
    (View.ofGraph tidiedGraph .standard .standard 800 600 : View Float Float32).edges = [(1, 0)] ∧
    ∀ theme, ∃ doc,
      Document.read? (Svg.render (Scene.build
        ((View.ofGraph tidiedGraph .standard .standard 800 600 : View Float Float32).setHover
          (some (.node 0))) theme) 800 600 ⟨400, 300, 1⟩) = some doc ∧
      (Document.namesAll doc).count "circle" = 2 ∧ (Document.namesAll doc).count "line" = 1 := by
  have hstatus : (Session.initial.finish
      (Analysis.run untidyServer " a/b ").outcome.result).session.status =
      "Nodes: " ++ toString 2 ++ ", edges: " ++ toString 1 := by
    rw [untidyServer_result]
    rfl
  obtain ⟨-, -, -, -, -, hedges, -, -, hrun⟩ :=
    status_counts_shown untidyServer_result hstatus .standard .standard 800 600
  refine ⟨hstatus.trans (by decide), hedges.trans (by decide), fun theme => ?_⟩
  obtain ⟨-, -, -, hdoc⟩ := hrun [.hover (some (.node 0))] _ rfl theme
  exact hdoc 800 600 ⟨400, 300, 1⟩

end CodeGraph
