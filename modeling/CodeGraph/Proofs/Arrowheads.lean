import CodeGraph.Proofs.CanvasMarks
import CodeGraph.Proofs.HoverHighlight
import CodeGraph.Proofs.SceneDocument

namespace CodeGraph

namespace Document

mutual

def elements : Markup → List Markup
  | .text _ => []
  | .leaf name as => [.leaf name as]
  | .node name as children => .node name as children :: elementsAll children

def elementsAll : List Markup → List Markup
  | [] => []
  | m :: rest => elements m ++ elementsAll rest

end

def attributesOf : Markup → List MarkupAttribute
  | .text _ => []
  | .leaf _ as | .node _ as _ => as

def hasId (id : String) (m : Markup) : Bool := value? (attributesOf m) "id" = some id

def declared (id : String) (ms : List Markup) : List Markup := (elementsAll ms).filter (hasId id)

def fills (m : Markup) : List String := (tags m).filterMap fun tag => value? tag.attributes "fill"

def lines (ms : List Markup) : List Tag := (tagsAll ms).filter fun tag => tag.name = "line"

theorem declared_nil (id : String) : declared id [] = [] := rfl

theorem declared_leaf (id name : String) (as : List MarkupAttribute) (ms : List Markup) :
    declared id (.leaf name as :: ms) =
      (if value? as "id" = some id then [.leaf name as] else []) ++ declared id ms := by
  have hid : hasId id (.leaf name as) = decide (value? as "id" = some id) := rfl
  by_cases h : value? as "id" = some id <;> simp [declared, elementsAll, elements, hid, h]

theorem declared_node (id name : String) (as : List MarkupAttribute) (children ms : List Markup) :
    declared id (.node name as children :: ms) =
      (if value? as "id" = some id then [.node name as children] else []) ++ declared id children ++
        declared id ms := by
  have hid : hasId id (.node name as children) = decide (value? as "id" = some id) := rfl
  by_cases h : value? as "id" = some id <;> simp [declared, elementsAll, elements, hid, h]

mutual

theorem map_attributes_elements (m : Markup) :
    (elements m).map attributesOf = (tags m).map Tag.attributes := by
  cases m with
  | text s => rfl
  | leaf name as => rfl
  | node name as children =>
    rw [elements, tags, List.map_cons, List.map_cons, map_attributes_elementsAll children]
    rfl

theorem map_attributes_elementsAll (ms : List Markup) :
    (elementsAll ms).map attributesOf = (tagsAll ms).map Tag.attributes := by
  cases ms with
  | nil => rfl
  | cons m rest =>
    rw [elementsAll, tagsAll, List.map_append, List.map_append, map_attributes_elements m,
      map_attributes_elementsAll rest]

end

theorem declared_eq_nil {id : String} {ms : List Markup} (h : id ∉ ids ms) :
    declared id ms = [] := by
  rw [declared, List.filter_eq_nil_iff]
  intro m hm hid
  obtain ⟨tag, htag, has⟩ : ∃ tag ∈ tagsAll ms, tag.attributes = attributesOf m := by
    have hmem := List.mem_map_of_mem (f := attributesOf) hm
    rw [map_attributes_elementsAll] at hmem
    exact List.mem_map.1 hmem
  apply h
  rw [ids, List.mem_filterMap]
  exact ⟨tag, htag, by rw [has]; exact of_decide_eq_true hid⟩

end Document

namespace Svg

open Document

def lineTag (e : EdgeShape Float) : Tag := ⟨"line", attributesOf (edge e)⟩

/-- Whether a line ends in an arrowhead. -/
def IsMarked (line : Tag) : Prop := value? line.attributes "marker-end" = some (reference arrowId)

theorem isMarked_lineTag (e : EdgeShape Float) : IsMarked (lineTag e) ↔ e.arrow = true := by
  cases harrow : e.arrow <;> simp [IsMarked, lineTag, attributesOf, edge, harrow]

theorem lines_tree (s : Scene Float) (width height : Float) (t : Transform Float) :
    lines [tree s width height t] = s.edges.map lineTag := by
  have hdefs : lines [definitions s.defs] = [] := by
    obtain ⟨_ | _, _ | _, _ | _⟩ := s.defs <;> rfl
  have hedges : lines (s.edges.map edge) = s.edges.map lineTag := by
    induction s.edges with
    | nil => rfl
    | cons e es ih =>
      rw [lines] at ih
      simp [lines, tagsAll, edge, tags, lineTag, attributesOf, ih]
  have hnodes : lines (s.nodes.map (node s)) = [] := by
    rw [lines, List.filter_eq_nil_iff, forall_tagsAll, List.forall_mem_map]
    intro n _
    simp [node, tags, tagsAll]
  rw [lines] at hdefs hedges hnodes
  simp only [tagsAll, List.append_nil] at hdefs
  simp [lines, tree, tags, tagsAll, hdefs, hedges, hnodes]

theorem joined_definitions (d : SceneDefs Float) (ms : List Markup) :
    joined (definitions d :: ms) = definitions d :: joined ms := by
  rw [definitions, joined_node]
  obtain ⟨_ | _, _ | _, _ | _⟩ := d <;> rfl

theorem declared_definitions (d : SceneDefs Float) (ms : List Markup) :
    declared arrowId (definitions d :: ms) =
      (d.arrow.map arrowMarker).toList ++ declared arrowId ms := by
  rw [definitions, declared_node]
  obtain ⟨_ | _, _ | _, _ | _⟩ := d <;> rfl

/-- In a document only the marker has the id of the arrowhead. -/
theorem declared_joined_tree (s : Scene Float) (width height : Float) (t : Transform Float) :
    declared arrowId (joined [tree s width height t]) = (s.defs.arrow.map arrowMarker).toList := by
  have hedges : declared arrowId (joined (s.edges.map edge)) = [] := by
    apply declared_eq_nil
    rw [ids_joined, ids_edges]
    exact List.not_mem_nil
  have hnodes : declared arrowId (joined (s.nodes.map (node s))) = [] := by
    apply declared_eq_nil
    rw [ids_joined, ids_nodes]
    exact List.not_mem_nil
  simp only [tree, joined_node, joined_leaf, joined_definitions, joined_nil]
  simp [declared_leaf, declared_node, declared_definitions, declared_nil, hedges, hnodes]

/-- The colours of the arrowhead that the lines of a document refer to. -/
def arrowColors (doc : List Markup) : List String := (declared arrowId doc).flatMap fills

end Svg

namespace Canvas

section Arrowheads

variable {calm : Float → Prop} {frame : Frame} {d : SceneDefs Float} {m : Mark} {marks : List Mark}

theorem EdgeMarks.fillsArrowhead {e : EdgeShape Float} (h : EdgeMarks calm frame d e marks)
    (hm : m ∈ marks) (hhead : m.IsArrowhead) :
    (¬IsShort e ∧ 0.0 < arrowLength d e) ∧ FillsArrowhead calm frame e m := by
  obtain ⟨line, head, rfl, hline, hfill⟩ := h
  rcases List.mem_append.1 hm with hm | hm
  · obtain ⟨p, q, htrace⟩ := (hline.of_mem hm).2.trace
    obtain ⟨p', q', r', harea⟩ := hhead
    rw [htrace] at harea
    cases harea
  · exact hfill.of_mem hm

theorem EdgeMarks.exists_isArrowhead_iff {e : EdgeShape Float}
    (h : EdgeMarks calm frame d e marks) :
    (∃ m ∈ marks, m.IsArrowhead) ↔ ¬IsShort e ∧ 0.0 < arrowLength d e := by
  constructor
  · rintro ⟨m, hm, hhead⟩
    exact (h.fillsArrowhead hm hhead).1
  · intro hdrawn
    obtain ⟨line, head, rfl, -, hfill⟩ := h
    obtain ⟨m, rfl, hm⟩ := hfill.1 hdrawn
    exact ⟨m, List.mem_append_right _ List.mem_cons_self, hm.trace⟩

theorem NodeMarks.not_isArrowhead {n : NodeShape Float} (h : NodeMarks calm frame d n marks)
    (hm : m ∈ marks) : ¬m.IsArrowhead := by
  rintro ⟨p, q, r, harea⟩
  obtain ⟨halo, area, rim, ring, rfl, hhalo, hdisc, hrim, hring⟩ := h
  rw [List.mem_append, List.mem_cons, List.mem_cons] at hm
  rcases hm with hm | rfl | rfl | hm
  · cases (hhalo.of_mem hm).2.trace.symm.trans harea
  · cases hdisc.trace.symm.trans harea
  · cases hrim.trace.symm.trans harea
  · cases (hring.of_mem hm).2.trace.symm.trans harea

theorem WritesLabel.not_isArrowhead {s : Scene Float} {t : Transform Float} {n : NodeShape Float}
    (h : WritesLabel calm frame s t n m) : ¬m.IsArrowhead := by
  rintro ⟨p, q, r, harea⟩
  obtain ⟨place, htext⟩ := h.trace
  cases htext.symm.trans harea

end Arrowheads

end Canvas

open Document Canvas

/-- An edge, with its marks on the canvas and its line in the document. -/
structure DrawnEdge where
  shape : EdgeShape Float
  marks : List Mark
  line : Tag

/-- Both drawings have an arrowhead for the edge or none, and in one colour. -/
def DrawnEdge.Agrees (doc : List Markup) (d : DrawnEdge) : Prop :=
  ((∃ m ∈ d.marks, m.IsArrowhead) ↔ Svg.IsMarked d.line) ∧
    ∀ m ∈ d.marks, m.IsArrowhead → (Svg.arrowColors doc).map Paint.color = [m.pen.fill]

/-- The edges of a scene in their order, as they are drawn on a canvas and as a reader finds them in
the document. -/
structure Pictures (s : Scene Float) (t : Transform Float) (width height : Float) (b : Board)
    (doc : List Markup) (drawn : List DrawnEdge) : Prop where
  document : read? (Svg.render s width height t) = some doc
  shapes : drawn.map DrawnEdge.shape = s.edges
  lines : drawn.map DrawnEdge.line = lines doc
  canvas : ∃ rest, (b.draw (paint s t width height)).marks =
      b.marks ++ ⟨.rect 0.0 0.0 width height, b.cleared s⟩ ::
        (drawn.flatMap DrawnEdge.marks ++ rest) ∧
    ∀ m ∈ rest, ¬m.IsArrowhead
  marks : ∀ d ∈ drawn,
    EdgeMarks (fun _ => True) (b.pen.frame.zoomed t) s.defs d.shape d.marks

theorem exists_drawn {T : EdgeShape Float → List Mark → Prop} {es : List (EdgeShape Float)}
    {parts : List (List Mark)} (h : List.Forall₂ T es parts) :
    ∃ drawn : List DrawnEdge, drawn.map DrawnEdge.shape = es ∧
      drawn.map DrawnEdge.line = es.map Svg.lineTag ∧
      drawn.flatMap DrawnEdge.marks = parts.flatten ∧ ∀ d ∈ drawn, T d.shape d.marks := by
  induction h with
  | nil => exact ⟨[], rfl, rfl, rfl, by simp⟩
  | @cons e part es parts hpart _ ih =>
    obtain ⟨drawn, hshapes, hlines, hmarks, hdrawn⟩ := ih
    refine ⟨⟨e, part, Svg.lineTag e⟩ :: drawn, ?_, ?_, ?_, ?_⟩
    · rw [List.map_cons, hshapes]
    · rw [List.map_cons, hlines, List.map_cons]
    · rw [List.flatMap_cons, hmarks, List.flatten_cons]
    · exact List.forall_mem_cons.2 ⟨hpart, hdrawn⟩

section Pictures

variable {s : Scene Float} {t : Transform Float} {width height : Float} {b : Board}
  {doc : List Markup} {drawn : List DrawnEdge}

theorem lines_of_read? (h : read? (Svg.render s width height t) = some doc) :
    lines doc = s.edges.map Svg.lineTag := by
  rw [Svg.render, read?_render (Svg.tree_wellNamed s width height t)] at h
  cases h
  rw [lines, tagsAll_joined, ← lines, Svg.lines_tree]

theorem arrowColors_of_read? (h : read? (Svg.render s width height t) = some doc) :
    Svg.arrowColors doc = (s.defs.arrow.map ArrowMarker.color).toList := by
  rw [Svg.render, read?_render (Svg.tree_wellNamed s width height t)] at h
  cases h
  rw [Svg.arrowColors, Svg.declared_joined_tree]
  cases s.defs.arrow <;> rfl

theorem exists_pictures (s : Scene Float) (t : Transform Float) (width height : Float) (b : Board) :
    ∃ doc drawn, Pictures s t width height b doc drawn := by
  have hread := read?_render (Svg.tree_wellNamed s width height t)
  obtain ⟨-, -, marks, hmarks, edges, nodes, labels, rfl, ⟨parts, rfl, hedges⟩, hnodes, hlabels⟩ :=
    @Board.draw_paint (fun _ => True) trivial b trivial s t width height
  obtain ⟨drawn, hshapes, hlines, hparts, hdrawn⟩ := exists_drawn hedges
  refine ⟨_, drawn, hread, hshapes, hlines.trans (lines_of_read? hread).symm, ?_, hdrawn⟩
  refine ⟨nodes ++ labels, ?_, ?_⟩
  · rw [hmarks, hparts, List.append_assoc]
  · intro m hm
    rcases List.mem_append.1 hm with hm | hm
    · obtain ⟨n, -, part, hpart, hm⟩ := exists_of_mem_parts hnodes hm
      exact hpart.not_isArrowhead hm
    · obtain ⟨n, -, part, hpart, hm⟩ := exists_of_mem_parts hlabels hm
      exact (hpart.of_mem hm).2.not_isArrowhead

theorem Pictures.shape_mem (h : Pictures s t width height b doc drawn) {d : DrawnEdge}
    (hd : d ∈ drawn) : d.shape ∈ s.edges :=
  h.shapes ▸ List.mem_map_of_mem hd

theorem Pictures.line_eq (h : Pictures s t width height b doc drawn) {d : DrawnEdge}
    (hd : d ∈ drawn) : d.line = Svg.lineTag d.shape := by
  have hlines := h.lines
  rw [lines_of_read? h.document, ← h.shapes, List.map_map] at hlines
  exact List.map_inj_left.1 hlines d hd

end Pictures

section Built

variable {v : View Float Float32} {theme : Theme Float}

theorem Scene.arrowLength_pos_iff {e : EdgeShape Float} (he : e ∈ (build v theme).edges) :
    0.0 < arrowLength (build v theme).defs e ↔ theme.arrowheads = true := by
  have harrow := arrow_of_mem_build he
  have hsize : (0.0 : Float) < arrowSize := by decide +kernel
  have hzero : ¬(0.0 : Float) < 0.0 := by decide +kernel
  cases h : theme.arrowheads with
  | false => simpa [arrowLength, build, h] using hzero
  | true => simpa [arrowLength, build, h, harrow] using hsize

theorem Scene.stroke_of_mem_build {e : EdgeShape Float} (he : e ∈ (build v theme).edges) :
    e.stroke = if e.highlighted then theme.edgeHighlightColor else theme.edgeColor := by
  obtain ⟨p, -, hshape⟩ := List.mem_filterMap.1 he
  exact (edgeShape?_draws hshape).stroke

variable {t : Transform Float} {width height : Float} {b : Board} {doc : List Markup}
  {drawn : List DrawnEdge} (h : Pictures (Scene.build v theme) t width height b doc drawn)
include h

theorem Pictures.exists_draws (hv : v.Coherent) {k : Nat} {e : Nat × Nat}
    (he : v.edges[k]? = some e) : ∃ d ∈ drawn, Scene.DrawsEdge v theme k e d.shape := by
  obtain ⟨hk, -⟩ := List.getElem?_eq_some_iff.1 he
  rw [← Scene.build_edges_length hv theme] at hk
  obtain ⟨shape, hshape⟩ : ∃ shape, (Scene.build v theme).edges[k]? = some shape :=
    ⟨_, List.getElem?_eq_getElem hk⟩
  obtain ⟨e', he', hdraws⟩ := Scene.build_edge_draws hv theme hshape
  cases he.symm.trans he'
  have hmem := List.mem_of_getElem? hshape
  rw [← h.shapes] at hmem
  obtain ⟨d, hd, rfl⟩ := List.mem_map.1 hmem
  exact ⟨d, hd, hdraws⟩

variable {d : DrawnEdge} (hd : d ∈ drawn)
include hd

theorem Pictures.isMarked_iff : Svg.IsMarked d.line ↔ theme.arrowheads = true := by
  rw [h.line_eq hd, Svg.isMarked_lineTag, Scene.arrow_of_mem_build (h.shape_mem hd)]

theorem Pictures.exists_isArrowhead_iff :
    (∃ m ∈ d.marks, m.IsArrowhead) ↔ Svg.IsMarked d.line ∧ ¬IsShort d.shape := by
  rw [(h.marks d hd).exists_isArrowhead_iff, Scene.arrowLength_pos_iff (h.shape_mem hd),
    h.isMarked_iff hd, and_comm]

/-- An arrowhead on the canvas has the colour of its edge, the marker that of an edge at rest. -/
theorem Pictures.colors {m : Mark} (hm : m ∈ d.marks) (hhead : m.IsArrowhead) :
    m.pen.fill = .color d.shape.stroke ∧ Svg.arrowColors doc = [theme.edgeColor] := by
  obtain ⟨⟨-, hlength⟩, hfill⟩ := (h.marks d hd).fillsArrowhead hm hhead
  have hon := (Scene.arrowLength_pos_iff (h.shape_mem hd)).1 hlength
  refine ⟨hfill.color, ?_⟩
  rw [arrowColors_of_read? h.document]
  simp [Scene.build, hon]

end Built

/-- Every view can be drawn both ways. Then each line of the document ends in an arrowhead if the
theme has arrowheads, and the canvas fills one unless the edge is too short to be drawn. It has the
colour of the edge, which is that of the marker for every edge outside the highlight. -/
theorem arrowheads_agree_unless_short (v : View Float Float32) (theme : Theme Float)
    (t : Transform Float) (width height : Float) (b : Board) :
    (∃ doc drawn, Pictures (Scene.build v theme) t width height b doc drawn) ∧
      ∀ doc drawn, Pictures (Scene.build v theme) t width height b doc drawn → ∀ d ∈ drawn,
        (Svg.IsMarked d.line ↔ theme.arrowheads = true) ∧
        ((∃ m ∈ d.marks, m.IsArrowhead) ↔ Svg.IsMarked d.line ∧ ¬IsShort d.shape) ∧
        ∀ m ∈ d.marks, m.IsArrowhead → m.pen.fill = .color d.shape.stroke ∧
          ((d.shape.highlighted = true → theme.edgeHighlightColor = theme.edgeColor) →
            (Svg.arrowColors doc).map Paint.color = [m.pen.fill]) := by
  refine ⟨exists_pictures _ t width height b, fun doc drawn h d hd => ?_⟩
  refine ⟨h.isMarked_iff hd, h.exists_isArrowhead_iff hd, fun m hm hhead => ?_⟩
  obtain ⟨hfill, hcolors⟩ := h.colors hd hm hhead
  refine ⟨hfill, fun hsame => ?_⟩
  have hstroke : d.shape.stroke = theme.edgeColor := by
    rw [Scene.stroke_of_mem_build (h.shape_mem hd)]
    split
    · next hlit => exact hsame hlit
    · rfl
  rw [hfill, hcolors, hstroke]
  rfl

def restingChain : View Float Float32 := View.ofGraph View.chain .standard .standard 800 600

/-- The first of three nodes in a row leads to the second. Nothing is under the pointer, and so the
arrowhead is of one colour, if the nodes are far enough from each other to have one. -/
theorem resting_chain_agrees :
    ∃ doc drawn, Pictures (Scene.build restingChain .aurora) restingChain.transform
        restingChain.width restingChain.height blank doc drawn ∧
      ∃ d ∈ drawn, Svg.IsMarked d.line ∧ (IsShort d.shape ∨ d.Agrees doc) := by
  obtain ⟨⟨doc, drawn, h⟩, hall⟩ := arrowheads_agree_unless_short restingChain .aurora
    restingChain.transform restingChain.width restingChain.height blank
  have hcoherent : restingChain.Coherent := View.ofGraph_coherent _ _ _ _ _
  obtain ⟨d, hd, hdraws⟩ := h.exists_draws hcoherent (k := 0) (e := (0, 1)) rfl
  obtain ⟨hmarked, hdrawn, hcolors⟩ := hall doc drawn h d hd
  refine ⟨doc, drawn, h, d, hd, hmarked.2 rfl, ?_⟩
  have hdark : d.shape.highlighted = false := hdraws.highlighted
  by_cases hshort : IsShort d.shape
  · exact .inl hshort
  · refine .inr ⟨⟨fun hhead => (hdrawn.1 hhead).1, fun hline => hdrawn.2 ⟨hline, hshort⟩⟩, ?_⟩
    exact fun m hm hhead => (hcolors m hm hhead).2 fun hlit => absurd hlit (by rw [hdark]; decide)

def loneLoop : Graph := ⟨[⟨⟨"a"⟩, "a", "a", .unknown, none⟩], [⟨⟨"a"⟩, ⟨"a"⟩⟩]⟩

def restingLoop : View Float Float32 := View.ofGraph loneLoop .standard .standard 800 600

def hoveredLoop : View Float Float32 := restingLoop.setHover (some (.node 0))

/-- The document has an arrowhead for the loop. Where the canvas has one, if at all, it is in the
colour of the highlight, which the marker does not have. -/
theorem hovered_loop_disagrees :
    restingLoop.run? [.hover (some (.node 0))] = some hoveredLoop ∧
      ∃ doc drawn, Pictures (Scene.build hoveredLoop .aurora) hoveredLoop.transform
          hoveredLoop.width hoveredLoop.height blank doc drawn ∧
        ¬∀ d ∈ drawn, d.Agrees doc := by
  have hrun : restingLoop.run? [.hover (some (.node 0))] = some hoveredLoop := rfl
  obtain ⟨doc, drawn, h⟩ := exists_pictures (Scene.build hoveredLoop .aurora) hoveredLoop.transform
    hoveredLoop.width hoveredLoop.height blank
  refine ⟨hrun, doc, drawn, h, fun hagrees => ?_⟩
  have hcoherent := View.run?_coherent hrun (View.ofGraph_coherent _ _ _ _ _)
  obtain ⟨d, hd, hdraws⟩ := h.exists_draws hcoherent (k := 0) (e := (0, 0)) rfl
  obtain ⟨hboth, hone⟩ := hagrees d hd
  obtain ⟨m, hm, hhead⟩ := hboth.2 ((h.isMarked_iff hd).2 rfl)
  obtain ⟨hfill, hcolors⟩ := h.colors hd hm hhead
  have hlit : d.shape.highlighted = true := hdraws.highlighted
  have hstroke := hdraws.stroke
  rw [hlit] at hstroke
  have hsame := hone m hm hhead
  rw [hfill, hcolors, hstroke] at hsame
  exact absurd hsame (by simp [Theme.aurora])

end CodeGraph
