import CodeGraph.Proofs.ShownGraph
import Mathlib.Data.List.Forall2

namespace CodeGraph

namespace Number

def isNumberChar (c : Char) : Bool := c.isDigit || ['-', '.', 'N', 'a', 'i', 'n', 'f'].contains c

theorem toDigits_chars (n : Nat) : ∀ c ∈ Nat.toDigits 10 n, isNumberChar c = true := by
  intro c hc
  rw [isNumberChar, Nat.isDigit_of_mem_toDigits (by decide) (by decide) hc, Bool.true_or]

theorem zeros_chars (n : Nat) : ∀ c ∈ zeros n, isNumberChar c = true := by
  intro c hc
  rw [List.eq_of_mem_replicate hc]
  decide

theorem positional_chars (d : Decimal) : ∀ c ∈ positional d, isNumberChar c = true := by
  have hdigits := toDigits_chars d.coefficient
  simp only [positional]
  split_ifs
  · exact List.forall_mem_append.2 ⟨hdigits, zeros_chars _⟩
  · rw [List.forall_mem_append, List.forall_mem_cons]
    exact ⟨fun c hc => hdigits c (List.mem_of_mem_take hc), by decide,
      fun c hc => hdigits c (List.mem_of_mem_drop hc)⟩
  · rw [List.forall_mem_append, List.forall_mem_cons, List.forall_mem_cons]
    exact ⟨⟨by decide, by decide, zeros_chars _⟩, hdigits⟩

theorem signed_chars {cs : List Char} (hcs : ∀ c ∈ cs, isNumberChar c = true) (negative : Bool) :
    ∀ c ∈ (String.ofList (signed negative cs)).toList, isNumberChar c = true := by
  rw [String.toList_ofList]
  cases negative with
  | false => exact hcs
  | true => exact List.forall_mem_cons.2 ⟨by decide, hcs⟩

theorem plain_chars (x : Float) : ∀ c ∈ (plain x).toList, isNumberChar c = true := by
  unfold plain
  split
  · exact List.all_eq_true.1 (by decide)
  · exact signed_chars (List.all_eq_true.1 (by decide)) _
  · refine signed_chars ?_ _
    split
    · exact List.all_eq_true.1 (by decide)
    · exact positional_chars _

theorem twoPlaces_chars (x : Float) : ∀ c ∈ (twoPlaces x).toList, isNumberChar c = true := by
  unfold twoPlaces
  split
  · exact List.all_eq_true.1 (by decide)
  · exact signed_chars (List.all_eq_true.1 (by decide)) _
  · refine signed_chars ?_ _
    rw [List.forall_mem_append, List.forall_mem_cons]
    refine ⟨toDigits_chars _, by decide, ?_⟩
    split_ifs
    · exact List.forall_mem_cons.2 ⟨by decide, toDigits_chars _⟩
    · exact toDigits_chars _

end Number

namespace Document

@[simp] theorem attr_name (name v : String) : (Markup.attr name v).name = name := rfl

def value? (as : List MarkupAttribute) (name : String) : Option String :=
  (as.find? fun a => a.name == name).bind MarkupAttribute.value

@[simp] theorem value?_nil (name : String) : value? [] name = none := rfl

@[simp] theorem value?_attr (key v name : String) (as : List MarkupAttribute) :
    value? (Markup.attr key v :: as) name = if key = name then some v else value? as name := by
  by_cases h : key = name <;> simp [value?, Markup.attr, h]

def ids (ms : List Markup) : List String :=
  (tagsAll ms).filterMap fun tag => value? tag.attributes "id"

theorem ids_joined (ms : List Markup) : ids (joined ms) = ids ms := by
  rw [ids, tagsAll_joined, ids]

theorem forall_tagsAll {ms : List Markup} {P : Tag → Prop} :
    (∀ tag ∈ tagsAll ms, P tag) ↔ ∀ m ∈ ms, ∀ tag ∈ tags m, P tag := by
  rw [tagsAll_eq, List.forall_mem_flatMap]

theorem nodes_addAll (s : Content) (ms : List Markup) :
    (s.addAll ms).nodes = s.done ++ (Content.addAll ⟨[], s.text⟩ ms).nodes := by
  induction ms generalizing s with
  | nil => rfl
  | cons m rest ih =>
    have hadd : (s.add m).text = (Content.add ⟨[], s.text⟩ m).text ∧
        (s.add m).done = s.done ++ (Content.add ⟨[], s.text⟩ m).done := by
      cases m <;> simp [Content.add, Content.nodes]
    rw [Content.addAll, Content.addAll, ih, ih (Content.add ⟨[], s.text⟩ m), hadd.1, hadd.2,
      List.append_assoc]

theorem joined_nil : joined [] = [] := rfl

theorem joined_leaf (name : String) (as : List MarkupAttribute) (ms : List Markup) :
    joined (.leaf name as :: ms) = .leaf name as :: joined ms :=
  nodes_addAll ⟨[.leaf name as], []⟩ ms

theorem joined_node (name : String) (as : List MarkupAttribute) (children ms : List Markup) :
    joined (.node name as children :: ms) = .node name as (joined children) :: joined ms :=
  nodes_addAll ⟨[.node name as (joined children)], []⟩ ms

theorem joined_text (t : String) : joined [.text t] = if t = "" then [] else [.text t] := by
  have h : joined [.text t] = textNodes t.toList := rfl
  rw [h, textNodes]
  simp

/-- If each of some elements is read as something that shows it, all are, in their order. -/
theorem joined_map_shows {γ : Type} {shows : γ → Markup → Prop} {f : γ → Markup}
    (h : ∀ x ms, ∃ m, joined (f x :: ms) = m :: joined ms ∧ shows x m) (l : List γ) :
    List.Forall₂ shows l (joined (l.map f)) := by
  induction l with
  | nil => exact .nil
  | cons x l ih =>
    obtain ⟨m, hm, hshows⟩ := h x (l.map f)
    rw [List.map_cons, hm]
    exact .cons hshows ih

end Document

/-- The texts that a scene brings along. -/
inductive Scene.Owns (s : Scene Float) : String → Prop
  | background : Owns s s.background
  | labelColor : Owns s s.labelColor
  | gradientStart {g : Gradient} (hg : s.defs.gradient = some g) : Owns s g.start
  | gradientStop {g : Gradient} (hg : s.defs.gradient = some g) : Owns s g.stop
  | arrowColor {a : ArrowMarker Float} (ha : s.defs.arrow = some a) : Owns s a.color
  | edgeStroke {e : EdgeShape Float} (he : e ∈ s.edges) : Owns s e.stroke
  | nodeId {n : NodeShape Float} (hn : n ∈ s.nodes) : Owns s n.id.text
  | nodeStroke {n : NodeShape Float} (hn : n ∈ s.nodes) : Owns s n.stroke
  | nodeFill {n : NodeShape Float} {color : String} (hn : n ∈ s.nodes)
    (hfill : n.fill = .solid color) : Owns s color

/-- The definitions that the shapes of a scene refer to. -/
inductive Scene.Uses (s : Scene Float) : String → Prop
  | gradient {n : NodeShape Float} (hn : n ∈ s.nodes) (hfill : n.fill = .gradient) :
    Uses s Svg.gradientId
  | glow {n : NodeShape Float} (hn : n ∈ s.nodes) (hglow : s.defs.glow.isSome = true) :
    Uses s Svg.glowId
  | arrow {e : EdgeShape Float} (he : e ∈ s.edges) (harrow : e.arrow = true) : Uses s Svg.arrowId

namespace Svg

open Document Markup
open Number (plain twoPlaces)

/-- Neither escaped nor part of a reference. -/
def isOrdinary (c : Char) : Bool := !('#' :: specials).contains c

theorem isOrdinary_of_isNumberChar {c : Char} (h : Number.isNumberChar c = true) :
    isOrdinary c = true := by
  by_contra hc
  simp only [isOrdinary, specials, List.contains_eq_mem, Bool.not_eq_true', decide_eq_false_iff_not,
    not_not, List.mem_cons, List.not_mem_nil, or_false] at hc
  rcases hc with rfl | rfl | rfl | rfl | rfl | rfl <;> exact absurd h (by decide)

def isOrdinaryText (v : String) : Bool := v.toList.all isOrdinary

theorem isOrdinaryText_append (u v : String) :
    isOrdinaryText (u ++ v) = (isOrdinaryText u && isOrdinaryText v) := by
  rw [isOrdinaryText, String.toList_append, List.all_append]
  rfl

theorem isOrdinaryText_of_chars {v : String} (h : ∀ c ∈ v.toList, Number.isNumberChar c = true) :
    isOrdinaryText v = true :=
  List.all_eq_true.2 fun c hc => isOrdinary_of_isNumberChar (h c hc)

theorem plain_isOrdinary (x : Float) : isOrdinaryText (plain x) = true :=
  isOrdinaryText_of_chars (Number.plain_chars x)

theorem twoPlaces_isOrdinary (x : Float) : isOrdinaryText (twoPlaces x) = true :=
  isOrdinaryText_of_chars (Number.twoPlaces_chars x)

/-- A value in the document of a scene: a text of the scene, a reference to a definition that it
uses, or a text in which nothing is escaped and nothing referred to. -/
inductive Value (s : Scene Float) : String → Prop
  | own {v : String} (h : s.Owns v) : Value s v
  | reference {id : String} (h : s.Uses id) : Value s (reference id)
  | ordinary {v : String} (h : isOrdinaryText v = true) : Value s v

/-- A tag of the document of a scene: no attribute is given twice, and all have values. -/
structure Sound (s : Scene Float) (tag : Tag) : Prop where
  distinct : (tag.attributes.map MarkupAttribute.name).Nodup
  values : ∀ a ∈ tag.attributes, ∃ v, a.value = some v ∧ Value s v

section Tags

variable {s : Scene Float}

@[simp] theorem Value.plain (x : Float) : Value s (plain x) := .ordinary (plain_isOrdinary x)

@[simp] theorem Value.twoPlaces (x : Float) : Value s (twoPlaces x) :=
  .ordinary (twoPlaces_isOrdinary x)

@[simp] theorem sound_nil (name : String) : Sound s ⟨name, []⟩ := ⟨List.nodup_nil, by simp⟩

@[simp] theorem sound_attr {name key v : String} {as : List MarkupAttribute} :
    Sound s ⟨name, attr key v :: as⟩ ↔
      key ∉ as.map MarkupAttribute.name ∧ Value s v ∧ Sound s ⟨name, as⟩ := by
  constructor
  · rintro ⟨hdistinct, hvalues⟩
    obtain ⟨⟨u, hu, hvalue⟩, hrest⟩ := List.forall_mem_cons.1 hvalues
    cases hu
    obtain ⟨hkey, hdistinct⟩ := List.nodup_cons.1 hdistinct
    exact ⟨hkey, hvalue, hdistinct, hrest⟩
  · rintro ⟨hkey, hvalue, hdistinct, hrest⟩
    exact ⟨List.nodup_cons.2 ⟨hkey, hdistinct⟩, List.forall_mem_cons.2 ⟨⟨v, rfl, hvalue⟩, hrest⟩⟩

theorem edge_sound {e : EdgeShape Float} (he : e ∈ s.edges) :
    ∀ tag ∈ tags (edge e), Sound s tag := by
  have hstroke : Value s e.stroke := .own (.edgeStroke he)
  cases harrow : e.arrow with
  | false => simp (disch := decide) [edge, harrow, tags, Value.ordinary, hstroke]
  | true =>
    have hhead : Value s (reference arrowId) := .reference (.arrow he harrow)
    simp (disch := decide) [edge, harrow, tags, Value.ordinary, hstroke, hhead]

theorem node_sound {n : NodeShape Float} (hn : n ∈ s.nodes) :
    ∀ tag ∈ tags (node s n), Sound s tag := by
  have hid : Value s n.id.text := .own (.nodeId hn)
  have hkind : Value s n.kind.name := .ordinary (by cases n.kind <;> decide)
  have hplace : Value s ("translate(" ++ twoPlaces n.center.x ++ "," ++ twoPlaces n.center.y ++
      ")") := by
    apply Value.ordinary
    simp only [isOrdinaryText_append, twoPlaces_isOrdinary]
    decide
  have hfill : Value s (fillText n.fill) := by
    cases hf : n.fill with
    | solid color => exact .own (.nodeFill hn hf)
    | gradient => exact .reference (.gradient hn hf)
  have hstroke : Value s n.stroke := .own (.nodeStroke hn)
  have hanchor : Value s (anchorText n.labelAnchor) :=
    .ordinary (by cases n.labelAnchor <;> decide)
  have hlabel : Value s s.labelColor := .own .labelColor
  cases hglow : s.defs.glow.isSome with
  | false =>
    simp (disch := decide) [node, hglow, tags, tagsAll, Value.ordinary, hid, hkind, hplace, hfill,
      hstroke, hanchor, hlabel]
  | true =>
    have hfilter : Value s (reference glowId) := .reference (.glow hn hglow)
    simp (disch := decide) [node, hglow, tags, tagsAll, Value.ordinary, hid, hkind, hplace, hfill,
      hstroke, hanchor, hlabel, hfilter]

theorem definitions_sound : ∀ tag ∈ tags (definitions s.defs), Sound s tag := by
  simp only [definitions, tags, List.forall_mem_cons, forall_tagsAll, List.forall_mem_append,
    Option.mem_toList, Option.map_eq_some_iff]
  refine ⟨sound_nil _, ⟨?_, ?_⟩, ?_⟩
  · rintro _ ⟨blur, -, rfl⟩
    simp (disch := decide) [glowFilter, tags, tagsAll, Value.ordinary]
  · rintro _ ⟨g, hg, rfl⟩
    have hstart : Value s g.start := .own (.gradientStart hg)
    have hstop : Value s g.stop := .own (.gradientStop hg)
    simp (disch := decide) [linearGradient, tags, tagsAll, Value.ordinary, hstart, hstop]
  · rintro _ ⟨a, ha, rfl⟩
    have hcolor : Value s a.color := .own (.arrowColor ha)
    simp (disch := decide) [arrowMarker, tags, tagsAll, Value.ordinary, hcolor]

theorem tree_sound (s : Scene Float) (width height : Float) (t : Transform Float) :
    ∀ tag ∈ tags (tree s width height t), Sound s tag := by
  have hbox : Value s ("0 0 " ++ plain width ++ " " ++ plain height) := by
    apply Value.ordinary
    simp only [isOrdinaryText_append, plain_isOrdinary]
    decide
  have hzoom : Value s ("translate(" ++ plain t.x ++ "," ++ plain t.y ++ ") scale(" ++
      plain t.k ++ ")") := by
    apply Value.ordinary
    simp only [isOrdinaryText_append, plain_isOrdinary]
    decide
  have hbackground : Value s s.background := .own .background
  have hedges : ∀ tag ∈ tagsAll (s.edges.map edge), Sound s tag := by
    rw [forall_tagsAll, List.forall_mem_map]
    exact fun e he => edge_sound he
  have hnodes : ∀ tag ∈ tagsAll (s.nodes.map (node s)), Sound s tag := by
    rw [forall_tagsAll, List.forall_mem_map]
    exact fun n hn => node_sound hn
  simp only [tree, tags, tagsAll, List.forall_mem_cons, List.forall_mem_append]
  refine ⟨?_, ⟨?_, by simp⟩, definitions_sound, ⟨?_, ⟨?_, hedges⟩, ⟨?_, hnodes⟩, by simp⟩,
    by simp⟩ <;> simp (disch := decide) [Value.ordinary, hbox, hzoom, hbackground]

end Tags

theorem ids_definitions (d : SceneDefs Float) :
    ids [definitions d] = (d.glow.map fun _ => glowId).toList ++
      (d.gradient.map fun _ => gradientId).toList ++ (d.arrow.map fun _ => arrowId).toList := by
  obtain ⟨_ | _, _ | _, _ | _⟩ := d <;> rfl

theorem ids_definitions_nodup (d : SceneDefs Float) : (ids [definitions d]).Nodup := by
  rw [ids_definitions]
  obtain ⟨_ | _, _ | _, _ | _⟩ := d <;> simp <;> decide

theorem ids_edges (es : List (EdgeShape Float)) : ids (es.map edge) = [] := by
  rw [ids, List.filterMap_eq_nil_iff, forall_tagsAll, List.forall_mem_map]
  intro e _
  cases harrow : e.arrow <;> simp [edge, tags, harrow]

theorem ids_nodes (s : Scene Float) : ids (s.nodes.map (node s)) = [] := by
  rw [ids, List.filterMap_eq_nil_iff, forall_tagsAll, List.forall_mem_map]
  intro n _
  cases hglow : s.defs.glow.isSome <;> simp [node, tags, tagsAll, hglow]

/-- Nothing but a definition has an id. -/
theorem ids_tree (s : Scene Float) (width height : Float) (t : Transform Float) :
    ids [tree s width height t] = ids [definitions s.defs] := by
  have hedges := ids_edges s.edges
  have hnodes := ids_nodes s
  rw [ids] at hedges hnodes
  simp [ids, tree, tags, tagsAll, hedges, hnodes]

/-- What the shapes of a built scene refer to is defined once. -/
theorem count_ids_build {v : View Float Float32} {theme : Theme Float} {id : String}
    (h : (Scene.build v theme).Uses id) :
    (ids [definitions (Scene.build v theme).defs]).count id = 1 := by
  apply List.count_eq_one_of_mem (ids_definitions_nodup _)
  rw [ids_definitions]
  -- the theme that makes a shape refer to a definition makes the definition
  cases h with
  | gradient hn hfill =>
    obtain ⟨g, hg⟩ := Option.isSome_iff_exists.1 ((Scene.fill_of_mem_build hn).1 hfill)
    simp [Scene.build, hg]
  | glow hn hglow =>
    obtain ⟨blur, hblur⟩ := Option.isSome_iff_exists.1 hglow
    simp [hblur]
  | arrow he harrow =>
    rw [Scene.arrow_of_mem_build he] at harrow
    simp [Scene.build, harrow]

/-- A line in the stroke of an edge, with an arrowhead if the edge has one. -/
def ShowsEdge (e : EdgeShape Float) (m : Markup) : Prop :=
  ∃ line, m = .leaf "line" line ∧ value? line "stroke" = some e.stroke ∧
    value? line "marker-end" = if e.arrow then some (reference arrowId) else none

/-- A group with the id of a node, of a circle in its fill and stroke and of its label. -/
def ShowsNode (s : Scene Float) (n : NodeShape Float) (m : Markup) : Prop :=
  ∃ group circle text,
    m = .node "g" group [.leaf "circle" circle,
      .node "text" text (if n.label = "" then [] else [.text n.label])] ∧
    value? group "data-id" = some n.id.text ∧ value? group "data-kind" = some n.kind.name ∧
    value? circle "fill" =
      (match n.fill with
        | .solid color => some color
        | .gradient => some (reference gradientId)) ∧
    value? circle "stroke" = some n.stroke ∧
    value? circle "filter" = (if s.defs.glow.isSome then some (reference glowId) else none) ∧
    value? text "fill" = some s.labelColor

/-- One tree: a rectangle in the background of a scene, definitions, and a layer with the edges and
the nodes in their order. -/
def ShowsScene (s : Scene Float) (defs : List Markup) (m : Markup) : Prop :=
  ∃ svg rect zoom links nodes lines groups,
    m = .node "svg" svg [.leaf "rect" rect, .node "defs" [] defs,
      .node "g" zoom [.node "g" links lines, .node "g" nodes groups]] ∧
    value? rect "fill" = some s.background ∧ value? zoom "class" = some "zoom-layer" ∧
    value? links "class" = some "links" ∧ value? nodes "class" = some "nodes" ∧
    List.Forall₂ ShowsEdge s.edges lines ∧ List.Forall₂ (ShowsNode s) s.nodes groups

theorem edge_shows (e : EdgeShape Float) (ms : List Markup) :
    ∃ m, joined (edge e :: ms) = m :: joined ms ∧ ShowsEdge e m := by
  refine ⟨_, joined_leaf _ _ ms, _, rfl, ?_⟩
  cases e.arrow <;> simp

theorem node_shows (s : Scene Float) (n : NodeShape Float) (ms : List Markup) :
    ∃ m, joined (node s n :: ms) = m :: joined ms ∧ ShowsNode s n m := by
  rw [node, joined_node, joined_leaf, joined_node, joined_text, joined_nil]
  refine ⟨_, rfl, _, _, _, rfl, ?_⟩
  cases n.fill <;> cases s.defs.glow.isSome <;> simp [fillText]

theorem tree_shows (s : Scene Float) (width height : Float) (t : Transform Float) :
    ∃ root defs, joined [tree s width height t] = [root] ∧ ShowsScene s defs root ∧
      ids defs = ids [definitions s.defs] := by
  have hedges := joined_map_shows edge_shows s.edges
  have hnodes := joined_map_shows (node_shows s) s.nodes
  simp only [tree, definitions, joined_node, joined_leaf, joined_nil]
  refine ⟨_, _, rfl,
    ⟨_, _, _, _, _, _, _, rfl, by simp, by simp, by simp, by simp, hedges, hnodes⟩, ?_⟩
  rw [ids_joined]
  simp [ids, tags, tagsAll, List.filterMap_cons]

/-- Whatever the texts and numbers of a scene, its document reads as one tree that shows it, with
sound tags and with ids among the definitions only. If the scene was built from a view, what its
shapes refer to is declared once. -/
theorem document_shows_scene (s : Scene Float) (width height : Float) (t : Transform Float) :
    ∃ root defs, read? (render s width height t) = some [root] ∧ ShowsScene s defs root ∧
      (∀ tag ∈ tags root, Sound s tag) ∧ ids [root] = ids defs ∧
      ∀ (v : View Float Float32) (theme : Theme Float), s = Scene.build v theme →
        ∀ id, s.Uses id → (ids defs).count id = 1 := by
  obtain ⟨root, defs, hroot, hshows, hdefs⟩ := tree_shows s width height t
  have htags : tags root = tags (tree s width height t) := by
    have h := tagsAll_joined [tree s width height t]
    simpa [hroot, tagsAll] using h
  have hids : ids [root] = ids [definitions s.defs] := by
    rw [← hroot, ids_joined, ids_tree]
  refine ⟨root, defs, ?_, hshows, ?_, hids.trans hdefs.symm, ?_⟩
  · rw [render, Document.read?_render (tree_wellNamed s width height t), hroot]
  · rw [htags]
    exact tree_sound s width height t
  · rintro v theme rfl id hid
    rw [hdefs]
    exact count_ids_build hid

def tidiedScene : Scene Float :=
  Scene.build (View.ofGraph tidiedGraph .standard .standard 800 600 : View Float Float32) .aurora

/-- The document of the tidied graph shows its scene, markup in the label and all, and declares the
glow and the arrowhead that the shapes refer to. -/
theorem tidied_document_declares :
    ∃ root defs, read? (render tidiedScene 800 600 ⟨400, 300, 1⟩) = some [root] ∧
      ShowsScene tidiedScene defs root ∧ tidiedScene.Uses glowId ∧ tidiedScene.Uses arrowId ∧
      (ids defs).count glowId = 1 ∧ (ids defs).count arrowId = 1 := by
  have hrun : (View.ofGraph tidiedGraph .standard .standard 800 600 : View Float Float32).run? [] =
    some _ := rfl
  have hdraws : tidiedScene.Draws tidiedGraph :=
    (Analysis.run_clean untidyServer_result).draws hrun .aurora
  obtain ⟨n, hn⟩ : ∃ n, n ∈ tidiedScene.nodes := by
    apply List.exists_mem_of_ne_nil
    intro hnil
    have hids := hdraws.ids.length_eq
    rw [hnil] at hids
    cases hids
  obtain ⟨e, he⟩ : ∃ e, e ∈ tidiedScene.edges := by
    apply List.exists_mem_of_ne_nil
    intro hnil
    have hedges := hdraws.edges
    rw [hnil] at hedges
    cases hedges
  have hglow : tidiedScene.Uses glowId := .glow hn rfl
  have harrow : tidiedScene.Uses arrowId := .arrow he (Scene.arrow_of_mem_build he)
  obtain ⟨root, defs, hread, hshows, -, -, honce⟩ :=
    document_shows_scene tidiedScene 800 600 ⟨400, 300, 1⟩
  have hdeclared := honce _ _ rfl
  exact ⟨root, defs, hread, hshows, hglow, harrow, hdeclared _ hglow, hdeclared _ harrow⟩

end Svg

end CodeGraph
