import CodeGraph.Proofs.SceneDocument

namespace CodeGraph

namespace Document

open Markup (documentEscape escape)

def delimiters : List Char := ['<', '>', '"', '\'']

/-- A text with its entities resolved; none if one of them is unknown or cut off. -/
def unescape? (s : String) : Option String :=
  ((s.toList.foldlM Passage.next? .empty).bind Passage.end?).map String.ofList

theorem toList_escape (s : String) : (escape s).toList = s.toList.flatMap documentEscape :=
  String.toList_ofList

theorem escape_safe (s : String) : ∀ c ∈ (escape s).toList, c ∉ delimiters := by
  intro c hc
  rw [toList_escape] at hc
  obtain ⟨d, -, hd⟩ := List.mem_flatMap.1 hc
  exact documentEscape_safe d c hd

theorem ampersand_not_mem_tail (c : Char) : '&' ∉ (documentEscape c).tail := by
  by_cases h : c ∈ specials
  · simp only [specials, List.mem_cons, List.not_mem_nil, or_false] at h
    rcases h with rfl | rfl | rfl | rfl | rfl <;> decide
  · rw [documentEscape_ordinary h]
    exact List.not_mem_nil

theorem documentEscape_ampersand {c : Char} {before after : List Char}
    (h : documentEscape c = before ++ '&' :: after) : before = [] ∧ c ∈ specials := by
  have hbegins : before = [] := by
    cases before with
    | nil => rfl
    | cons d before =>
      refine (ampersand_not_mem_tail c ?_).elim
      rw [h]
      simp
  refine ⟨hbegins, ?_⟩
  by_contra hc
  rw [documentEscape_ordinary hc, hbegins] at h
  cases h
  exact hc List.mem_cons_self

/-- No entity is formed across what is written for two characters. -/
theorem ampersand_begins_escape {cs before after : List Char}
    (h : cs.flatMap documentEscape = before ++ '&' :: after) :
    ∃ c ∈ specials, documentEscape c <+: '&' :: after := by
  induction cs generalizing before with
  | nil => simp at h
  | cons c cs ih =>
    rw [List.flatMap_cons, List.append_eq_append_iff] at h
    -- the ampersand stands behind what is written for the first character, or within it
    rcases h with ⟨rest, -, hrest⟩ | ⟨part, hpart, hrest⟩
    · exact ih hrest
    · cases part with
      | nil =>
        have hnext : cs.flatMap documentEscape = [] ++ '&' :: after := hrest.symm
        exact ih hnext
      | cons d part =>
        obtain rfl : '&' = d := (List.cons.inj hrest).1
        obtain ⟨rfl, hc⟩ := documentEscape_ampersand hpart
        exact ⟨c, hc, _, by rw [hrest, hpart]; rfl⟩

theorem ampersand_begins_entity {s : String} {before after : List Char}
    (h : (escape s).toList = before ++ '&' :: after) :
    ∃ name ∈ ["amp", "lt", "gt", "quot", "#39"], name.toList ++ [';'] <+: after := by
  rw [toList_escape] at h
  obtain ⟨c, hc, hbegins⟩ := ampersand_begins_escape h
  simp only [specials, List.mem_cons, List.not_mem_nil, or_false] at hc
  rcases hc with rfl | rfl | rfl | rfl | rfl
  · exact ⟨"amp", by simp, (List.cons_prefix_cons.1 hbegins).2⟩
  · exact ⟨"lt", by simp, (List.cons_prefix_cons.1 hbegins).2⟩
  · exact ⟨"gt", by simp, (List.cons_prefix_cons.1 hbegins).2⟩
  · exact ⟨"quot", by simp, (List.cons_prefix_cons.1 hbegins).2⟩
  · exact ⟨"#39", by simp, (List.cons_prefix_cons.1 hbegins).2⟩

theorem unescape?_escape (s : String) : unescape? (escape s) = some s := by
  have hread : (escape s).toList.foldlM Passage.next? .empty = some ⟨s.toList, none⟩ := by
    rw [toList_escape]
    exact escapeAll_next? s.toList []
  simp [unescape?, hread, Passage.end?]

theorem documentEscape_of_entity? {name : List Char} {c : Char} (h : entity? name = some c) :
    documentEscape c = '&' :: name ++ [';'] := by
  unfold entity? at h
  split at h <;> cases h <;> rfl

/-- What was written for a passage: its text, escaped, and the entity that has begun. -/
def Passage.source (p : Passage) : List Char :=
  p.text.flatMap documentEscape ++
    match p.entity with
    | none => []
    | some name => '&' :: name

theorem Passage.next?_source {p q : Passage} {c : Char} (hc : c ∉ delimiters)
    (h : p.next? c = some q) : q.source = p.source ++ [c] := by
  obtain ⟨text, _ | name⟩ := p
  · -- outside of an entity every character but the ampersand stands for itself
    by_cases hamp : c = '&'
    · cases h
      simp [source, hamp]
    · have hplain : documentEscape c = [c] := by
        apply documentEscape_ordinary
        rintro (_ | ⟨_, hspecial⟩)
        · exact hamp rfl
        · exact hc hspecial
      cases h
      simp [source, hamp, hplain]
  · by_cases hend : c = ';'
    · simp only [next?, hend, if_true] at h
      obtain ⟨d, hd, rfl⟩ := Option.map_eq_some_iff.1 h
      simp [source, documentEscape_of_entity? hd, hend]
    · simp only [next?, if_neg hend] at h
      cases h
      simp [source]

theorem Passage.foldlM_source {cs : List Char} {p q : Passage} (hcs : ∀ c ∈ cs, c ∉ delimiters)
    (h : cs.foldlM Passage.next? p = some q) : q.source = p.source ++ cs := by
  induction cs generalizing p with
  | nil =>
    cases h
    simp
  | cons c cs ih =>
    rw [List.foldlM_cons] at h
    obtain ⟨r, hr, hq⟩ := Option.bind_eq_some_iff.1 h
    rw [ih (fun d hd => hcs d (List.mem_cons_of_mem c hd)) hq,
      next?_source (hcs c List.mem_cons_self) hr, List.append_assoc]
    rfl

/-- A text without delimiters is the escaped form of what it resolves to. -/
theorem eq_escape_of_unescape? {s t : String} (ht : ∀ c ∈ t.toList, c ∉ delimiters)
    (h : unescape? t = some s) : t = escape s := by
  obtain ⟨text, hend, rfl⟩ := Option.map_eq_some_iff.1 h
  obtain ⟨⟨_, _ | name⟩, hread, hend⟩ := Option.bind_eq_some_iff.1 hend
  · cases hend
    have hsource := Passage.foldlM_source ht hread
    rw [← String.toList_inj, toList_escape, String.toList_ofList]
    simpa [Passage.source, Passage.empty] using hsource.symm
  · cases hend

theorem escape_injective : Function.Injective escape := by
  intro s t h
  have hread := unescape?_escape s
  rw [h, unescape?_escape] at hread
  exact (Option.some.inj hread).symm

def values (name key : String) (ms : List Markup) : List String :=
  (tagsAll ms).filterMap fun tag => if tag.name = name then value? tag.attributes key else none

theorem values_joined (name key : String) (ms : List Markup) :
    values name key (joined ms) = values name key ms := by
  rw [values, tagsAll_joined, values]

theorem map_eq_of_shows {γ δ : Type} {shows shows' : γ → Markup → Prop} {f f' : γ → δ}
    {l l' : List γ} {ms : List Markup} (h : List.Forall₂ shows l ms)
    (h' : List.Forall₂ shows' l' ms) (hshows : ∀ x y m, shows x m → shows' y m → f x = f' y) :
    l.map f = l'.map f' := by
  induction h generalizing l' with
  | nil =>
    cases h'
    rfl
  | cons hx _ ih =>
    cases h' with
    | cons hy hrest => rw [List.map_cons, List.map_cons, hshows _ _ _ hx hy, ih hrest]

end Document

/-- The texts of a node. Its fill is a colour, or refers to the gradient. -/
structure NodeWording where
  id : String
  label : String
  labelColor : String
  stroke : String
  fill : String

/-- The texts that a scene brings into its document. -/
structure Wording where
  background : String
  gradient : Option Gradient
  arrow : Option String
  strokes : List String
  nodes : List NodeWording

def Scene.nodeWording (s : Scene Float) (n : NodeShape Float) : NodeWording :=
  ⟨n.id.text, n.label, s.labelColor, n.stroke, Svg.fillText n.fill⟩

def Scene.wording (s : Scene Float) : Wording :=
  ⟨s.background, s.defs.gradient, s.defs.arrow.map ArrowMarker.color,
    s.edges.map EdgeShape.stroke, s.nodes.map s.nodeWording⟩

namespace Svg

open Document Markup

theorem ShowsEdge.stroke_eq {e e' : EdgeShape Float} {m : Markup} (h : ShowsEdge e m)
    (h' : ShowsEdge e' m) : e.stroke = e'.stroke := by
  obtain ⟨line, rfl, hstroke, -⟩ := h
  obtain ⟨line', hline, hstroke', -⟩ := h'
  cases hline
  exact Option.some.inj (hstroke.symm.trans hstroke')

theorem ShowsNode.wording_eq {s s' : Scene Float} {n n' : NodeShape Float} {m : Markup}
    (h : ShowsNode s n m) (h' : ShowsNode s' n' m) : s.nodeWording n = s'.nodeWording n' := by
  obtain ⟨group, circle, text, rfl, hid, -, hfill, hstroke, -, hcolor⟩ := h
  obtain ⟨group', circle', text', hm, hid', -, hfill', hstroke', -, hcolor'⟩ := h'
  simp only [Markup.node.injEq, Markup.leaf.injEq, List.cons.injEq, true_and, and_true] at hm
  obtain ⟨rfl, rfl, rfl, hlabel⟩ := hm
  have hlabels : n.label = n'.label := by
    split_ifs at hlabel with hempty hempty'
    · rw [hempty, hempty']
    · exact Markup.text.inj (List.cons.inj hlabel).1
  have hpaint : value? circle "fill" = some (fillText n.fill) := by
    rw [hfill]
    cases n.fill <;> rfl
  have hpaint' : value? circle "fill" = some (fillText n'.fill) := by
    rw [hfill']
    cases n'.fill <;> rfl
  rw [Scene.nodeWording, Scene.nodeWording, hlabels,
    Option.some.inj (hid.symm.trans hid'), Option.some.inj (hcolor.symm.trans hcolor'),
    Option.some.inj (hstroke.symm.trans hstroke'),
    Option.some.inj (hpaint.symm.trans hpaint')]

theorem values_stop_definitions (d : SceneDefs Float) :
    values "stop" "stop-color" [definitions d] =
      (d.gradient.map fun g => [g.start, g.stop]).getD [] := by
  obtain ⟨_ | _, _ | _, _ | _⟩ := d <;> rfl

theorem values_path_definitions (d : SceneDefs Float) :
    values "path" "fill" [definitions d] = (d.arrow.map ArrowMarker.color).toList := by
  obtain ⟨_ | _, _ | _, _ | _⟩ := d <;> rfl

theorem colors_eq_of_definitions {d d' : SceneDefs Float}
    (h : joined [definitions d] = joined [definitions d']) :
    d.gradient = d'.gradient ∧
      d.arrow.map ArrowMarker.color = d'.arrow.map ArrowMarker.color := by
  have hstops := congrArg (values "stop" "stop-color") h
  have hheads := congrArg (fun ms => (values "path" "fill" ms).head?) h
  simp only [values_joined, values_stop_definitions] at hstops
  simp only [values_joined, values_path_definitions, Option.head?_toList] at hheads
  refine ⟨?_, hheads⟩
  generalize d.gradient = g, d'.gradient = g' at hstops
  obtain _ | ⟨start, stop⟩ := g <;> obtain _ | ⟨start', stop'⟩ := g' <;> simp at hstops ⊢
  exact hstops

theorem parts_eq_of_joined {s s' : Scene Float} {width height width' height' : Float}
    {t t' : Transform Float}
    (h : joined [tree s width height t] = joined [tree s' width' height' t']) :
    s.background = s'.background ∧ joined [definitions s.defs] = joined [definitions s'.defs] ∧
      joined (s.edges.map edge) = joined (s'.edges.map edge) ∧
      joined (s.nodes.map (node s)) = joined (s'.nodes.map (node s')) := by
  simp only [tree, definitions, joined_node, joined_leaf, joined_nil, List.cons.injEq,
    Markup.node.injEq, Markup.leaf.injEq, true_and, and_true] at h
  obtain ⟨-, hbackground, hdefs, -, hedges, hnodes⟩ := h
  refine ⟨?_, ?_, hedges, hnodes⟩
  · simpa [attr] using hbackground
  · simp only [definitions, joined_node, hdefs]

/-- The texts of a scene can be told from its document, whatever they hold. -/
theorem wording_eq_of_render {s s' : Scene Float} {width height width' height' : Float}
    {t t' : Transform Float} (h : render s width height t = render s' width' height' t') :
    s.wording = s'.wording := by
  have hread := congrArg read? h
  rw [render, render, Document.read?_render (tree_wellNamed s width height t),
    Document.read?_render (tree_wellNamed s' width' height' t'), Option.some_inj] at hread
  obtain ⟨hbackground, hdefs, hedges, hnodes⟩ := parts_eq_of_joined hread
  obtain ⟨hgradient, harrow⟩ := colors_eq_of_definitions hdefs
  have hlines := joined_map_shows edge_shows s.edges
  have hgroups := joined_map_shows (node_shows s) s.nodes
  rw [hedges] at hlines
  rw [hnodes] at hgroups
  have hstrokes := map_eq_of_shows hlines (joined_map_shows edge_shows s'.edges)
    fun _ _ _ => ShowsEdge.stroke_eq
  have hwordings := map_eq_of_shows hgroups (joined_map_shows (node_shows s') s'.nodes)
    fun _ _ _ => ShowsNode.wording_eq
  rw [Scene.wording, Scene.wording, hbackground, hgradient, harrow, hstrokes, hwordings]

end Svg

namespace Document

open Markup (escape)

/-- Every text, escaped, is free of quotes and angle brackets, and every ampersand in it begins one
of the five entities. Resolving the entities gives the text back, and no other text that is free of
quotes and brackets resolves to it. So escaping keeps texts apart, and a document the ids, labels
and colours of its scene. -/
theorem escaping_keeps_texts_apart :
    (∀ s : String, (∀ c ∈ (escape s).toList, c ∉ ['<', '>', '"', '\'']) ∧
      (∀ before after, (escape s).toList = before ++ '&' :: after →
        ∃ name ∈ ["amp", "lt", "gt", "quot", "#39"], name.toList ++ [';'] <+: after) ∧
      unescape? (escape s) = some s ∧
      ∀ t : String, (∀ c ∈ t.toList, c ∉ ['<', '>', '"', '\'']) → unescape? t = some s →
        t = escape s) ∧
      Function.Injective escape ∧
      ∀ (s s' : Scene Float) (width height width' height' : Float) (t t' : Transform Float),
        Svg.render s width height t = Svg.render s' width' height' t' → s.wording = s'.wording :=
  ⟨fun s => ⟨escape_safe s, fun _ _ => ampersand_begins_entity, unescape?_escape s,
      fun _ => eq_escape_of_unescape?⟩,
    escape_injective, fun _ _ _ _ _ _ _ _ => Svg.wording_eq_of_render⟩

-- A text that looks escaped is escaped once more, and resolved once.
example : escape "&amp;lt;" = "&amp;amp;lt;" ∧ unescape? "&amp;amp;lt;" = some "&amp;lt;" := by
  decide

example : unescape? "a & b" = none ∧ unescape? "&copy;" = none := by decide

end Document

end CodeGraph
