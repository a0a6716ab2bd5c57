import CodeGraph.Drawing.Canvas
import Mathlib.Data.List.Forall2

namespace CodeGraph.Canvas

/-- A transform: the point `(x, y)` is drawn at `(a * x + c * y + e, b * x + d * y + f)`. -/
structure Frame where
  a : Float
  b : Float
  c : Float
  d : Float
  e : Float
  f : Float

namespace Frame

def translate (m : Frame) (x y : Float) : Frame :=
  { m with e := m.a * x + m.c * y + m.e, f := m.b * x + m.d * y + m.f }

def scale (m : Frame) (x y : Float) : Frame :=
  { m with a := m.a * x, b := m.b * x, c := m.c * y, d := m.d * y }

/-- The frame in which a view with that transform is drawn. -/
def zoomed (m : Frame) (t : Transform Float) : Frame := (m.translate t.x t.y).scale t.k t.k

end Frame

inductive Paint
  | color (name : String)
  | gradient (number : Nat)

/-- What a canvas was told last. -/
structure Pen where
  alpha : Float
  fill : Paint
  stroke : String
  lineWidth : Float
  shadowBlur : Float
  shadowColor : String
  font : String
  align : String
  frame : Frame

inductive Trace
  | rect (x y width height : Float)
  | line (path : List Call)
  | area (path : List Call)
  | text (content : String) (x y : Float)

/-- What one drawing call leaves behind, with the pen that it was drawn in. -/
structure Mark where
  trace : Trace
  pen : Pen

/-- A canvas: its pen, the pens that were saved, the current path, and what has been drawn. The path
is not saved with the pen. -/
structure Board where
  pen : Pen
  saved : List Pen
  path : List Call
  marks : List Mark

namespace Board

def mark (b : Board) (trace : Trace) : Board := { b with marks := b.marks ++ [⟨trace, b.pen⟩] }

/-- One call. A gradient is made beside the canvas, and to restore nothing changes nothing. -/
def call (b : Board) : Call → Board
  | .globalAlpha v => { b with pen := { b.pen with alpha := v } }
  | .fillColor c => { b with pen := { b.pen with fill := .color c } }
  | .fillGradient n => { b with pen := { b.pen with fill := .gradient n } }
  | .strokeColor c => { b with pen := { b.pen with stroke := c } }
  | .lineWidth v => { b with pen := { b.pen with lineWidth := v } }
  | .shadowBlur v => { b with pen := { b.pen with shadowBlur := v } }
  | .shadowColor c => { b with pen := { b.pen with shadowColor := c } }
  | .font v => { b with pen := { b.pen with font := v } }
  | .textAlign v => { b with pen := { b.pen with align := v } }
  | .translate x y => { b with pen := { b.pen with frame := b.pen.frame.translate x y } }
  | .scale x y => { b with pen := { b.pen with frame := b.pen.frame.scale x y } }
  | .save => { b with saved := b.pen :: b.saved }
  | .restore =>
    match b.saved with
    | [] => b
    | pen :: rest => { b with pen := pen, saved := rest }
  | .beginPath => { b with path := [] }
  | .closePath => { b with path := b.path ++ [.closePath] }
  | .moveTo x y => { b with path := b.path ++ [.moveTo x y] }
  | .lineTo x y => { b with path := b.path ++ [.lineTo x y] }
  | .arc x y r start stop => { b with path := b.path ++ [.arc x y r start stop] }
  | .stroke => b.mark (.line b.path)
  | .fill => b.mark (.area b.path)
  | .fillRect x y w h => b.mark (.rect x y w h)
  | .fillText t x y => b.mark (.text t x y)
  | .linearGradient .. | .radialGradient .. | .colorStop .. => b

def draw (b : Board) (calls : List Call) : Board := calls.foldl call b

theorem draw_append (b : Board) (xs ys : List Call) : b.draw (xs ++ ys) = (b.draw xs).draw ys :=
  List.foldl_append

end Board

/-- From a pen with `P`, the calls leave marks with `R` and a pen with `Q`, and keep the saved
pens. -/
def Paints (P : Pen → Prop) (calls : List Call) (R : List Mark → Prop) (Q : Pen → Prop) : Prop :=
  ∀ b : Board, P b.pen → ∃ marks, (b.draw calls).marks = b.marks ++ marks ∧ R marks ∧
    Q (b.draw calls).pen ∧ (b.draw calls).saved = b.saved

namespace Paints

variable {P Q U : Pen → Prop} {xs ys : List Call} {R S : List Mark → Prop}

theorem append (h : Paints P xs R Q) (h' : Paints Q ys S U) :
    Paints P (xs ++ ys) (fun marks => ∃ first second, marks = first ++ second ∧ R first ∧ S second)
      U := by
  intro b hb
  obtain ⟨first, hfirst, hR, hQ, hsaved⟩ := h b hb
  obtain ⟨second, hsecond, hS, hU, hsaved'⟩ := h' (b.draw xs) hQ
  rw [Board.draw_append]
  refine ⟨first ++ second, ?_, ⟨first, second, rfl, hR, hS⟩, hU, hsaved'.trans hsaved⟩
  rw [hsecond, hfirst, List.append_assoc]

theorem imp {R' : List Mark → Prop} (h : Paints P xs R Q) (hR : ∀ marks, R marks → R' marks) :
    Paints P xs R' Q := by
  intro b hb
  obtain ⟨marks, hmarks, hr, hrest⟩ := h b hb
  exact ⟨marks, hmarks, hR marks hr, hrest⟩

theorem before (h : Paints P xs R Q) (h' : Paints Q ys (· = []) U) : Paints P (xs ++ ys) R U := by
  refine (h.append h').imp ?_
  rintro marks ⟨first, second, rfl, hfirst, rfl⟩
  rwa [List.append_nil]

theorem nil : Paints P [] (· = []) P := fun _ hb => ⟨[], (List.append_nil _).symm, rfl, hb, rfl⟩

end Paints

def Parts {γ : Type} (T : γ → List Mark → Prop) (l : List γ) (marks : List Mark) : Prop :=
  ∃ parts, marks = parts.flatten ∧ List.Forall₂ T l parts

namespace Paints

variable {P : Pen → Prop} {γ : Type} {T : γ → List Mark → Prop}

theorem parts_nil : Paints P [] (Parts T []) P := by
  refine nil.imp ?_
  rintro marks rfl
  exact ⟨[], rfl, .nil⟩

theorem parts_cons {x : γ} {l : List γ} {xs ys : List Call} (h : Paints P xs (T x) P)
    (h' : Paints P ys (Parts T l) P) : Paints P (xs ++ ys) (Parts T (x :: l)) P := by
  refine (h.append h').imp ?_
  rintro marks ⟨first, rest, rfl, hfirst, parts, rfl, hparts⟩
  exact ⟨first :: parts, rfl, .cons hfirst hparts⟩

theorem flatMap {f : γ → List Call} (h : ∀ x, Paints P (f x) (T x) P) (l : List γ) :
    Paints P (l.flatMap f) (Parts T l) P := by
  induction l with
  | nil => exact parts_nil
  | cons x l ih => exact parts_cons (h x) ih

end Paints

def OneIf (c : Prop) (R : Mark → Prop) (marks : List Mark) : Prop :=
  (c → ∃ m, marks = [m] ∧ R m) ∧ (¬c → marks = [])

theorem oneIf_pos {c : Prop} {R : Mark → Prop} {m : Mark} (hc : c) (hm : R m) : OneIf c R [m] :=
  ⟨fun _ => ⟨m, rfl, hm⟩, fun h => absurd hc h⟩

theorem oneIf_neg {c : Prop} {R : Mark → Prop} (hc : ¬c) : OneIf c R [] :=
  ⟨fun h => absurd h hc, fun _ => rfl⟩

/-- The alpha and the frame of a pen, and what is known of its shadow. -/
structure Pen.Has (shadow : Float → Prop) (frame : Frame) (alpha : Float) (p : Pen) : Prop where
  alpha : p.alpha = alpha
  frame : p.frame = frame
  shadow : shadow p.shadowBlur

def Mark.IsArrowhead (m : Mark) : Prop :=
  ∃ p q r : Point Float,
    m.trace = .area [.moveTo p.x p.y, .lineTo q.x q.y, .lineTo r.x r.y, .closePath]

def IsShort (e : EdgeShape Float) : Prop := (e.target.minus e.source).length < 0.001

instance (e : EdgeShape Float) : Decidable (IsShort e) :=
  inferInstanceAs (Decidable ((e.target.minus e.source).length < 0.001))

section Shapes

variable (calm : Float → Prop) (frame : Frame) (d : SceneDefs Float)

structure StrokesEdge (e : EdgeShape Float) (m : Mark) : Prop where
  trace : ∃ p q : Point Float, m.trace = .line [.moveTo p.x p.y, .lineTo q.x q.y]
  pen : m.pen.Has calm frame e.opacity
  color : m.pen.stroke = e.stroke
  width : m.pen.lineWidth = e.width

structure FillsArrowhead (e : EdgeShape Float) (m : Mark) : Prop where
  trace : m.IsArrowhead
  pen : m.pen.Has calm frame e.opacity
  color : m.pen.fill = .color e.stroke

/-- A line and its arrowhead, or nothing. -/
def EdgeMarks (e : EdgeShape Float) (marks : List Mark) : Prop :=
  ∃ line head, marks = line ++ head ∧ OneIf (¬IsShort e) (StrokesEdge calm frame e) line ∧
    OneIf (¬IsShort e ∧ 0.0 < arrowLength d e) (FillsArrowhead calm frame e) head

theorem paints_edge (e : EdgeShape Float) :
    Paints (Pen.Has calm frame 1.0) (edge d e) (EdgeMarks calm frame d e)
      (Pen.Has calm frame 1.0) := by
  intro b hb
  unfold edge
  simp only
  split
  · next hshort =>
    refine ⟨[], (List.append_nil _).symm, ⟨[], [], rfl, oneIf_neg (not_not.2 hshort),
      oneIf_neg fun h => h.1 hshort⟩, hb, rfl⟩
  · next hlong =>
    split
    · next hsize =>
      refine ⟨_, List.append_assoc _ _ _, ⟨[_], [_], rfl, oneIf_pos hlong ?_,
        oneIf_pos ⟨hlong, hsize⟩ ?_⟩, ?_, rfl⟩
      · exact ⟨⟨⟨_, _⟩, ⟨_, _⟩, rfl⟩, ⟨rfl, hb.frame, hb.shadow⟩, rfl, rfl⟩
      · exact ⟨⟨⟨_, _⟩, ⟨_, _⟩, ⟨_, _⟩, rfl⟩, ⟨rfl, hb.frame, hb.shadow⟩, rfl⟩
      · exact ⟨rfl, hb.frame, hb.shadow⟩
    · next hsize =>
      refine ⟨_, rfl, ⟨[_], [], rfl, oneIf_pos hlong ?_, oneIf_neg fun h => hsize h.2⟩, ?_, rfl⟩
      · exact ⟨⟨⟨_, _⟩, ⟨_, _⟩, rfl⟩, ⟨rfl, hb.frame, hb.shadow⟩, rfl, rfl⟩
      · exact ⟨rfl, hb.frame, hb.shadow⟩

theorem paints_alpha (shadow : Float → Prop) (old new : Float) :
    Paints (Pen.Has shadow frame old) [.globalAlpha new] (· = []) (Pen.Has shadow frame new) :=
  fun _ hb => ⟨[], (List.append_nil _).symm, rfl, ⟨rfl, hb.frame, hb.shadow⟩, rfl⟩

def disc (n : NodeShape Float) (radius : Float) : List Call :=
  [.arc n.center.x n.center.y radius 0.0 fullTurn]

structure FillsHalo (n : NodeShape Float) (m : Mark) : Prop where
  trace : m.trace = .area (disc n (haloRadius n))
  pen : m.pen.Has calm frame 1.0
  paint : ∃ number, m.pen.fill = .gradient number

theorem paints_halo (next : Nat) (n : NodeShape Float) :
    Paints (Pen.Has calm frame 1.0) (halo next n)
      (OneIf (hasHalo n = true ∧ haloAllowed n = true) (FillsHalo calm frame n))
      (Pen.Has calm frame 1.0) := by
  intro b hb
  unfold halo
  split
  · next hhalo =>
    split
    · next hallowed =>
      exact ⟨_, rfl, oneIf_pos ⟨hhalo, hallowed⟩ ⟨rfl, ⟨hb.alpha, hb.frame, hb.shadow⟩, next, rfl⟩,
        ⟨hb.alpha, hb.frame, hb.shadow⟩, rfl⟩
    · next hrefused =>
      exact ⟨[], (List.append_nil _).symm, oneIf_neg fun h => hrefused h.2, hb, rfl⟩
  · next hnone =>
    exact ⟨[], (List.append_nil _).symm, oneIf_neg fun h => hnone h.1, hb, rfl⟩

theorem paints_discFill (next : Nat) (n : NodeShape Float) (alpha : Float) :
    Paints (Pen.Has calm frame alpha) (discFill next d n) (· = []) (Pen.Has calm frame alpha) := by
  intro b hb
  unfold discFill
  split <;> exact ⟨[], (List.append_nil _).symm, rfl, ⟨hb.alpha, hb.frame, hb.shadow⟩, rfl⟩

/-- The shadow under the disc of a node: twice the glow, if there is one and the disc has a colour
of its own. -/
def DiscShadow (n : NodeShape Float) (blur : Float) : Prop :=
  match d.glow, n.fill with
  | some glow, .solid _ => blur = glow * 2.0
  | _, _ => calm blur

theorem paints_discShadow (n : NodeShape Float) (alpha : Float) :
    Paints (Pen.Has calm frame alpha) (discShadow d n) (· = [])
      (Pen.Has (DiscShadow calm d n) frame alpha) := by
  intro b hb
  refine ⟨[], ?_, rfl, ?_, ?_⟩
  · unfold discShadow
    split <;> exact (List.append_nil _).symm
  · unfold discShadow DiscShadow
    cases d.glow with
    | none => exact hb
    | some glow =>
      cases n.fill with
      | solid color => exact ⟨hb.alpha, hb.frame, rfl⟩
      | gradient => exact hb
  · unfold discShadow
    split <;> rfl

structure FillsDisc (n : NodeShape Float) (m : Mark) : Prop where
  trace : m.trace = .area (disc n n.radius)
  pen : m.pen.Has (DiscShadow calm d n) frame n.opacity

structure StrokesRim (n : NodeShape Float) (m : Mark) : Prop where
  trace : m.trace = .line (disc n n.radius)
  pen : m.pen.Has calm frame n.opacity
  color : m.pen.stroke = n.stroke
  width : m.pen.lineWidth = n.strokeWidth

structure StrokesRing (n : NodeShape Float) (m : Mark) : Prop where
  trace : m.trace = .line (disc n (n.radius + 2.0))
  pen : m.pen.Has calm frame n.opacity

theorem paints_ring (n : NodeShape Float) :
    Paints (Pen.Has calm frame n.opacity) (ring n)
      (OneIf (n.hovered = true ∧ hasHalo n = true) (StrokesRing calm frame n))
      (Pen.Has calm frame n.opacity) := by
  intro b hb
  unfold ring
  split
  · next hring =>
    exact ⟨_, rfl,
      oneIf_pos (Bool.and_eq_true_iff.1 hring) ⟨rfl, ⟨hb.alpha, hb.frame, hb.shadow⟩⟩,
      ⟨hb.alpha, hb.frame, hb.shadow⟩, rfl⟩
  · next hnone =>
    exact ⟨[], (List.append_nil _).symm, oneIf_neg fun h => hnone (Bool.and_eq_true_iff.2 h), hb,
      rfl⟩

/-- A halo if there can be one, the disc with its rim, and a ring under the pointer. -/
def NodeMarks (n : NodeShape Float) (marks : List Mark) : Prop :=
  ∃ halo area rim ring, marks = halo ++ area :: rim :: ring ∧
    OneIf (hasHalo n = true ∧ haloAllowed n = true) (FillsHalo calm frame n) halo ∧
    FillsDisc calm frame d n area ∧ StrokesRim calm frame n rim ∧
    OneIf (n.hovered = true ∧ hasHalo n = true) (StrokesRing calm frame n) ring

variable {calm} (hcalm : calm 0.0)
include hcalm

theorem paints_disc (n : NodeShape Float) :
    Paints (Pen.Has (DiscShadow calm d n) frame n.opacity)
      [.beginPath, .arc n.center.x n.center.y n.radius 0.0 fullTurn, .fill, .shadowBlur 0.0,
        .shadowColor "transparent", .strokeColor n.stroke, .lineWidth n.strokeWidth, .stroke]
      (fun marks => ∃ area rim, marks = [area, rim] ∧ FillsDisc calm frame d n area ∧
        StrokesRim calm frame n rim)
      (Pen.Has calm frame n.opacity) := by
  intro b hb
  refine ⟨_, List.append_assoc _ _ _, ⟨_, _, rfl, ⟨rfl, hb.alpha, hb.frame, hb.shadow⟩, ?_⟩, ?_,
    rfl⟩
  · exact ⟨rfl, ⟨hb.alpha, hb.frame, hcalm⟩, rfl, rfl⟩
  · exact ⟨hb.alpha, hb.frame, hcalm⟩

theorem paints_node (next : Nat) (n : NodeShape Float) :
    Paints (Pen.Has calm frame 1.0) (node next d n) (NodeMarks calm frame d n)
      (Pen.Has calm frame 1.0) := by
  have hhalo := (paints_halo calm frame next n).before (paints_alpha frame calm 1.0 n.opacity)
  have hfill := (hhalo.before (paints_discFill calm frame d (afterHalo next n) n n.opacity)).before
    (paints_discShadow calm frame d n n.opacity)
  have hdisc := (hfill.append (paints_disc frame d hcalm n)).append (paints_ring calm frame n)
  refine (hdisc.before (paints_alpha frame calm n.opacity 1.0)).imp ?_
  rintro marks ⟨first, ring, rfl, ⟨halo, body, rfl, hhalo, area, rim, rfl, harea, hrim⟩, hring⟩
  exact ⟨halo, area, rim, ring, by simp, hhalo, harea, hrim, hring⟩

theorem paints_nodes (next : Nat) (ns : List (NodeShape Float)) :
    Paints (Pen.Has calm frame 1.0) (nodes d next ns) (Parts (NodeMarks calm frame d) ns)
      (Pen.Has calm frame 1.0) := by
  induction ns generalizing next with
  | nil => exact .parts_nil
  | cons n ns ih => exact .parts_cons (paints_node frame d hcalm next n) (ih _)

end Shapes

def labelFont (s : Scene Float) (t : Transform Float) : String :=
  Number.plain (s.labelSize / Scalar.max t.k 0.5) ++ "px sans-serif"

structure Pen.Letters (calm : Float → Prop) (frame : Frame) (s : Scene Float) (t : Transform Float)
    (p : Pen) : Prop where
  frame : p.frame = frame
  shadow : calm p.shadowBlur
  font : p.font = labelFont s t
  color : p.fill = .color s.labelColor

section Labels

variable (calm : Float → Prop) (frame : Frame) (s : Scene Float) (t : Transform Float)

structure WritesLabel (n : NodeShape Float) (m : Mark) : Prop where
  trace : ∃ p : Point Float, m.trace = .text n.label p.x p.y
  pen : m.pen.Letters calm frame s t
  alpha : m.pen.alpha = n.opacity
  align : m.pen.align = alignText n.labelAnchor

theorem paints_label (n : NodeShape Float) :
    Paints (Pen.Letters calm frame s t) (label n)
      (OneIf (n.label ≠ "") (WritesLabel calm frame s t n)) (Pen.Letters calm frame s t) := by
  intro b hb
  unfold label
  split
  · next hempty =>
    exact ⟨[], (List.append_nil _).symm, oneIf_neg (not_not.2 (by simpa using hempty)), hb, rfl⟩
  · next hlabel =>
    have hpen : Pen.Letters calm frame s t
        { b.pen with alpha := n.opacity, align := alignText n.labelAnchor } :=
      ⟨hb.frame, hb.shadow, hb.font, hb.color⟩
    exact ⟨_, rfl, oneIf_pos (by simpa using hlabel) ⟨⟨⟨_, _⟩, rfl⟩, hpen, rfl, rfl⟩, hpen, rfl⟩

end Labels

/-- The marks of a scene behind its background: the edges, the nodes, and the labels of the nodes,
each in the order of the scene. -/
def SceneMarks (calm : Float → Prop) (frame : Frame) (s : Scene Float) (t : Transform Float)
    (marks : List Mark) : Prop :=
  ∃ edges nodes labels, marks = edges ++ nodes ++ labels ∧
    Parts (EdgeMarks calm frame s.defs) s.edges edges ∧
    Parts (NodeMarks calm frame s.defs) s.nodes nodes ∧
    Parts (fun n => OneIf (n.label ≠ "") (WritesLabel calm frame s t n)) s.nodes labels

def opening (s : Scene Float) (width height : Float) : List Call :=
  [.globalAlpha 1.0, .fillColor s.background, .fillRect 0.0 0.0 width height, .save]

def shapes (s : Scene Float) (t : Transform Float) : List Call :=
  s.edges.flatMap (edge s.defs) ++ nodes s.defs 0 s.nodes ++
    [.font (labelFont s t), .fillColor s.labelColor] ++ s.nodes.flatMap label

theorem paint_eq (s : Scene Float) (t : Transform Float) (width height : Float) :
    paint s t width height =
      opening s width height ++ [.translate t.x t.y, .scale t.k t.k] ++ shapes s t ++
        [.restore, .globalAlpha 1.0] := by
  simp only [paint, opening, shapes, labelFont, List.append_assoc, List.cons_append,
    List.nil_append]

theorem paints_shapes {calm : Float → Prop} (hcalm : calm 0.0) (frame : Frame) (s : Scene Float)
    (t : Transform Float) :
    Paints (Pen.Has calm frame 1.0) (shapes s t) (SceneMarks calm frame s t)
      (Pen.Letters calm frame s t) := by
  have hletters : Paints (Pen.Has calm frame 1.0)
      [.font (labelFont s t), .fillColor s.labelColor] (· = []) (Pen.Letters calm frame s t) :=
    fun _ hb => ⟨[], (List.append_nil _).symm, rfl, ⟨hb.frame, hb.shadow, rfl, rfl⟩, rfl⟩
  have hedges := Paints.flatMap (paints_edge calm frame s.defs) s.edges
  have hnodes := paints_nodes frame s.defs hcalm 0 s.nodes
  have hlabels := Paints.flatMap (paints_label calm frame s t) s.nodes
  refine (((hedges.append hnodes).before hletters).append hlabels).imp ?_
  rintro marks ⟨discs, labels, rfl, ⟨edges, nodes, rfl, hedges, hnodes⟩, hlabels⟩
  exact ⟨edges, nodes, labels, rfl, hedges, hnodes, hlabels⟩

theorem exists_of_mem_parts {γ : Type} {T : γ → List Mark → Prop} {l : List γ} {marks : List Mark}
    {m : Mark} (h : Parts T l marks) (hm : m ∈ marks) : ∃ x ∈ l, ∃ part, T x part ∧ m ∈ part := by
  obtain ⟨parts, rfl, hparts⟩ := h
  induction hparts with
  | nil => cases hm
  | @cons x part l parts hpart _ ih =>
    rw [List.flatten_cons, List.mem_append] at hm
    rcases hm with hm | hm
    · exact ⟨x, List.mem_cons_self, part, hpart, hm⟩
    · obtain ⟨y, hy, hrest⟩ := ih hm
      exact ⟨y, List.mem_cons_of_mem _ hy, hrest⟩

theorem OneIf.of_mem {c : Prop} {R : Mark → Prop} {marks : List Mark} {m : Mark}
    (h : OneIf c R marks) (hm : m ∈ marks) : c ∧ R m := by
  by_cases hc : c
  · obtain ⟨m', rfl, hm'⟩ := h.1 hc
    exact ⟨hc, List.mem_singleton.1 hm ▸ hm'⟩
  · rw [h.2 hc] at hm
    cases hm

/-- Every mark of a scene but the discs is drawn without a glow. -/
theorem SceneMarks.shadow {calm : Float → Prop} {frame : Frame} {s : Scene Float}
    {t : Transform Float} {marks : List Mark} {m : Mark} (h : SceneMarks calm frame s t marks)
    (hm : m ∈ marks) : calm m.pen.shadowBlur ∨
      ∃ n ∈ s.nodes, m.trace = .area (disc n n.radius) ∧
        DiscShadow calm s.defs n m.pen.shadowBlur := by
  obtain ⟨edges, nodes, labels, rfl, hedges, hnodes, hlabels⟩ := h
  rcases List.mem_append.1 hm with hm | hm
  · rcases List.mem_append.1 hm with hm | hm
    · obtain ⟨e, -, part, ⟨line, head, rfl, hline, hhead⟩, hm⟩ := exists_of_mem_parts hedges hm
      rcases List.mem_append.1 hm with hm | hm
      · exact .inl (hline.of_mem hm).2.pen.shadow
      · exact .inl (hhead.of_mem hm).2.pen.shadow
    · obtain ⟨n, hn, part, ⟨halo, area, rim, ring, rfl, hhalo, harea, hrim, hring⟩, hm⟩ :=
        exists_of_mem_parts hnodes hm
      rw [List.mem_append, List.mem_cons, List.mem_cons] at hm
      rcases hm with hm | rfl | rfl | hm
      · exact .inl (hhalo.of_mem hm).2.pen.shadow
      · exact .inr ⟨n, hn, harea.trace, harea.pen.shadow⟩
      · exact .inl hrim.pen.shadow
      · exact .inl (hring.of_mem hm).2.pen.shadow
  · obtain ⟨n, -, part, hlabel, hm⟩ := exists_of_mem_parts hlabels hm
    exact .inl (hlabel.of_mem hm).2.pen.shadow

def Call.stacks : Call → Bool
  | .save | .restore => true
  | _ => false

theorem edge_stacks (d : SceneDefs Float) (e : EdgeShape Float) :
    (edge d e).filter Call.stacks = [] := by
  unfold edge
  simp only
  split
  · rfl
  · split <;> rfl

theorem node_stacks (next : Nat) (d : SceneDefs Float) (n : NodeShape Float) :
    (node next d n).filter Call.stacks = [] := by
  have hhalo : (halo next n).filter Call.stacks = [] := by
    unfold halo
    split
    · split <;> rfl
    · rfl
  have hfill : (discFill (afterHalo next n) d n).filter Call.stacks = [] := by
    unfold discFill
    split <;> rfl
  have hshadow : (discShadow d n).filter Call.stacks = [] := by
    unfold discShadow
    split <;> rfl
  have hring : (ring n).filter Call.stacks = [] := by
    unfold ring
    split <;> rfl
  simp only [node, List.filter_append, hhalo, hfill, hshadow, hring]
  rfl

theorem nodes_stacks (d : SceneDefs Float) (next : Nat) (ns : List (NodeShape Float)) :
    (nodes d next ns).filter Call.stacks = [] := by
  induction ns generalizing next with
  | nil => rfl
  | cons n ns ih => rw [nodes, List.filter_append, node_stacks, ih, List.append_nil]

theorem label_stacks (n : NodeShape Float) : (label n).filter Call.stacks = [] := by
  unfold label
  split <;> rfl

/-- A frame saves once, and restores once behind it. -/
theorem paint_stacks (s : Scene Float) (t : Transform Float) (width height : Float) :
    (paint s t width height).filter Call.stacks = [.save, .restore] := by
  have hedges : (s.edges.flatMap (edge s.defs)).filter Call.stacks = [] := by
    simp [List.filter_flatMap, edge_stacks]
  have hlabels : (s.nodes.flatMap label).filter Call.stacks = [] := by
    simp [List.filter_flatMap, label_stacks]
  simp only [paint, List.filter_append, hedges, nodes_stacks, hlabels]
  rfl

namespace Board

def cleared (b : Board) (s : Scene Float) : Pen :=
  { b.pen with alpha := 1.0, fill := .color s.background }

/-- Painting a scene leaves the background and the marks of the scene, restores what it saved, and
leaves a pen that only the background has changed. -/
theorem draw_paint {calm : Float → Prop} (hcalm : calm 0.0) (b : Board)
    (hb : calm b.pen.shadowBlur) (s : Scene Float) (t : Transform Float) (width height : Float) :
    (b.draw (paint s t width height)).pen = b.cleared s ∧
      (b.draw (paint s t width height)).saved = b.saved ∧
      ∃ marks, (b.draw (paint s t width height)).marks =
          b.marks ++ ⟨.rect 0.0 0.0 width height, b.cleared s⟩ :: marks ∧
        SceneMarks calm (b.pen.frame.zoomed t) s t marks := by
  let begun : Board :=
    { b with
      pen := { b.cleared s with frame := b.pen.frame.zoomed t }
      saved := b.cleared s :: b.saved
      marks := b.marks ++ [⟨.rect 0.0 0.0 width height, b.cleared s⟩] }
  have hbegun :
      (b.draw (opening s width height)).draw [.translate t.x t.y, .scale t.k t.k] = begun := rfl
  obtain ⟨marks, hmarks, hscene, -, hsaved⟩ :=
    paints_shapes hcalm (b.pen.frame.zoomed t) s t begun ⟨rfl, rfl, hb⟩
  rw [paint_eq, draw_append, draw_append, draw_append, hbegun]
  -- nothing has touched the saved pen, and so it comes back
  have hrestored : (begun.draw (shapes s t)).call .restore =
      { begun.draw (shapes s t) with pen := b.cleared s, saved := b.saved } := by
    simp only [call, hsaved, begun]
  have hend : (begun.draw (shapes s t)).draw [.restore, .globalAlpha 1.0] =
      ((begun.draw (shapes s t)).call .restore).call (.globalAlpha 1.0) := rfl
  rw [hend, hrestored]
  refine ⟨rfl, rfl, marks, ?_, hscene⟩
  exact hmarks.trans (List.append_assoc _ _ _)

end Board

/-- On a canvas without shadow, whatever the scene and the transform: the frame saves and restores
once. Every edge, node and label is drawn in its own opacity and every halo in full, and only the
disc of a node with a colour of its own has a shadow, twice the glow. Behind the frame alpha is one,
there is no shadow, and all but the fill is as before. -/
theorem paint_leaves_pen (s : Scene Float) (t : Transform Float) (width height : Float) (b : Board)
    (hb : b.pen.shadowBlur = 0.0) :
    (paint s t width height).filter Call.stacks = [.save, .restore] ∧
      (b.draw (paint s t width height)).saved = b.saved ∧
      (b.draw (paint s t width height)).pen =
        { b.pen with alpha := 1.0, fill := .color s.background, shadowBlur := 0.0 } ∧
      ∃ marks, (b.draw (paint s t width height)).marks =
          b.marks ++ ⟨.rect 0.0 0.0 width height, b.cleared s⟩ :: marks ∧
        SceneMarks (· = 0.0) (b.pen.frame.zoomed t) s t marks ∧
        ∀ m ∈ marks, m.pen.shadowBlur ≠ 0.0 → ∃ n ∈ s.nodes, ∃ color glow,
          n.fill = .solid color ∧ s.defs.glow = some glow ∧ m.trace = .area (disc n n.radius) ∧
            m.pen.shadowBlur = glow * 2.0 := by
  obtain ⟨hpen, hsaved, marks, hmarks, hscene⟩ :=
    @Board.draw_paint (· = 0.0) rfl b hb s t width height
  refine ⟨paint_stacks s t width height, hsaved, ?_, marks, hmarks, hscene, ?_⟩
  · rw [hpen, Board.cleared, ← hb]
  · intro m hm hglows
    rcases hscene.shadow hm with hcalm | ⟨n, hn, htrace, hshadow⟩
    · exact absurd hcalm hglows
    · unfold DiscShadow at hshadow
      split at hshadow
      · next glow color hglow hfill => exact ⟨n, hn, color, glow, hfill, hglow, htrace, hshadow⟩
      · exact absurd hshadow hglows

def blank : Board where
  pen :=
    { alpha := 1.0, fill := .color "#000000", stroke := "#000000", lineWidth := 1.0,
      shadowBlur := 0.0, shadowColor := "transparent", font := "10px sans-serif", align := "start",
      frame := ⟨1.0, 0.0, 0.0, 1.0, 0.0, 0.0⟩ }
  saved := []
  path := []
  marks := []

/-- A node under the pointer at no place, so that its halo cannot be made. -/
def lostNode : NodeShape Float where
  id := ⟨"a"⟩
  kind := .unknown
  center := ⟨0.0 / 0.0, 0.0⟩
  radius := 6.0
  fill := .solid "#ff0000"
  stroke := "#ffffff"
  strokeWidth := 1.0
  opacity := 0.5
  label := "a"
  labelOffset := ⟨0.0, 0.0⟩
  labelAnchor := .above
  emphasis := 1.0
  hovered := true
  pinned := false

def closedEdge : EdgeShape Float where
  source := ⟨0.0, 0.0⟩
  target := ⟨0.0, 0.0⟩
  sourceRadius := 6.0
  targetRadius := 6.0
  stroke := "#00ff00"
  width := 1.0
  opacity := 0.25
  arrow := true
  highlighted := false

def lostScene : Scene Float where
  background := "#0000ff"
  defs := { gradient := none, glow := some 8.0, arrow := some ⟨7.0, "#00ff00"⟩ }
  labelColor := "#ffffff"
  labelSize := 10.0
  nodes := [lostNode]
  edges := [closedEdge]

/-- The edge and the halo leave nothing, and only the disc glows. -/
theorem lost_scene_leaves_pen :
    blank.pen.shadowBlur = 0.0 ∧
      ∃ area rim ring text, (blank.draw (paint lostScene ⟨3.0, 4.0, 2.0⟩ 800.0 600.0)).marks =
          [⟨.rect 0.0 0.0 800.0 600.0, blank.cleared lostScene⟩, area, rim, ring, text] ∧
        area.pen.shadowBlur = 8.0 * 2.0 ∧ area.pen.alpha = 0.5 ∧
        rim.pen.shadowBlur = 0.0 ∧ ring.pen.alpha = 0.5 ∧ text.pen.alpha = 0.5 ∧
        (blank.draw (paint lostScene ⟨3.0, 4.0, 2.0⟩ 800.0 600.0)).pen =
          { blank.pen with alpha := 1.0, fill := .color "#0000ff", shadowBlur := 0.0 } := by
  refine ⟨rfl, ?_⟩
  obtain ⟨-, -, hpen, marks, hmarks, hscene, -⟩ :=
    paint_leaves_pen lostScene ⟨3.0, 4.0, 2.0⟩ 800.0 600.0 blank rfl
  obtain ⟨edges, nodes, labels, rfl, ⟨edgeParts, rfl, hedges⟩, ⟨nodeParts, rfl, hnodes⟩,
    labelParts, rfl, hlabels⟩ := hscene
  obtain ⟨edge, rest, ⟨line, head, rfl, hline, hhead⟩, hnil, rfl⟩ :=
    List.forall₂_cons_left_iff.1 hedges
  cases hnil
  obtain ⟨node, rest, ⟨halo, area, rim, ring, rfl, hhalo, harea, hrim, hring⟩, hnil, rfl⟩ :=
    List.forall₂_cons_left_iff.1 hnodes
  cases hnil
  obtain ⟨label, rest, hlabel, hnil, rfl⟩ := List.forall₂_cons_left_iff.1 hlabels
  cases hnil
  have hshort : IsShort closedEdge := by decide +kernel
  have hrefused : ¬(hasHalo lostNode = true ∧ haloAllowed lostNode = true) := by decide +kernel
  obtain rfl := hline.2 (not_not.2 hshort)
  obtain rfl := hhead.2 fun h => h.1 hshort
  obtain rfl := hhalo.2 hrefused
  obtain ⟨ring, rfl, hdrawn⟩ := hring.1 ⟨rfl, by decide +kernel⟩
  obtain ⟨text, rfl, htext⟩ := hlabel.1 (by decide)
  exact ⟨area, rim, ring, text, hmarks, harea.pen.shadow, harea.pen.alpha, hrim.pen.shadow,
    hdrawn.pen.alpha, htext.alpha, hpen⟩

end CodeGraph.Canvas
