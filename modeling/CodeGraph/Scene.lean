import CodeGraph.View.Action

namespace CodeGraph

structure ArrowMarker (α : Type) where
  size : α
  color : String

structure SceneDefs (α : Type) where
  gradient : Option Gradient
  glow : Option α
  arrow : Option (ArrowMarker α)

inductive Fill
  | solid (color : String)
  | gradient
  deriving DecidableEq

structure NodeShape (α : Type) where
  id : NodeId
  kind : NodeKind
  center : Point α
  radius : α
  fill : Fill
  stroke : String
  strokeWidth : α
  opacity : α
  label : String
  labelOffset : Point α
  labelAnchor : LabelPlacement
  /-- Zero at rest, up to one in a highlight. -/
  emphasis : α
  hovered : Bool
  pinned : Bool

structure EdgeShape (α : Type) where
  source : Point α
  target : Point α
  sourceRadius : α
  targetRadius : α
  stroke : String
  width : α
  opacity : α
  arrow : Bool
  highlighted : Bool

structure Scene (α : Type) where
  background : String
  defs : SceneDefs α
  labelColor : String
  labelSize : α
  /-- Highlighted nodes come last, so that they are drawn on top. -/
  nodes : List (NodeShape α)
  edges : List (EdgeShape α)

namespace Scene

variable {α β : Type} [Scalar α] [Scalar β] [Graded α β]

/-- The size of arrowheads, in units of the graph. -/
def arrowSize : α := 7.0

/-- Fast at first, then slowing down. -/
def easeOutCubic (t : α) : α :=
  let x := 1.0 - t
  1.0 - x * x * x

def lerp (start stop t : α) : α := start * (1.0 - t) + stop * t

def raises (v : View α β) (i : Nat) : Bool := v.hover.isActive && v.hover.lightsNode i

def nodeOpacity (v : View α β) (theme : Theme α) (t : α) (i : Nat) : α :=
  if v.hover.isActive && !raises v i then lerp 1.0 theme.dimNodeOpacity t else 1.0

/-- The radius of a node: that of its style, grown in a highlight, most under the pointer. -/
def nodeRadius (v : View α β) (radius t : α) (i : Nat) : α :=
  if raises v i then
    if v.hover.isOn i then radius * (1.0 + 0.35 * t) else radius * (1.0 + 0.2 * t)
  else radius

def nodeShape (v : View α β) (theme : Theme α) (i : Nat) (n : Node) (b : Body β) : NodeShape α :=
  let t := easeOutCubic v.hover.t
  let style := theme.nodeStyle n.kind
  let radius := nodeRadius v style.radius t i
  { id := n.id
    kind := n.kind
    center := ⟨Graded.widen b.x, Graded.widen b.y⟩
    radius := radius
    fill := if theme.gradient.isSome then .gradient else .solid style.color
    stroke := theme.nodeStroke
    strokeWidth := theme.nodeStrokeWidth
    opacity := nodeOpacity v theme t i
    label := n.label
    labelOffset :=
      match theme.labelPlacement with
      | .above => ⟨0.0, -(theme.maxRadius + 10.0)⟩
      | .right => ⟨radius + 4.0, 4.0⟩
    labelAnchor := theme.labelPlacement
    emphasis := if raises v i then t else 0.0
    hovered := raises v i && v.hover.isOn i
    pinned := b.pinned }

def styleRadius (v : View α β) (theme : Theme α) (i : Nat) : α :=
  match v.nodes[i]? with
  | some n => (theme.nodeStyle n.kind).radius
  | none => theme.fallback.radius

def edgeShape? (v : View α β) (theme : Theme α) (k : Nat) (e : Nat × Nat) :
    Option (EdgeShape α) := do
  let t := easeOutCubic v.hover.t
  let source ← v.position? e.1
  let target ← v.position? e.2
  let active := v.hover.isActive
  let highlighted := active && v.hover.lightsEdge k
  return {
    source := source
    target := target
    sourceRadius := styleRadius v theme e.1
    targetRadius := styleRadius v theme e.2
    stroke := if highlighted then theme.edgeHighlightColor else theme.edgeColor
    width :=
      if highlighted then lerp theme.edgeWidth theme.edgeHighlightWidth t else theme.edgeWidth
    opacity :=
      if highlighted then lerp theme.edgeOpacity 1.0 t
      else if active then lerp theme.edgeOpacity theme.dimEdgeOpacity t
      else theme.edgeOpacity
    arrow := theme.arrowheads
    highlighted := highlighted }

/-- The nodes of a view with their places, in the order of their indices. -/
def placedNodes (v : View α β) : List ((Node × Body β) × Nat) :=
  (v.nodes.zip v.layout.bodies.toList).zipIdx

def build (v : View α β) (theme : Theme α) : Scene α :=
  let placed := placedNodes v
  let shape (p : (Node × Body β) × Nat) : NodeShape α := nodeShape v theme p.2 p.1.1 p.1.2
  { background := theme.background
    defs :=
      { gradient := theme.gradient
        glow := theme.glow
        arrow := if theme.arrowheads then some ⟨arrowSize, theme.edgeColor⟩ else none }
    labelColor := theme.labelColor
    labelSize := theme.labelSize
    nodes := (placed.filter fun p => !raises v p.2).map shape ++
      (placed.filter fun p => raises v p.2).map shape
    edges := v.edges.zipIdx.filterMap fun (e, k) => edgeShape? v theme k e }

def node? (s : Scene α) (id : NodeId) : Option (NodeShape α) := s.nodes.find? fun n => n.id = id

end Scene

end CodeGraph
