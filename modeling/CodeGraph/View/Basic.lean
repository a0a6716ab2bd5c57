import CodeGraph.Graph.Basic
import CodeGraph.View.Config
import CodeGraph.View.Hover

namespace CodeGraph

/-- From graph to screen: scaled by `k`, then moved. -/
structure Transform (α : Type) where
  x : α
  y : α
  k : α

/-- A node being dragged: where the pointer and the node were at the start. -/
structure Drag (α β : Type) where
  node : Nat
  start : Point α
  nodeStart : Point β

structure Pan (α : Type) where
  start : Point α
  transformStart : Point α

/-- The temperature of the layout, the one it tends to, and whether the layout still moves. -/
structure Temperature (α : Type) where
  alpha : α
  target : α
  running : Bool

structure View (α β : Type) where
  nodes : List Node
  /-- Source and target of each link, as node indices. -/
  edges : List (Nat × Nat)
  neighbors : NeighborMap
  layout : Layout β
  transform : Transform α
  drag : Option (Drag α β)
  pan : Option (Pan α)
  hover : Hover α
  temperature : Temperature α
  width : α
  height : α
  simulation : Simulation α β
  zoom : Zoom α

namespace View

variable {α β : Type}

/-- The first node of each id, with its place among all nodes. -/
def firstNodes (seen : List NodeId) : List (Node × Nat) → List (Node × Nat)
  | [] => []
  | (n, i) :: rest =>
    if n.id ∈ seen then firstNodes seen rest else (n, i) :: firstNodes (n.id :: seen) rest

def indexIn (nodes : List Node) (id : NodeId) : Option Nat := nodes.findIdx? fun n => n.id = id

def resolveLink (nodes : List Node) (l : Link) : Option (Nat × Nat) :=
  match indexIn nodes l.source, indexIn nodes l.target with
  | some s, some t => some (s, t)
  | _, _ => none

variable [Scalar α] [Scalar β]

def spread (count : Nat) : α := Scalar.max 100.0 (10.0 * Scalar.sqrt (Scalar.ofNat count))

def startPlace [Graded α β] (count i : Nat) : Point β :=
  let angle : α := Scalar.ofNat i * 2.0 * Scalar.pi / Scalar.ofNat count
  ⟨Graded.narrow (spread count * Scalar.cos angle), Graded.narrow (spread count * Scalar.sin angle)⟩

/-- A fresh view of a graph. Links of a node with itself are drawn, but have no spring. -/
def ofGraph [Graded α β] (g : Graph) (sim : Simulation α β) (zoom : Zoom α) (width height : α) :
    View α β :=
  let placed := firstNodes [] g.nodes.zipIdx
  let nodes := placed.map Prod.fst
  let edges := g.links.filterMap (resolveLink nodes)
  let count := max g.nodes.length 1
  let bodies := placed.map fun (_, i) =>
    let p : Point β := startPlace (α := α) count i
    Body.atRest p.x p.y sim.mass
  let layout : Layout β := { Layout.empty sim.forces with bodies := bodies.toArray }
  { nodes := nodes
    edges := edges
    neighbors := .ofGraph g
    layout := edges.foldl (fun l e => if e.1 = e.2 then l else l.addSpring e.1 e.2) layout
    transform := ⟨width / 2.0, height / 2.0, 1.0⟩
    drag := none
    pan := none
    hover := .none
    temperature := ⟨1.0, 0.0, true⟩
    width := width
    height := height
    simulation := sim
    zoom := zoom }

def duplicateWarnings (seen : List NodeId) : List Node → List LogLine
  | [] => []
  | n :: rest =>
    if n.id ∈ seen then
      ⟨.warn, "duplicate node id " ++ n.id.text ++ " skipped"⟩ :: duplicateWarnings seen rest
    else duplicateWarnings (n.id :: seen) rest

def buildLog (g : Graph) : List LogLine :=
  let nodes := (firstNodes [] g.nodes.zipIdx).map Prod.fst
  let edges := g.links.filterMap (resolveLink nodes)
  duplicateWarnings [] g.nodes ++
    (g.links.filter fun l => (resolveLink nodes l).isNone).map (fun l =>
      ⟨.warn, "link " ++ l.source.text ++ " -> " ++ l.target.text ++
        " references a missing node"⟩) ++
    [⟨.debug, "simulation built with " ++ toString nodes.length ++ " nodes and " ++
      toString edges.length ++ " edges"⟩]

def nodeIndex? (v : View α β) (id : NodeId) : Option Nat := indexIn v.nodes id

def position? [Graded α β] (v : View α β) (i : Nat) : Option (Point α) :=
  v.layout.bodies[i]?.map fun b => ⟨Graded.widen b.x, Graded.widen b.y⟩

def positions [Graded α β] (v : View α β) : List (Point α) :=
  v.layout.bodies.toList.map fun b => ⟨Graded.widen b.x, Graded.widen b.y⟩

def toGraph (v : View α β) (p : Point α) : Point α :=
  ⟨(p.x - v.transform.x) / v.transform.k, (p.y - v.transform.y) / v.transform.k⟩

def toScreen (v : View α β) (p : Point α) : Point α :=
  ⟨p.x * v.transform.k + v.transform.x, p.y * v.transform.k + v.transform.y⟩

structure Tooltip where
  fqname : String
  kind : NodeKind
  location : Option String
  deriving DecidableEq

def tooltip? (v : View α β) : Option Tooltip := do
  let n ← v.nodes[← v.hover.node?]?
  return ⟨n.fqname, n.kind, n.location⟩

variable [Graded α β]

/-- How near the pointer must be to a node, in units of the graph. -/
def nodeReach : α := 12.0

/-- How near the pointer must be to an edge, in units of the screen. -/
def edgeReach : α := 4.0

def nearest (reach : α) (distances : List (Nat × α)) : Option (Nat × α) :=
  distances.foldl (fun best d =>
    if d.2 < reach && best.all (fun b => decide (d.2 < b.2)) then some d else best) none

def nodeDistances (v : View α β) (p : Point α) : List (Nat × α) :=
  v.positions.zipIdx.map fun (q, i) => (i, (q.minus p).length)

def edgeDistances (v : View α β) (p : Point α) : List (Nat × α) :=
  v.edges.zipIdx.filterMap fun (e, i) => do
    return (i, Segment.distance p (← v.position? e.1) (← v.position? e.2))

def nodeAt? (v : View α β) (p : Point α) : Option Nat :=
  (nearest nodeReach (v.nodeDistances (v.toGraph p))).map Prod.fst

def edgeAt? (v : View α β) (p : Point α) : Option Nat :=
  (nearest (edgeReach / v.transform.k) (v.edgeDistances (v.toGraph p))).map Prod.fst

/-- Nodes come before the edges below them. -/
def targetAt? (v : View α β) (p : Point α) : Option Target :=
  match v.nodeAt? p with
  | some i => some (.node i)
  | none => (v.edgeAt? p).map .edge

end View

end CodeGraph
