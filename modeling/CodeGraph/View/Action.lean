import CodeGraph.View.Basic

namespace CodeGraph

/-- An event of a view. A hover names its target, a tick the time since the last one. -/
inductive Action (α β : Type)
  | down (p : Point α)
  | move (p : Point α)
  | up
  | leave
  | wheel (p : Point α) (delta : α) (alt : Bool)
  | hover (target : Option Target)
  | reheat (target : α)
  | resize (width height : α)
  | tick (dt : β)

namespace View

variable {α β : Type} [Scalar α] [Scalar β] [Graded α β]

/-- What a target lights up: a node with its neighbours and its edges, or an edge with its ends. -/
def highlightOf (v : View α β) : Option Target → Highlight
  | none => .empty
  | some (.node i) =>
    let ids := (v.nodes[i]?.bind fun n => v.neighbors.neighbors? n.id).getD []
    { nodes := insertAscending i
        ((ids.filterMap v.nodeIndex?).foldl (fun s n => insertAscending n s) [])
      edges := v.edges.zipIdx.filterMap fun (e, k) =>
        if e.1 = i ∨ e.2 = i then some k else none }
  | some (.edge k) =>
    match v.edges[k]? with
    | some (s, t) => ⟨insertAscending s [t], [k]⟩
    | none => .empty

def setHover (v : View α β) (target : Option Target) : View α β :=
  { v with hover := v.hover.turnTo target (v.highlightOf target) }

def reheat (v : View α β) (target : α) : View α β :=
  { v with temperature := { v.temperature with target := target, running := true } }

/-- The pointer is pressed: it grabs the node under it, or the background. -/
def pointerDown (v : View α β) (p : Point α) : View α β :=
  match v.nodeAt? p with
  | some i =>
    match v.layout.bodies[i]? with
    | some b =>
      (({ v with
          drag := some ⟨i, p, b.position⟩
          layout := v.layout.pin i b.position }).setHover none).reheat v.simulation.dragAlphaTarget
    | none => v
  | none => { v with pan := some ⟨p, ⟨v.transform.x, v.transform.y⟩⟩ }

def dragPlace (v : View α β) (d : Drag α β) (p : Point α) : Point β :=
  ⟨d.nodeStart.x + Graded.narrow ((p.x - d.start.x) / v.transform.k),
    d.nodeStart.y + Graded.narrow ((p.y - d.start.y) / v.transform.k)⟩

/-- The pointer moves: a dragged node or the background follows, else what lies under it is
highlighted. -/
def pointerMove (v : View α β) (p : Point α) : View α β :=
  match v.drag, v.pan with
  | some d, _ => { v with layout := v.layout.pin d.node (v.dragPlace d p) }
  | none, some pan =>
    { v with
      transform := { v.transform with
        x := pan.transformStart.x + (p.x - pan.start.x)
        y := pan.transformStart.y + (p.y - pan.start.y) } }
  | none, none => v.setHover (v.targetAt? p)

def pointerUp (v : View α β) : View α β :=
  match v.drag with
  | some d =>
    { v with
      layout := v.layout.release d.node
      temperature := { v.temperature with target := 0.0 }
      drag := none
      pan := none }
  | none => { v with pan := none }

def pointerLeave (v : View α β) : View α β := v.pointerUp.setHover none

/-- Zooms around the pointer. Gives whether the event was used, and none if the bounds of the zoom
are in no order. -/
def wheel? (v : View α β) (p : Point α) (delta : α) (alt : Bool) : Option (Bool × View α β) :=
  if delta == 0.0 || (v.zoom.requireAlt && !alt) then some (false, v)
  else do
    let factor := if 0.0 < delta then 0.9 else 1.1
    let k ← v.zoom.clamp? (v.transform.k * factor)
    let ratio := k / v.transform.k
    return (true, { v with
      transform :=
        ⟨p.x - (p.x - v.transform.x) * ratio, p.y - (p.y - v.transform.y) * ratio, k⟩ })

def resize (v : View α β) (width height : α) : View α β :=
  { v with
    transform := { v.transform with
      x := v.transform.x + (width - v.width) / 2.0
      y := v.transform.y + (height - v.height) / 2.0 }
    width := width
    height := height }

def nextAlpha (v : View α β) : α :=
  v.temperature.alpha + (v.temperature.target - v.temperature.alpha) * v.simulation.alphaDecay

def cools (v : View α β) : Bool :=
  v.temperature.running && decide (v.nextAlpha < v.simulation.alphaMin)

/-- Moves the layout, if it still moves, by a time scaled with its temperature. -/
def moveLayout (v : View α β) (dt : β) : View α β :=
  if v.temperature.running then
    { v with
      layout := v.layout.update (dt * Graded.narrow v.nextAlpha)
      temperature := { v.temperature with alpha := v.nextAlpha, running := !v.cools } }
  else v

def tick (v : View α β) (dt : β) : View α β :=
  let moved := v.moveLayout dt
  { moved with hover := moved.hover.ease (Graded.widen dt) }

def tickLog (v : View α β) : List LogLine :=
  if v.cools then [⟨.debug, "layout cooled"⟩] else []

def ticks (v : View α β) : Nat → β → View α β × List LogLine
  | 0, _ => (v, [])
  | n + 1, dt =>
    let (w, log) := (v.tick dt).ticks n dt
    (w, v.tickLog ++ log)

/-- The view behind an event; none where the wheel has no answer. -/
def act? (v : View α β) : Action α β → Option (View α β)
  | .down p => some (v.pointerDown p)
  | .move p => some (v.pointerMove p)
  | .up => some v.pointerUp
  | .leave => some v.pointerLeave
  | .wheel p delta alt => (v.wheel? p delta alt).map Prod.snd
  | .hover target => some (v.setHover target)
  | .reheat target => some (v.reheat target)
  | .resize width height => some (v.resize width height)
  | .tick dt => some (v.tick dt)

def run? (v : View α β) (actions : List (Action α β)) : Option (View α β) :=
  actions.foldlM act? v

end View

end CodeGraph
