import CodeGraph.Drawing.Canvas
import CodeGraph.Drawing.Svg
import CodeGraph.Page.Browser

namespace CodeGraph

/-- A canvas element. Each one put on the page has a number of its own. -/
structure CanvasElement where
  number : Nat
  width : Nat
  height : Nat
  deriving DecidableEq

structure SurfaceSetup where
  config : ViewConfig Float Float32
  fullscreen : Bool
  width : Option Float
  height : Option Float

structure Tip where
  left : Float
  top : Float
  info : View.Tooltip

structure Surface where
  setup : SurfaceSetup
  /-- None while the canvas is off the page. -/
  element : Option CanvasElement
  /-- How many elements there have been. -/
  placed : Nat
  view : View Float Float32
  tip : Option Tip
  /-- The element that the animation was set up on, if it was. -/
  animated : Option Nat
  frameAsked : Bool

namespace Surface

def tipOffset : Float := 12.0

def frameTime : Float32 := 0.016

def sized (e : CanvasElement) (size : Float × Float) : CanvasElement :=
  { e with width := size.1.toUInt32.toNat, height := size.2.toUInt32.toNat }

def freshView (setup : SurfaceSetup) (g : Graph) (size : Float × Float) : View Float Float32 :=
  .ofGraph g setup.config.simulation setup.config.zoom size.1 size.2

/-- Builds the view anew for a graph. Without a canvas the old one stays. -/
def rebuild (s : Surface) (b : Browser) (g : Graph) : Surface × List LogLine :=
  match s.element with
  | none => (s, [])
  | some e =>
    let size := b.measure s.setup.fullscreen s.setup.width s.setup.height
    ({ s with element := some (sized e size), view := freshView s.setup g size, tip := none },
      ⟨.debug, "rebuilding graph view with " ++ toString g.nodes.length ++ " nodes"⟩ ::
        View.buildLog g)

/-- Sets up the animation, once, on a canvas that can be drawn on. -/
def animate (s : Surface) (b : Browser) : Surface × List LogLine :=
  match s.element, s.animated with
  | some e, none =>
    if !b.hasWindow then (s, [⟨.error, "no window, graph view disabled"⟩])
    else if !b.givesContext then (s, [⟨.error, "canvas 2d context unavailable"⟩])
    else ({ s with animated := some e.number, frameAsked := true }, [])
  | _, _ => (s, [])

def placeCanvas (s : Surface) : Surface :=
  { s with element := some ⟨s.placed, 0, 0⟩, placed := s.placed + 1 }

def removeCanvas (s : Surface) : Surface := { s with element := none }

def bare (setup : SurfaceSetup) (b : Browser) (g : Graph) : Surface where
  setup := setup
  element := none
  placed := 0
  view := freshView setup g (b.measure setup.fullscreen setup.width setup.height)
  tip := none
  animated := none
  frameAsked := false

/-- The pointer is pressed. No tooltip stays while a node is dragged. -/
def press (s : Surface) (b : Browser) (p : Point Float) : Surface :=
  if s.element.isSome then
    let v := s.view.pointerDown (p.minus b.corner)
    { s with view := v, tip := if v.drag.isSome then none else s.tip }
  else s

def move (s : Surface) (b : Browser) (p onPage : Point Float) : Surface :=
  if s.element.isSome then
    let v := s.view.pointerMove (p.minus b.corner)
    { s with
      view := v
      tip := v.tooltip?.map fun info => ⟨onPage.x + tipOffset, onPage.y + tipOffset, info⟩ }
  else s

def release (s : Surface) : Surface := { s with view := s.view.pointerUp }

def leave (s : Surface) : Surface := { s with view := s.view.pointerLeave, tip := none }

/-- The wheel turns. Gives whether the view used the event, and none where the view has no
answer. -/
def wheel? (s : Surface) (b : Browser) (p : Point Float) (delta : Float) (alt : Bool) :
    Option (Bool × Surface) :=
  if s.element.isSome then do
    let (used, v) ← s.view.wheel? (p.minus b.corner) delta alt
    return (used, { s with view := v })
  else some (false, s)

def followsWindow (s : Surface) : Bool := s.setup.fullscreen && s.animated.isSome

/-- The window has another size. Of the elements only the animated one follows it. -/
def windowResized (s : Surface) (b : Browser) : Surface :=
  if s.followsWindow then
    let size := b.measure true none none
    { s with
      element := s.element.map fun e => if s.animated = some e.number then sized e size else e
      view := s.view.resize size.1 size.2 }
  else s

structure Frame where
  surface : Surface
  ran : Nat
  painted : List Canvas.Call
  log : List LogLine

def frame (s : Surface) (b : Browser) : Frame :=
  if s.frameAsked then
    let v := s.view.tick frameTime
    { surface := { s with view := v, frameAsked := b.hasWindow }
      ran := 1
      painted := Canvas.render v s.setup.config.theme
      log := s.view.tickLog }
  else ⟨s, 0, [], []⟩

/-- So many frames. Painted is what the last one drew. -/
def frames (s : Surface) (b : Browser) : Nat → Frame
  | 0 => ⟨s, 0, [], []⟩
  | 1 => s.frame b
  | n + 2 =>
    let first := s.frame b
    let rest := first.surface.frames b (n + 1)
    { rest with ran := first.ran + rest.ran, log := first.log ++ rest.log }

def svg (s : Surface) : String :=
  Svg.render (Scene.build s.view s.setup.config.theme) s.view.width s.view.height s.view.transform

end Surface

end CodeGraph
