import CodeGraph.Graph.Basic
import CodeGraph.Layout

namespace CodeGraph

structure NodeStyle (α : Type) where
  radius : α
  color : String

structure Gradient where
  start : String
  stop : String

inductive LabelPlacement
  | above
  | right
  deriving DecidableEq

structure Theme (α : Type) where
  background : String
  classStyle : NodeStyle α
  functionStyle : NodeStyle α
  methodStyle : NodeStyle α
  fallback : NodeStyle α
  gradient : Option Gradient
  glow : Option α
  nodeStroke : String
  nodeStrokeWidth : α
  edgeColor : String
  edgeWidth : α
  edgeOpacity : α
  edgeHighlightColor : String
  edgeHighlightWidth : α
  dimNodeOpacity : α
  dimEdgeOpacity : α
  arrowheads : Bool
  labelColor : String
  labelSize : α
  labelPlacement : LabelPlacement

namespace Theme

variable {α : Type} [Scalar α]

def aurora : Theme α where
  background := "#0b1020"
  classStyle := ⟨8.0, "#a48bff"⟩
  functionStyle := ⟨6.0, "#00d4ff"⟩
  methodStyle := ⟨5.0, "#ff9f6b"⟩
  fallback := ⟨6.0, "#cccccc"⟩
  gradient := none
  glow := some 2.0
  nodeStroke := "rgba(255, 255, 255, 0.6)"
  nodeStrokeWidth := 0.8
  edgeColor := "#9fb3ff"
  edgeWidth := 1.1
  edgeOpacity := 0.35
  edgeHighlightColor := "#a8d1ff"
  edgeHighlightWidth := 1.1
  dimNodeOpacity := 0.12
  dimEdgeOpacity := 0.06
  arrowheads := true
  labelColor := "#eaf2ff"
  labelSize := 10.0
  labelPlacement := .above

def gradientDiscs : Theme α where
  background := "#0f172a"
  classStyle := ⟨10.0, "#7c5cff"⟩
  functionStyle := ⟨10.0, "#7c5cff"⟩
  methodStyle := ⟨10.0, "#7c5cff"⟩
  fallback := ⟨10.0, "#7c5cff"⟩
  gradient := some ⟨"#7c5cff", "#00e0b8"⟩
  glow := none
  nodeStroke := "#0b1220"
  nodeStrokeWidth := 1.5
  edgeColor := "#1e293b"
  edgeWidth := 1.2
  edgeOpacity := 0.6
  edgeHighlightColor := "#ffffff"
  edgeHighlightWidth := 2.4
  dimNodeOpacity := 0.12
  dimEdgeOpacity := 0.06
  arrowheads := false
  labelColor := "#dbe9ff"
  labelSize := 12.0
  labelPlacement := .right

def nodeStyle (t : Theme α) : NodeKind → NodeStyle α
  | .classDef => t.classStyle
  | .functionDef => t.functionStyle
  | .methodDef => t.methodStyle
  | .unknown => t.fallback

/-- The greatest radius of all styles, and at least zero. -/
def maxRadius (t : Theme α) : α :=
  [t.classStyle, t.functionStyle, t.methodStyle, t.fallback].foldl
    (fun r s => Scalar.max r s.radius) 0.0

end Theme

/-- The layout's forces are narrow numbers, its cooling is computed in wide ones. -/
structure Simulation (α β : Type) where
  forces : Forces β
  mass : β
  alphaMin : α
  alphaDecay : α
  dragAlphaTarget : α

/-- A decay that takes the temperature from one to its least value in three hundred ticks. -/
def Simulation.standard {α β : Type} [Scalar α] [Scalar β] : Simulation α β where
  forces := ⟨150.0, 0.05, 100.0, 3000.0, 0.9⟩
  mass := 10.0
  alphaMin := 0.001
  alphaDecay := 0.02276277904418933
  dragAlphaTarget := 0.3

structure Zoom (α : Type) where
  least : α
  greatest : α
  requireAlt : Bool

namespace Zoom

variable {α : Type} [Scalar α]

def standard : Zoom α := ⟨0.2, 3.0, false⟩

/-- A scale moved into the bounds; none if the bounds are in no order. -/
def clamp? (z : Zoom α) (k : α) : Option α :=
  if z.least ≤ z.greatest then some (Scalar.clamp z.least z.greatest k) else none

end Zoom

structure ViewConfig (α β : Type) where
  theme : Theme α
  simulation : Simulation α β
  zoom : Zoom α

def ViewConfig.standard {α β : Type} [Scalar α] [Scalar β] : ViewConfig α β :=
  ⟨.aurora, .standard, .standard⟩

end CodeGraph
