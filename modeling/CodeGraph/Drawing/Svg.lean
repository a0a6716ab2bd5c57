import CodeGraph.Drawing.Markup
import CodeGraph.Number.Text
import CodeGraph.Scene

namespace CodeGraph.Svg

open Markup (attr)
open Number (plain twoPlaces)

def gradientId : String := "gradNode"

def glowId : String := "glow"

def arrowId : String := "arrow"

def reference (id : String) : String := "url(#" ++ id ++ ")"

def glowFilter (blur : Float) : Markup :=
  .node "filter" [attr "id" glowId] [
    .leaf "feGaussianBlur" [attr "stdDeviation" (plain blur), attr "result" "blur"],
    .node "feMerge" [] [
      .leaf "feMergeNode" [attr "in" "blur"],
      .leaf "feMergeNode" [attr "in" "SourceGraphic"]]]

def linearGradient (g : Gradient) : Markup :=
  .node "linearGradient" [attr "id" gradientId, attr "x1" "0%", attr "x2" "100%"] [
    .leaf "stop" [attr "offset" "0%", attr "stop-color" g.start],
    .leaf "stop" [attr "offset" "100%", attr "stop-color" g.stop]]

def arrowMarker (a : ArrowMarker Float) : Markup :=
  .node "marker" [attr "id" arrowId, attr "viewBox" "0 -5 10 10", attr "refX" "10",
    attr "refY" "0", attr "markerWidth" (plain a.size),
    attr "markerHeight" (plain a.size), attr "markerUnits" "userSpaceOnUse",
    attr "orient" "auto"] [
    .leaf "path" [attr "d" "M0,-5L10,0L0,5", attr "fill" a.color]]

def definitions (d : SceneDefs Float) : Markup :=
  .node "defs" [] ((d.glow.map glowFilter).toList ++ (d.gradient.map linearGradient).toList ++
    (d.arrow.map arrowMarker).toList)

/-- A line from rim to rim. -/
def edge (e : EdgeShape Float) : Markup :=
  let d := e.target.minus e.source
  let dist := Scalar.max d.length Segment.pointLimit
  let ux := d.x / dist
  let uy := d.y / dist
  .leaf "line" ([attr "class" "edge",
    attr "x1" (twoPlaces (e.source.x + ux * e.sourceRadius)),
    attr "y1" (twoPlaces (e.source.y + uy * e.sourceRadius)),
    attr "x2" (twoPlaces (e.target.x - ux * e.targetRadius)),
    attr "y2" (twoPlaces (e.target.y - uy * e.targetRadius)),
    attr "stroke" e.stroke, attr "stroke-width" (plain e.width),
    attr "stroke-opacity" (plain e.opacity)] ++
    if e.arrow then [attr "marker-end" (reference arrowId)] else [])

def fillText : Fill → String
  | .solid color => color
  | .gradient => reference gradientId

def anchorText : LabelPlacement → String
  | .above => "middle"
  | .right => "start"

/-- A disc with its label. -/
def node (s : Scene Float) (n : NodeShape Float) : Markup :=
  .node "g" [attr "class" "node", attr "data-id" n.id.text,
    attr "data-kind" n.kind.name,
    attr "transform" ("translate(" ++ twoPlaces n.center.x ++ "," ++ twoPlaces n.center.y ++ ")"),
    attr "opacity" (plain n.opacity)] [
    .leaf "circle" ([attr "r" (plain n.radius), attr "fill" (fillText n.fill),
      attr "stroke" n.stroke, attr "stroke-width" (plain n.strokeWidth)] ++
      if s.defs.glow.isSome then [attr "filter" (reference glowId)] else []),
    .node "text" [attr "x" (plain n.labelOffset.x), attr "y" (plain n.labelOffset.y),
      attr "text-anchor" (anchorText n.labelAnchor), attr "font-size" (plain s.labelSize),
      attr "fill" s.labelColor] [.text n.label]]

def tree (s : Scene Float) (width height : Float) (t : Transform Float) : Markup :=
  .node "svg" [attr "xmlns" "http://www.w3.org/2000/svg", attr "width" (plain width),
    attr "height" (plain height),
    attr "viewBox" ("0 0 " ++ plain width ++ " " ++ plain height)] [
    .leaf "rect" [attr "width" "100%", attr "height" "100%",
      attr "fill" s.background],
    definitions s.defs,
    .node "g" [attr "class" "zoom-layer",
      attr "transform"
        ("translate(" ++ plain t.x ++ "," ++ plain t.y ++ ") scale(" ++ plain t.k ++ ")")] [
      .node "g" [attr "class" "links"] (s.edges.map edge),
      .node "g" [attr "class" "nodes"] (s.nodes.map (node s))]]

def render (s : Scene Float) (width height : Float) (t : Transform Float) : String :=
  (tree s width height t).render .document

end CodeGraph.Svg
