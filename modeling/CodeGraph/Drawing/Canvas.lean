import CodeGraph.Number.Text
import CodeGraph.Scene

namespace CodeGraph.Canvas

inductive Call
  | globalAlpha (value : Float)
  | fillColor (color : String)
  | fillGradient (number : Nat)
  | strokeColor (color : String)
  | lineWidth (value : Float)
  | shadowBlur (value : Float)
  | shadowColor (color : String)
  | font (value : String)
  | textAlign (value : String)
  | fillRect (x y width height : Float)
  | save
  | restore
  | beginPath
  | closePath
  | moveTo (x y : Float)
  | lineTo (x y : Float)
  | stroke
  | fill
  | translate (x y : Float)
  | scale (x y : Float)
  | arc (x y radius start stop : Float)
  | fillText (text : String) (x y : Float)
  | linearGradient (x0 y0 x1 y1 : Float)
  | radialGradient (x0 y0 r0 x1 y1 r1 : Float)
  | colorStop (number : Nat) (offset : Float) (color : String)

def gradientName (number : Nat) : String := "g" ++ toString number

def Call.words : Call → List String
  | .globalAlpha v => ["globalAlpha", Number.plain v]
  | .fillColor c => ["fillStyle", c]
  | .fillGradient n => ["fillStyle", gradientName n]
  | .strokeColor c => ["strokeStyle", c]
  | .lineWidth v => ["lineWidth", Number.plain v]
  | .shadowBlur v => ["shadowBlur", Number.plain v]
  | .shadowColor c => ["shadowColor", c]
  | .font v => ["font", v]
  | .textAlign v => ["textAlign", v]
  | .fillRect x y w h => "fillRect" :: [x, y, w, h].map Number.plain
  | .save => ["save"]
  | .restore => ["restore"]
  | .beginPath => ["beginPath"]
  | .closePath => ["closePath"]
  | .moveTo x y => "moveTo" :: [x, y].map Number.plain
  | .lineTo x y => "lineTo" :: [x, y].map Number.plain
  | .stroke => ["stroke"]
  | .fill => ["fill"]
  | .translate x y => "translate" :: [x, y].map Number.plain
  | .scale x y => "scale" :: [x, y].map Number.plain
  | .arc x y r a b => "arc" :: [x, y, r, a, b].map Number.plain
  | .fillText t x y => "fillText" :: t :: [x, y].map Number.plain
  | .linearGradient a b c d => "createLinearGradient" :: [a, b, c, d].map Number.plain
  | .radialGradient a b c d e f => "createRadialGradient" :: [a, b, c, d, e, f].map Number.plain
  | .colorStop n o c => ["addColorStop", gradientName n, Number.plain o, c]

def Call.line (c : Call) : String := " ".intercalate c.words

def fullTurn : Float := 2.0 * Scalar.pi

def arrowLength (d : SceneDefs Float) (e : EdgeShape Float) : Float :=
  match d.arrow with
  | some marker => if e.arrow then marker.size else 0.0
  | none => 0.0

def arrowhead (e : EdgeShape Float) (u : Point Float) (size : Float) : List Call :=
  let tipX := e.target.x - u.x * e.targetRadius
  let tipY := e.target.y - u.y * e.targetRadius
  let backX := tipX - u.x * size
  let backY := tipY - u.y * size
  let px := -u.y * size * 0.5
  let py := u.x * size * 0.5
  [.fillColor e.stroke, .beginPath, .moveTo tipX tipY, .lineTo (backX + px) (backY + py),
    .lineTo (backX - px) (backY - py), .closePath, .fill]

/-- An edge from rim to rim. One without length is not drawn. -/
def edge (d : SceneDefs Float) (e : EdgeShape Float) : List Call :=
  let way := e.target.minus e.source
  let dist := way.length
  if dist < 0.001 then []
  else
    let size := arrowLength d e
    let u : Point Float := ⟨way.x / dist, way.y / dist⟩
    [.globalAlpha e.opacity, .strokeColor e.stroke, .lineWidth e.width, .beginPath,
      .moveTo (e.source.x + u.x * e.sourceRadius) (e.source.y + u.y * e.sourceRadius),
      .lineTo (e.target.x - u.x * (e.targetRadius + size))
        (e.target.y - u.y * (e.targetRadius + size)),
      .stroke] ++
    (if 0.0 < size then arrowhead e u size else []) ++ [.globalAlpha 1.0]

/-- Whether a canvas can make a radial gradient: finite arguments, and no negative radius. -/
def radialAllowed (x y r0 r1 : Float) : Bool :=
  x.isFinite && y.isFinite && r0.isFinite && r1.isFinite && !(r0 < 0.0) && !(r1 < 0.0)

/-- Below this emphasis a node has neither halo nor ring. -/
def emphasisLimit : Float := 0.01

def white (alpha : Float) : String := "rgba(255, 255, 255, " ++ Number.plain alpha ++ ")"

def paleBlue (alpha : Float) : String := "rgba(200, 220, 255, " ++ Number.plain alpha ++ ")"

def haloRadius (n : NodeShape Float) : Float :=
  if n.hovered then n.radius * (1.8 + 1.2 * n.emphasis) else n.radius * (1.4 + 0.6 * n.emphasis)

def hasHalo (n : NodeShape Float) : Bool := emphasisLimit < n.emphasis

def haloAllowed (n : NodeShape Float) : Bool :=
  radialAllowed n.center.x n.center.y (n.radius * 0.3) (haloRadius n)

def halo (next : Nat) (n : NodeShape Float) : List Call :=
  if hasHalo n then
    .radialGradient n.center.x n.center.y (n.radius * 0.3) n.center.x n.center.y (haloRadius n) ::
    if haloAllowed n then
      let alpha := if n.hovered then 0.35 * n.emphasis else 0.2 * n.emphasis
      [.colorStop next 0.0 (white alpha), .colorStop next 0.6 (paleBlue (alpha * 0.3)),
        .colorStop next 1.0 "rgba(255, 255, 255, 0)", .beginPath,
        .arc n.center.x n.center.y (haloRadius n) 0.0 fullTurn, .fillGradient next, .fill]
    else []
  else []

def afterHalo (next : Nat) (n : NodeShape Float) : Nat :=
  if hasHalo n && haloAllowed n then next + 1 else next

/-- The fill of a disc, in gradient `next` if it needs one. -/
def discFill (next : Nat) (d : SceneDefs Float) (n : NodeShape Float) : List Call :=
  match n.fill, d.gradient with
  | .solid color, _ => [.fillColor color]
  | .gradient, some g =>
    [.linearGradient (n.center.x - n.radius) n.center.y (n.center.x + n.radius) n.center.y,
      .colorStop next 0.0 g.start, .colorStop next 1.0 g.stop, .fillGradient next]
  | .gradient, none => [.fillColor "#cccccc"]

def afterDisc (next : Nat) (d : SceneDefs Float) (n : NodeShape Float) : Nat :=
  if n.fill = .gradient && d.gradient.isSome then next + 1 else next

def discShadow (d : SceneDefs Float) (n : NodeShape Float) : List Call :=
  match d.glow, n.fill with
  | some blur, .solid color => [.shadowBlur (blur * 2.0), .shadowColor color]
  | _, _ => []

def ring (n : NodeShape Float) : List Call :=
  if n.hovered && hasHalo n then
    [.beginPath, .arc n.center.x n.center.y (n.radius + 2.0) 0.0 fullTurn,
      .strokeColor (white (0.7 * n.emphasis)), .lineWidth 1.5, .stroke]
  else []

/-- A node with its halo and ring; `next` is the number of its first gradient. -/
def node (next : Nat) (d : SceneDefs Float) (n : NodeShape Float) : List Call :=
  halo next n ++ [.globalAlpha n.opacity] ++ discFill (afterHalo next n) d n ++ discShadow d n ++
    [.beginPath, .arc n.center.x n.center.y n.radius 0.0 fullTurn, .fill, .shadowBlur 0.0,
      .shadowColor "transparent", .strokeColor n.stroke, .lineWidth n.strokeWidth, .stroke] ++
    ring n ++ [.globalAlpha 1.0]

def nodes (d : SceneDefs Float) : Nat → List (NodeShape Float) → List Call
  | _, [] => []
  | next, n :: rest => node next d n ++ nodes d (afterDisc (afterHalo next n) d n) rest

def alignText : LabelPlacement → String
  | .above => "center"
  | .right => "start"

def label (n : NodeShape Float) : List Call :=
  if n.label.isEmpty then []
  else [.globalAlpha n.opacity, .textAlign (alignText n.labelAnchor),
    .fillText n.label (n.center.x + n.labelOffset.x) (n.center.y + n.labelOffset.y)]

/-- All calls of a frame: background, edges, nodes, labels. Labels shrink with the zoom only down to
one half. -/
def paint (s : Scene Float) (t : Transform Float) (width height : Float) : List Call :=
  [.globalAlpha 1.0, .fillColor s.background, .fillRect 0.0 0.0 width height, .save,
    .translate t.x t.y, .scale t.k t.k] ++
  s.edges.flatMap (edge s.defs) ++ nodes s.defs 0 s.nodes ++
  [.font (Number.plain (s.labelSize / Scalar.max t.k 0.5) ++ "px sans-serif"),
    .fillColor s.labelColor] ++
  s.nodes.flatMap label ++ [.restore, .globalAlpha 1.0]

def render (v : View Float Float32) (theme : Theme Float) : List Call :=
  paint (Scene.build v theme) v.transform v.width v.height

end CodeGraph.Canvas
