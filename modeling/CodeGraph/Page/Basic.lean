import CodeGraph.Page.Analyzer
import CodeGraph.Page.Surface

namespace CodeGraph

inductive Content
  | analyzer (a : Analyzer)
  | given (g : Graph)

namespace Content

def graph : Content → Graph
  | .analyzer a => a.graph
  | .given g => g

def graphSignal (c : Content) (revision : Memo Nat) : Reading Graph :=
  match c with
  | .analyzer a => a.graphSignal revision
  | .given g => ⟨g, [.signal .given], revision⟩

def revision? : Content → Option Nat
  | .analyzer a => some a.session.revision
  | .given _ => none

end Content

/-- An effect runs once in any case, and then when something changes that its last run has read. -/
inductive Effect
  | due
  | watching (sources : List Source)

def Effect.watches : Effect → Source → Bool
  | .due, _ => true
  | .watching sources, s => sources.contains s

structure Page where
  browser : Browser
  surface : Surface
  content : Content
  /-- The effect that builds the view. -/
  builder : Effect
  revision : Memo Nat

namespace Page

/-- An event of a page. Places of the pointer are in the window, that of a move also on the page. -/
inductive Event
  | type (text : String)
  | key (name : String)
  | analyze
  | download
  | press (p : Point Float)
  | move (p onPage : Point Float)
  | release
  | leave
  | wheel (p : Point Float) (delta : Float) (alt : Bool)
  | reply (request : Nat) (r : Analysis.Reply)
  | frames (n : Nat)
  | windowResized (width height : Option Float)
  | browserChanged (b : Browser)
  | given (g : Graph)
  | canvasPlaced
  | canvasRemoved

inductive Result
  | nothing
  /-- Whether an element of the page heard it, or a request waited for it. -/
  | heard (yes : Bool)
  | disabled
  | wheel (prevented : Bool)
  | frames (ran : Nat) (painted : List Canvas.Call)
  /-- How many parts of the page follow the size of the window. -/
  | followers (n : Nat)

structure Step where
  page : Page
  result : Result
  output : Output

/-- The effect that builds the view runs. It reads the graph and looks for the canvas, and watches
both from then on. -/
def rebuild (p : Page) : Page × List LogLine :=
  let graph := p.content.graphSignal p.revision
  let (s, log) := p.surface.rebuild p.browser graph.value
  ({ p with
      surface := s
      builder := .watching (graph.watched ++ [.signal .canvas])
      revision := graph.revision }, log)

/-- Whether a write to a signal wakes the effect that builds the view. A memo passes a write on if
it has been read, and only with another value. -/
def wakes (p : Page) (s : Signal) : Bool :=
  p.builder.watches (.signal s) ||
    s = .session && p.builder.watches .revision && p.content.revision?.any p.revision.isStale

def written (p : Page) (s : Signal) : Page × List LogLine :=
  if p.wakes s then p.rebuild else (p, [])

/-- The canvas has been put on the page or taken off it. The view is built, and then the animation
is set up, which watches nothing else. -/
def withCanvas (p : Page) (s : Surface) : Page × List LogLine :=
  let (built, buildLog) := ({ p with surface := s } : Page).written .canvas
  let (ready, log) := built.surface.animate built.browser
  ({ built with surface := ready }, buildLog ++ log)

def bare (b : Browser) (setup : SurfaceSetup) (content : Content) : Page :=
  ⟨b, .bare setup b content.graph, content, .due, .unread⟩

def mount (b : Browser) (setup : SurfaceSetup) (content : Content) : Page × Output :=
  let p := bare b setup content
  let (q, log) := p.withCanvas p.surface.placeCanvas
  (q, .ofLog log)

def home (b : Browser) : Page × Output :=
  mount b ⟨.standard, true, none, none⟩ (.analyzer .initial)

/-- An event for the controls; nobody hears it where there are none. -/
def onAnalyzer (p : Page) (act : Analyzer → Step) : Step :=
  match p.content with
  | .analyzer a => act a
  | .given _ => ⟨p, .heard false, .empty⟩

def onSession (p : Page) (next : Analyzer × Output) : Step :=
  let (q, log) := ({ p with content := .analyzer next.1 } : Page).written .session
  ⟨q, .heard true, next.2.andLog log⟩

def onKey (p : Page) (name : String) : Step :=
  p.onAnalyzer fun a =>
    if a.submitsOn name then p.onSession (a.submit p.browser) else ⟨p, .heard true, .empty⟩

def onButton (p : Page) : Step :=
  p.onAnalyzer fun a =>
    if a.isDisabled then ⟨p, .disabled, .empty⟩ else p.onSession (a.submit p.browser)

def onReply (p : Page) (request : Nat) (r : Analysis.Reply) : Step :=
  p.onAnalyzer fun a =>
    match a.reply? request r with
    | some next => p.onSession next
    | none => ⟨p, .heard false, .empty⟩

def onSurface (p : Page) (s : Surface) (result : Result) (log : List LogLine) : Step :=
  ⟨{ p with surface := s }, result, .ofLog log⟩

def onCanvas (p : Page) (s : Surface) : Step :=
  let (q, log) := p.withCanvas s
  ⟨q, .nothing, .ofLog log⟩

/-- Another graph is given, even if it is an equal one. The analyzer's graph is its own. -/
def onGiven (p : Page) (g : Graph) : Step :=
  match p.content with
  | .analyzer _ => ⟨p, .nothing, .empty⟩
  | .given _ =>
    let (q, log) := ({ p with content := .given g } : Page).written .given
    ⟨q, .nothing, .ofLog log⟩

/-- Handles an event; none where the wheel has no answer. -/
def step? (p : Page) : Event → Option Step
  | .type text =>
    some (p.onAnalyzer fun a =>
      ⟨{ p with content := .analyzer (a.type text) }, .heard true, .empty⟩)
  | .key name => some (p.onKey name)
  | .analyze => some p.onButton
  | .download => some ⟨p, .heard true, .svgDownload p.browser p.surface.svg⟩
  | .press q => some (p.onSurface (p.surface.press p.browser q) (.heard true) [])
  | .move q onPage => some (p.onSurface (p.surface.move p.browser q onPage) (.heard true) [])
  | .release => some (p.onSurface p.surface.release (.heard true) [])
  | .leave => some (p.onSurface p.surface.leave (.heard true) [])
  | .wheel q delta alt =>
    (p.surface.wheel? p.browser q delta alt).map fun (used, s) => p.onSurface s (.wheel used) []
  | .reply request r => some (p.onReply request r)
  | .frames n =>
    let f := p.surface.frames p.browser n
    some (p.onSurface f.surface (.frames f.ran f.painted) f.log)
  | .windowResized width height =>
    let b := { p.browser with innerWidth := width, innerHeight := height }
    some (({ p with browser := b } : Page).onSurface (p.surface.windowResized b)
      (.followers (if p.surface.followsWindow then 1 else 0)) [])
  | .browserChanged b => some ⟨{ p with browser := b }, .nothing, .empty⟩
  | .given g => some (p.onGiven g)
  | .canvasPlaced => some (p.onCanvas p.surface.placeCanvas)
  | .canvasRemoved => some (p.onCanvas p.surface.removeCanvas)

def run? (p : Page) (events : List Event) : Option Page :=
  events.foldlM (fun q e => (q.step? e).map Step.page) p

end Page

end CodeGraph
