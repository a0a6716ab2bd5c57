import CodeGraph.Geometry
import CodeGraph.Graph.Basic

namespace CodeGraph

inductive BrowserCall
  | innerWidth
  | innerHeight
  | getContext
  | blob
  | createObjectUrl
  | createElement
  | revokeObjectUrl
  deriving DecidableEq

def BrowserCall.all : List BrowserCall :=
  [.innerWidth, .innerHeight, .getContext, .blob, .createObjectUrl, .createElement,
    .revokeObjectUrl]

def BrowserCall.name : BrowserCall → String
  | .innerWidth => "inner_width"
  | .innerHeight => "inner_height"
  | .getContext => "get_context"
  | .blob => "blob"
  | .createObjectUrl => "create_object_url"
  | .createElement => "create_element"
  | .revokeObjectUrl => "revoke_object_url"

def BrowserCall.ofName? (s : String) : Option BrowserCall := all.find? fun c => c.name == s

/-- A size of the window is none where it is no number; the canvas may have no parent element. -/
structure Browser where
  hasWindow : Bool
  origin : Option String
  innerWidth : Option Float
  innerHeight : Option Float
  hasDocument : Bool
  parent : Option (Int × Int)
  /-- The upper left corner of the canvas. -/
  corner : Point Float
  hasContext : Bool
  failing : Option BrowserCall

namespace Browser

def standard : Browser where
  hasWindow := true
  origin := some "http://localhost:8000"
  innerWidth := some 1024.0
  innerHeight := some 768.0
  hasDocument := true
  parent := some (800, 600)
  corner := ⟨0.0, 0.0⟩
  hasContext := true
  failing := none

def fails (b : Browser) (c : BrowserCall) : Bool := b.failing == some c

def pageOrigin (b : Browser) : Option String := if b.hasWindow then b.origin else none

def windowSize? (b : Browser) : Option (Float × Float) :=
  if b.hasWindow && !b.fails .innerWidth && !b.fails .innerHeight then
    match b.innerWidth, b.innerHeight with
    | some w, some h => some (w, h)
    | _, _ => none
  else none

/-- A positive length of the parent element, or a default. -/
def parentLength (length : Option Int) (default : Float) : Float :=
  match length with
  | some n => if 0 < n then Float.ofInt n else default
  | none => default

/-- The size for a canvas: the window's for a full screen, else the one asked for, else the
parent's. -/
def measure (b : Browser) (fullscreen : Bool) (width height : Option Float) : Float × Float :=
  match if fullscreen then b.windowSize? else none with
  | some size => size
  | none =>
    (width.getD (parentLength (b.parent.map Prod.fst) 800.0),
      height.getD (parentLength (b.parent.map Prod.snd) 600.0))

def givesContext (b : Browser) : Bool := b.hasContext && !b.fails .getContext

end Browser

structure Request where
  url : String
  body : String
  deriving DecidableEq

inductive DownloadCall
  | blob (type contents : String)
  | href (url : String)
  | name (file : String)
  | click
  | revoke (url : String)
  deriving DecidableEq

def DownloadCall.line : DownloadCall → String
  | .blob type contents => "blob " ++ type ++ " " ++ contents
  | .href url => "a href " ++ url
  | .name file => "a download " ++ file
  | .click => "a click"
  | .revoke url => "revoke " ++ url

structure Output where
  log : List LogLine
  requests : List Request
  downloads : List DownloadCall

namespace Output

def empty : Output := ⟨[], [], []⟩

def ofLog (log : List LogLine) : Output := ⟨log, [], []⟩

def andLog (o : Output) (log : List LogLine) : Output := { o with log := o.log ++ log }

def blobUrl : String := "blob:0"

/-- The calls that hand a text to the user as a file, up to the first that fails, and what that one
says. -/
def downloadCalls (b : Browser) (type contents file : String) :
    List DownloadCall × Option String :=
  let failure (c : BrowserCall) : Option String := some (c.name ++ " failed")
  if b.fails .blob then ([], failure .blob)
  else
    let made : List DownloadCall := [.blob type contents]
    if b.fails .createObjectUrl then (made, failure .createObjectUrl)
    else if !(b.hasWindow && b.hasDocument) then (made, some "no document")
    else if b.fails .createElement then (made, failure .createElement)
    else
      let clicked := made ++ [.href blobUrl, .name file, .click]
      if b.fails .revokeObjectUrl then (clicked, failure .revokeObjectUrl)
      else (clicked ++ [.revoke blobUrl], none)

def svgDownload (b : Browser) (document : String) : Output :=
  let (calls, failure) := downloadCalls b "image/svg+xml" document "code-graph.svg"
  { log := failure.toList.map fun f => ⟨.error, "svg export failed: JsValue(\"" ++ f ++ "\")"⟩
    requests := []
    downloads := calls }

end Output

end CodeGraph
