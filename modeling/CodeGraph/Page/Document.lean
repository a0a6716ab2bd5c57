import CodeGraph.Page.Basic
import CodeGraph.Url.Parse

namespace CodeGraph

open Markup (attr)

def classAttr (name : String) : MarkupAttribute := attr "class" name

namespace Surface

def canvasMarkup : Markup :=
  .node "canvas" [classAttr "force-graph-canvas", attr "style" "display: block; cursor: grab;"] []

def downloadButton : Markup := .node "button" [classAttr "export-svg"] [.text "Export SVG"]

def tipMarkup (t : Tip) : Markup :=
  .node "div" [classAttr "graph-tooltip", attr "style"
    ("left: " ++ Number.plain t.left ++ "px; top: " ++ Number.plain t.top ++ "px;")]
    ([.node "strong" [] [.text t.info.fqname], .leaf "br" [],
      .text ("type: " ++ t.info.kind.name)] ++
      match t.info.location with
      | some place => [.leaf "br" [], .node "span" [classAttr "location"] [.text place]]
      | none => [])

def markup (s : Surface) : List Markup :=
  [canvasMarkup, downloadButton] ++ (s.tip.map tipMarkup).toList

end Surface

namespace Analyzer

def title : String := "Code Graph"

def placeholder : String := "https://github.com/owner/repo"

def heading : Markup := .node "h1" [] [.text title]

def field (a : Analyzer) : Markup :=
  .leaf "input" [attr "type" "text", classAttr "repo-input", attr "placeholder" placeholder,
    attr "prop:value" a.input]

def button (a : Analyzer) : Markup :=
  .node "button" (classAttr "analyze-button" :: if a.isDisabled then [⟨"disabled", none⟩] else [])
    [.text "Analyze"]

def spinner? (a : Analyzer) : Option Markup :=
  if a.session.isLoading then some (.node "span" [classAttr "spinner"] []) else none

def statusLine (a : Analyzer) : Markup :=
  .node "p" [classAttr "status"] [.text a.session.status]

def subtitle : Markup :=
  .node "p" [classAttr "subtitle"]
    [.text ("Hover to highlight neighbours. Drag nodes to move them. " ++
      "Scroll to zoom, drag the background to pan.")]

def controls (a : Analyzer) (field : Markup) : Markup :=
  .node "div" [classAttr "graph-overlay"] [heading,
    .node "div" [classAttr "controls"] ([field, a.button] ++ a.spinner?.toList),
    a.statusLine, subtitle]

end Analyzer

namespace Page

/-- The surface with the controls beside it, in the order of the page. -/
def homeMarkup (surface : List Markup) (controls : Markup) : Markup :=
  .node "div" [classAttr "fullscreen-graph"] (surface ++ [controls])

def markup (p : Page) : List Markup :=
  match p.content with
  | .analyzer a => [homeMarkup p.surface.markup (a.controls a.field)]
  | .given _ => p.surface.markup

def html (p : Page) : String := Markup.renderAll .page p.markup

end Page

inductive Route
  | home
  | notFound
  deriving DecidableEq

namespace Route

def siteRoot : String := "https://localhost/"

/-- The route of a path, whatever its query; a path that leads to no URL has none. -/
def ofPath? (path : String) : Option Route :=
  match Url.resolve siteRoot path with
  | .ok u => some (if u.path = [] ∨ u.path = ['/'] then .home else .notFound)
  | .error _ => none

/-- The surface as it is served, before anything runs. -/
def servedSurface : List Markup :=
  [.node "canvas"
      [classAttr "force-graph-canvas", attr "style" "display: block; cursor: grab;;"] [],
    Surface.downloadButton]

def servedField : Markup :=
  .leaf "input"
    [attr "type" "text", attr "placeholder" Analyzer.placeholder, classAttr "repo-input"]

def body : Route → Markup
  | .home => Page.homeMarkup servedSurface (Analyzer.initial.controls servedField)
  | .notFound =>
    .node "div" [classAttr "not-found"] [.node "h1" [] [.text "Nothing here"],
      .node "a" [attr "href" "/"] [.text "Back to the graph"]]

def head : Markup :=
  .node "head" [] [.leaf "meta" [attr "charset" "UTF-8"],
    .leaf "meta" [attr "name" "viewport", attr "content" "width=device-width, initial-scale=1.0"],
    .node "title" [] [.text Analyzer.title]]

def document (r : Route) : Markup :=
  .node "html" [attr "lang" "en", attr "dir" "ltr", attr "data-theme" "dark"]
    [head, .node "body" [] [r.body]]

def html (r : Route) : String := r.document.render .page

end Route

end CodeGraph
