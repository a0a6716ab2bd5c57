import CodeGraph.Analysis.Response
import CodeGraph.Graph.Normalize
import CodeGraph.Text.Hidden
import CodeGraph.Url.Parse

namespace CodeGraph

namespace Analysis

def endpointPath : String := "/analyze"

/-- The URL to send: the input without blanks at its ends. Nothing is sent if nothing is left. -/
def validate (input : String) : Except FetchError String :=
  let url := Text.trim input
  if url.isEmpty then .error .emptyUrl else .ok url

def requestBody (repoUrl : String) : String :=
  (Json.object [("repo_url", .text repoUrl)]).render

def resolveEndpoint (origin path : String) : Except FetchError Url :=
  match Url.resolve origin path with
  | .ok u => .ok u
  | .error e => .error (.endpoint e)

def endpointForPage (origin? : Option String) (path : String) : Except FetchError Url :=
  match origin? with
  | none => .error (.transport "no browser window")
  | some origin => resolveEndpoint origin path

/-- What becomes of a request: an answer, or an error of any kind from what carries it. -/
abbrev Reply := Except FetchError Response

structure Outcome where
  result : Except FetchError Graph
  log : List LogLine

def understand (repoUrl : String) (reply : Reply) : Outcome :=
  match reply with
  | .error e => ⟨.error e, []⟩
  | .ok response =>
    match response.records with
    | .error e => ⟨.error e, []⟩
    | .ok records =>
      let n := records.normalize
      ⟨.ok n.graph, n.log ++
        if n.report.isClean then []
        else [⟨.info, "analysis of " ++ repoUrl ++ " returned a partially malformed graph"⟩]⟩

structure Run where
  sent : List String
  outcome : Outcome

def run (server : String → Reply) (input : String) : Run :=
  match validate input with
  | .error e => ⟨[], ⟨.error e, []⟩⟩
  | .ok url => ⟨[url], understand url (server url)⟩

end Analysis

/-- The session of a page. Requests are neither merged nor cancelled; of two that overlap, the one
that ends last decides the graph. -/
structure Session where
  status : String
  pending : Nat
  graph : Option Graph
  revision : Nat

namespace Session

def idleStatus : String := "Paste a public GitHub repository URL and press Analyze."

def loadingStatus : String := "Cloning and analyzing repository..."

def initial : Session := ⟨idleStatus, 0, none, 0⟩

def graphStatus (g : Graph) : String :=
  "Nodes: " ++ toString g.nodes.length ++ ", edges: " ++ toString g.links.length

structure Begun where
  session : Session
  url : Option String
  log : List LogLine

def begin (s : Session) (input : String) : Begun :=
  match Analysis.validate input with
  | .ok url =>
    ⟨{ s with pending := s.pending + 1, status := loadingStatus }, some url,
      [⟨.info, "analyzing " ++ url⟩]⟩
  | .error e => ⟨{ s with status := e.statusMessage }, none, []⟩

structure Finished where
  session : Session
  installed : Bool
  log : List LogLine

def finish (s : Session) (result : Except FetchError Graph) : Finished :=
  match result with
  | .ok g =>
    ⟨{ status := graphStatus g, pending := s.pending - 1, graph := some g,
       revision := s.revision + 1 }, true, []⟩
  | .error e =>
    ⟨{ s with pending := s.pending - 1, status := e.statusMessage }, false,
      [⟨.error, "analysis failed: " ++ e.message⟩]⟩

def isLoading (s : Session) : Bool := 0 < s.pending

end Session

end CodeGraph
