import CodeGraph.Graph.Records

namespace CodeGraph

/-- What becomes of a node record. -/
inductive NodeFate
  | kept (node : Node)
  | withoutId (label : String)
  | repeated (id : NodeId)

inductive EdgeFate
  | kept (link : Link)
  | incomplete
  | dangling (source target : NodeId)

def nonEmpty? (s : Option String) : Option String := s.filter fun t => !t.isEmpty

/-- The node of a record with that id: an empty label gives way to the id, an empty qualified name
to the label, and the place is the file with its line. -/
def NodeRecord.toNode (r : NodeRecord) (id : NodeId) : Node :=
  let label := (nonEmpty? r.label).getD id.text
  { id := id
    label := label
    fqname := (nonEmpty? r.fqname).getD label
    kind := r.kind
    location := r.file.map fun file =>
      match r.line with
      | some line => file ++ ":" ++ toString line
      | none => file }

/-- The fates of node records behind records with the ids `seen`. -/
def nodeFates (seen : List NodeId) : List NodeRecord → List NodeFate
  | [] => []
  | r :: rest =>
    match r.id with
    | none => .withoutId (r.label.getD "") :: nodeFates seen rest
    | some id =>
      if id ∈ seen then .repeated id :: nodeFates seen rest
      else .kept (r.toNode id) :: nodeFates (id :: seen) rest

def edgeFate (ids : List NodeId) (e : EdgeRecord) : EdgeFate :=
  match e.source, e.target with
  | some source, some target =>
    if source ∈ ids ∧ target ∈ ids then .kept ⟨source, target⟩ else .dangling source target
  | _, _ => .incomplete

namespace NodeFate

def node? : NodeFate → Option Node
  | .kept n => some n
  | _ => none

def repeated? : NodeFate → Option NodeId
  | .repeated id => some id
  | _ => none

def isWithoutId : NodeFate → Bool
  | .withoutId _ => true
  | _ => false

def warning? : NodeFate → Option LogLine
  | .kept _ => none
  | .withoutId label =>
    some ⟨.warn, "dropping node without id (label " ++ Text.quoted label ++ ")"⟩
  | .repeated id => some ⟨.warn, "dropping duplicate node " ++ id.text⟩

end NodeFate

namespace EdgeFate

def link? : EdgeFate → Option Link
  | .kept l => some l
  | _ => none

def dangling? : EdgeFate → Option (NodeId × NodeId)
  | .dangling s t => some (s, t)
  | _ => none

def isIncomplete : EdgeFate → Bool
  | .incomplete => true
  | _ => false

def warning? : EdgeFate → Option LogLine
  | .kept _ => none
  | .incomplete => some ⟨.warn, "dropping link with a missing endpoint"⟩
  | .dangling s t => some ⟨.warn, "dropping dangling link " ++ s.text ++ " -> " ++ t.text⟩

end EdgeFate

structure DropReport where
  duplicateNodes : List NodeId
  danglingLinks : List (NodeId × NodeId)
  malformedNodes : Nat
  malformedLinks : Nat
  deriving DecidableEq

def DropReport.isClean (r : DropReport) : Bool :=
  r.duplicateNodes.isEmpty && r.danglingLinks.isEmpty && r.malformedNodes == 0 &&
    r.malformedLinks == 0

structure Normalized where
  graph : Graph
  report : DropReport
  log : List LogLine

namespace GraphRecords

def normalizedSummary (g : Graph) (r : DropReport) : LogLine :=
  ⟨.info, "normalized graph: " ++ toString g.nodes.length ++ " nodes, " ++
    toString g.links.length ++ " links (" ++ toString r.duplicateNodes.length ++ " duplicates, " ++
    toString r.danglingLinks.length ++ " dangling, " ++
    toString (r.malformedNodes + r.malformedLinks) ++ " malformed dropped)"⟩

def normalize (records : GraphRecords) : Normalized :=
  let nodes := nodeFates [] records.nodes
  let kept := nodes.filterMap NodeFate.node?
  let edges := records.edges.map (edgeFate (kept.map Node.id))
  let graph : Graph := ⟨kept, edges.filterMap EdgeFate.link?⟩
  let report : DropReport :=
    { duplicateNodes := nodes.filterMap NodeFate.repeated?
      danglingLinks := edges.filterMap EdgeFate.dangling?
      malformedNodes := nodes.countP NodeFate.isWithoutId
      malformedLinks := edges.countP EdgeFate.isIncomplete }
  { graph := graph
    report := report
    log := nodes.filterMap NodeFate.warning? ++ edges.filterMap EdgeFate.warning? ++
      [normalizedSummary graph report] }

end GraphRecords

end CodeGraph
