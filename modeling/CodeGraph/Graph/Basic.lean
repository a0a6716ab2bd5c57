namespace CodeGraph

structure NodeId where
  text : String
  deriving DecidableEq

/-- Ids in the order of their code points. -/
def NodeId.le (a b : NodeId) : Bool := decide (a.text ≤ b.text)

inductive NodeKind
  | classDef
  | functionDef
  | methodDef
  | unknown
  deriving DecidableEq

namespace NodeKind

def name : NodeKind → String
  | .classDef => "class"
  | .functionDef => "function"
  | .methodDef => "method"
  | .unknown => "unknown"

/-- The kind of that name; any other name is unknown. -/
def ofName (s : String) : NodeKind :=
  if s = "class" then .classDef
  else if s = "function" then .functionDef
  else if s = "method" then .methodDef
  else .unknown

end NodeKind

structure Node where
  id : NodeId
  label : String
  fqname : String
  kind : NodeKind
  location : Option String
  deriving DecidableEq

structure Link where
  source : NodeId
  target : NodeId
  deriving DecidableEq

structure Graph where
  nodes : List Node
  links : List Link
  deriving DecidableEq

namespace Graph

def empty : Graph := ⟨[], []⟩

def isEmpty (g : Graph) : Bool := g.nodes.isEmpty

def ids (g : Graph) : List NodeId := g.nodes.map Node.id

end Graph

/-- For each distinct id the distinct ids linked with it, in either direction. -/
structure NeighborMap where
  entries : List (NodeId × List NodeId)

namespace NeighborMap

/-- The distinct members of a list, each at its first place. -/
def distinct (ids : List NodeId) : List NodeId :=
  ids.foldl (fun seen id => if id ∈ seen then seen else seen ++ [id]) []

def addNeighbor (a b : NodeId) (entries : List (NodeId × List NodeId)) :
    List (NodeId × List NodeId) :=
  entries.map fun e => if e.1 = a then (e.1, if b ∈ e.2 then e.2 else e.2 ++ [b]) else e

def hasEntry (entries : List (NodeId × List NodeId)) (id : NodeId) : Bool :=
  entries.any fun e => e.1 = id

def addLink (entries : List (NodeId × List NodeId)) (l : Link) : List (NodeId × List NodeId) :=
  if hasEntry entries l.source && hasEntry entries l.target then
    addNeighbor l.target l.source (addNeighbor l.source l.target entries)
  else entries

def ofGraph (g : Graph) : NeighborMap :=
  ⟨g.links.foldl addLink ((distinct g.ids).map fun id => (id, []))⟩

def neighbors? (m : NeighborMap) (id : NodeId) : Option (List NodeId) :=
  (m.entries.find? fun e => e.1 = id).map Prod.snd

def adjacent (m : NeighborMap) (a b : NodeId) : Bool :=
  match m.neighbors? a with
  | some ids => decide (b ∈ ids)
  | none => false

def size (m : NeighborMap) : Nat := m.entries.length

def isEmpty (m : NeighborMap) : Bool := m.entries.isEmpty

end NeighborMap

inductive Level
  | error
  | warn
  | info
  | debug
  deriving DecidableEq

def Level.name : Level → String
  | .error => "ERROR"
  | .warn => "WARN"
  | .info => "INFO"
  | .debug => "DEBUG"

structure LogLine where
  level : Level
  text : String
  deriving DecidableEq

def LogLine.render (l : LogLine) : String := l.level.name ++ " " ++ l.text

def LogLine.started : LogLine := ⟨.info, "Logging initialized"⟩

end CodeGraph
