import CodeGraph.Analysis.Session
import CodeGraph.Page.Browser

namespace CodeGraph

inductive Signal
  | session
  | given
  | canvas
  deriving DecidableEq

/-- What an effect can watch: a signal, or the memo of the session's revision. -/
inductive Source
  | signal (s : Signal)
  | revision
  deriving DecidableEq

/-- A memo has the value that it had when it was read last. Until it is read it watches nothing. -/
structure Memo (α : Type) where
  seen : Option α

namespace Memo

variable {α : Type}

def unread : Memo α := ⟨none⟩

/-- A memo is tracked by who asks to be woken by it, and read by who asks for its value. -/
inductive Use
  | track
  | read

/-- The memo behind a use, where `current` is what it computes. Tracking computes nothing. -/
def used (m : Memo α) (current : α) : Use → Memo α
  | .track => m
  | .read => ⟨some current⟩

def isStale [DecidableEq α] (m : Memo α) (current : α) : Bool := m.seen.any fun old => old ≠ current

end Memo

structure Reading (α : Type) where
  value : α
  watched : List Source
  revision : Memo Nat

structure Waiting where
  number : Nat
  repoUrl : String
  deriving DecidableEq

structure Analyzer where
  session : Session
  input : String
  waiting : List Waiting
  /-- How many requests have been sent. -/
  sent : Nat

namespace Analyzer

def initial : Analyzer := ⟨.initial, "", [], 0⟩

/-- Starts an analysis of what stands in the text field. Without an endpoint it fails at once. -/
def submit (a : Analyzer) (b : Browser) : Analyzer × Output :=
  let begun := a.session.begin a.input
  match begun.url with
  | none => ({ a with session := begun.session }, .ofLog begun.log)
  | some url =>
    match Analysis.endpointForPage b.pageOrigin Analysis.endpointPath with
    | .error e =>
      let f := begun.session.finish (.error e)
      ({ a with session := f.session }, .ofLog (begun.log ++ f.log))
    | .ok endpoint =>
      ({ a with
          session := begun.session
          waiting := a.waiting ++ [⟨a.sent, url⟩]
          sent := a.sent + 1 },
        { log := begun.log ++ [⟨.debug, "POST " ++ endpoint.render ++ " for " ++ url⟩]
          requests := [⟨endpoint.render, Analysis.requestBody url⟩]
          downloads := [] })

def type (a : Analyzer) (text : String) : Analyzer := { a with input := text }

def submitsOn (a : Analyzer) (key : String) : Bool := key = "Enter" && !a.session.isLoading

def isDisabled (a : Analyzer) : Bool := a.session.isLoading

/-- The reply to a request arrives; none if that request does not wait for one. -/
def reply? (a : Analyzer) (number : Nat) (r : Analysis.Reply) : Option (Analyzer × Output) := do
  let w ← a.waiting.find? fun w => w.number = number
  let outcome := Analysis.understand w.repoUrl r
  let f := a.session.finish outcome.result
  return ({ a with session := f.session, waiting := a.waiting.filter fun w => w.number ≠ number },
    .ofLog (outcome.log ++ f.log))

def graph (a : Analyzer) : Graph := a.session.graph.getD .empty

/-- The graph as a signal, derived from the session and from the memo of its revision: who reads it
tracks the memo, which nobody reads, and does not watch the session. -/
def graphSignal (a : Analyzer) (revision : Memo Nat) : Reading Graph :=
  ⟨a.graph, [.revision], revision.used a.session.revision .track⟩

end Analyzer

end CodeGraph
