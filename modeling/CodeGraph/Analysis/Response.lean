import CodeGraph.Graph.Records
import CodeGraph.Json.Fault
import CodeGraph.Url.Basic

namespace CodeGraph

inductive FetchError
  | emptyUrl
  | endpoint (error : Url.ParseError)
  | transport (reason : String)
  | server (status : Nat) (detail : String)
  | rejected (detail : String)
  | malformed (fault : Json.Fault)

namespace FetchError

/-- A reason by itself is one of the transport. -/
instance : Coe String FetchError := ⟨.transport⟩

def message : FetchError → String
  | .emptyUrl => "repository URL is empty"
  | .endpoint e => "invalid endpoint: " ++ e.message
  | .transport reason => "request failed: " ++ reason
  | .server status detail => "server returned " ++ toString status ++ ": " ++ detail
  | .rejected detail => "analysis rejected: " ++ detail
  | .malformed fault => "invalid response: " ++ fault.message

def statusMessage : FetchError → String
  | .emptyUrl => "Enter a GitHub repository URL."
  | .endpoint e => "Request failed: " ++ e.message
  | .transport reason => "Request failed: " ++ reason
  | .server _ detail => "Error: " ++ detail
  | .rejected detail => "Error: " ++ detail
  | .malformed fault => "Invalid response: " ++ fault.message

end FetchError

structure Response where
  status : Nat
  body : String

structure Envelope where
  ok : Bool
  data : Option GraphRecords
  detail : Option Json

namespace Response

open Json (Reader)
open Json.Reader

def isSuccess (r : Response) : Bool := 200 ≤ r.status && r.status < 300

def envelopeShape : Shape Envelope where
  name := "Envelope"
  fields := [
    ⟨"ok", true, fun _ e => return { e with ok := ← boolean }⟩,
    ⟨"data", false, fun d e =>
      return { e with data := ← optional (GraphRecords.shape.read .empty d) }⟩,
    ⟨"detail", false, fun d e => return { e with detail := ← optional (value d) }⟩]

def errorShape : Shape (Option Json) where
  name := "ErrorBody"
  fields := [⟨"detail", false, fun d _ => optional (value d)⟩]

def envelope (body : String) : Except Json.Fault Envelope :=
  Reader.run (envelopeShape.read ⟨false, none, none⟩ GraphRecords.maxDepth) body

def errorDetail (body : String) : Except Json.Fault (Option Json) :=
  Reader.run (errorShape.read none GraphRecords.maxDepth) body

def unknownError : String := "unknown error"

/-- A reason in words: a text as it is, anything else by its JSON text. -/
def detailText : Option Json → String
  | some (.text s) => if s.isEmpty then unknownError else s
  | some .null => unknownError
  | none => unknownError
  | some j => j.render

def records (r : Response) : Except FetchError GraphRecords :=
  if r.isSuccess then
    match envelope r.body with
    | .error fault => .error (.malformed fault)
    | .ok e =>
      if e.ok then .ok (e.data.getD .empty) else .error (.rejected (detailText e.detail))
  else
    match errorDetail r.body with
    | .error _ => .error (.server r.status unknownError)
    | .ok detail => .error (.server r.status (detailText detail))

end Response

end CodeGraph
