import CodeGraph.Graph.Basic
import CodeGraph.Json.Record

namespace CodeGraph

structure NodeRecord where
  id : Option NodeId
  label : Option String
  fqname : Option String
  kind : NodeKind
  file : Option String
  line : Option Nat
  deriving DecidableEq

structure EdgeRecord where
  source : Option NodeId
  target : Option NodeId
  deriving DecidableEq

structure GraphRecords where
  nodes : List NodeRecord
  edges : List EdgeRecord
  deriving DecidableEq

namespace GraphRecords

open Json (Reader)
open Json.Reader

def empty : GraphRecords := ⟨[], []⟩

/-- The id a value stands for: a text itself, a whole number of sixty-four bits by its digits. -/
def idOfJson? : Json → Option NodeId
  | .text s => some ⟨s⟩
  | .number (.whole i) => if i < 0x8000000000000000 then some ⟨toString i⟩ else none
  | _ => none

def nodeId (depth : Nat) : Reader NodeId := do
  match idOfJson? (← value depth) with
  | some id => return id
  | none => failFloating .notAnId

/-- The kind a value stands for: by its name, or by the key of an object whose one member is
`null`. -/
def kindOfJson : Json → NodeKind
  | .text s => .ofName s
  | .object [(key, .null)] => .ofName key
  | _ => .unknown

def nodeShape : Shape NodeRecord where
  name := "RawNode"
  fields := [
    ⟨"id", false, fun d r => return { r with id := ← optional (nodeId d) }⟩,
    ⟨"label", false, fun _ r => return { r with label := ← optional text }⟩,
    ⟨"fqname", false, fun _ r => return { r with fqname := ← optional text }⟩,
    ⟨"type", false, fun d r => return { r with kind := kindOfJson (← value d) }⟩,
    ⟨"file", false, fun _ r => return { r with file := ← optional text }⟩,
    ⟨"lineno", false, fun _ r => return { r with line := ← optional lineNumber }⟩]

def blankNode : NodeRecord := ⟨none, none, none, .unknown, none, none⟩

def edgeShape : Shape EdgeRecord where
  name := "RawEdge"
  fields := [
    ⟨"source", false, fun d r => return { r with source := ← optional (nodeId d) }⟩,
    ⟨"target", false, fun d r => return { r with target := ← optional (nodeId d) }⟩]

def blankEdge : EdgeRecord := ⟨none, none⟩

def shape : Shape GraphRecords where
  name := "RawGraph"
  fields := [
    ⟨"nodes", false, fun d r => return { r with nodes := ← list (nodeShape.read blankNode) d }⟩,
    ⟨"edges", false, fun d r => return { r with edges := ← list (edgeShape.read blankEdge) d }⟩]

/-- How many brackets may be open at once in a document that is read. -/
def maxDepth : Nat := 127

def ofText (s : String) : Except Json.Fault GraphRecords :=
  Reader.run (shape.read empty maxDepth) s

def idsOfText (s : String) : Except Json.Fault (List NodeId) :=
  Reader.run (list nodeId maxDepth) s

/-- A kind given by its name, or as an object whose one member is `null`. -/
def kind (depth : Nat) : Reader NodeKind := do
  match ← peekPastBlanks with
  | none => failNext .endInValue
  | some c =>
    if c = '"' then return .ofName (← key)
    else if c = '\x7b' then
      nested depth fun _ => do
        advance
        match ← peekPastBlanks with
        | none => failNext .endInObject
        | some '"' => do
          let name ← key
          colon
          null
          match ← peekPastBlanks with
          | none => failHere .endInObject
          | some '\x7d' => do
            advance
            return .ofName name
          | some _ => failHere .noValue
        | some '\x7d' => failNext .noValue
        | some _ => failNext .keyNotText
    else failNext .noValue

def kindsOfText (s : String) : Except Json.Fault (List NodeKind) :=
  Reader.run (list kind maxDepth) s

end GraphRecords

end CodeGraph
