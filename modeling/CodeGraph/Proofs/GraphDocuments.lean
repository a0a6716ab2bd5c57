import CodeGraph.Analysis.Response
import CodeGraph.Proofs.AcceptedRecords

namespace CodeGraph

namespace Json

/-- A field whose value is taken from a tree by itself and then set. -/
def Slot.of {α σ : Type} (name : String) (required : Bool) (value? : Nat → Tree → Option α)
    (set : σ → α → σ) : Slot σ :=
  ⟨name, required, fun depth t r => (value? depth t).map (set r)⟩

namespace Reader

variable {α σ : Type} {reader : Nat → Reader α}

theorem Field.fills_of {value? : Nat → Tree → Option α} (h : ∀ d, Follows (reader d) (value? d))
    (name : String) (required : Bool) (set : σ → α → σ) :
    Field.Fills ⟨name, required, fun d r => return set r (← reader d)⟩
      (Slot.of name required value? set) where
  name := rfl
  required := rfl
  read depth r _ _ _ _ hb hs hrest := Gives.map (set r) (h depth hb hs hrest)

theorem ReadsValues.map {r : Reader α} (h : ReadsValues r) (f : α → σ) :
    ReadsValues (do return f (← r)) := by
  intro cs a rest hr
  obtain ⟨x, hr⟩ := hr.map
  exact h hr

end Reader

end Json

namespace GraphRecords

open Json (Reader Slot Tree Writes)
open Json.Reader

def id? (depth : Nat) (t : Tree) : Option NodeId := (t.json? depth).bind idOfJson?

def nodeSlots : List (Slot NodeRecord) := [
  .of "id" false (fun d => Tree.optional? (id? d)) fun r v => { r with id := v },
  .of "label" false (fun _ => Tree.optional? Tree.text?) fun r v => { r with label := v },
  .of "fqname" false (fun _ => Tree.optional? Tree.text?) fun r v => { r with fqname := v },
  .of "type" false Tree.json? fun r j => { r with kind := kindOfJson j },
  .of "file" false (fun _ => Tree.optional? Tree.text?) fun r v => { r with file := v },
  .of "lineno" false (fun _ => Tree.optional? Tree.line?) fun r v => { r with line := v }]

def edgeSlots : List (Slot EdgeRecord) := [
  .of "source" false (fun d => Tree.optional? (id? d)) fun r v => { r with source := v },
  .of "target" false (fun d => Tree.optional? (id? d)) fun r v => { r with target := v }]

def node? : Nat → Tree → Option NodeRecord := Slot.record? nodeSlots blankNode

def edge? : Nat → Tree → Option EdgeRecord := Slot.record? edgeSlots blankEdge

def slots : List (Slot GraphRecords) := [
  .of "nodes" false (Tree.items? node?) fun r v => { r with nodes := v },
  .of "edges" false (Tree.items? edge?) fun r v => { r with edges := v }]

def ofTree? : Nat → Tree → Option GraphRecords := Slot.record? slots empty

theorem follows_nodeId (depth : Nat) : Follows (nodeId depth) (id? depth) := by
  intro t blanks cs rest hb hs hrest
  rw [id?, Option.map_bind]
  refine Gives.bind (Follows.value depth hb hs hrest) fun j => ?_
  dsimp only [Function.comp]
  cases idOfJson? j with
  | none => exact Gives.failFloating _ _
  | some id => exact Gives.pure id rest

theorem readsValues_nodeId (depth : Nat) : ReadsValues (nodeId depth) := by
  intro cs id rest h
  obtain ⟨j, mid, hread, h⟩ := h.bind
  split at h
  · obtain ⟨-, rfl⟩ := h.pure
    exact ReadsValues.value depth hread
  · exact absurd h (Gives.failFloating _ _).not_reads

theorem nodeShape_fills : List.Forall₂ Field.Fills nodeShape.fields nodeSlots :=
  .cons (Field.fills_of (fun d => (follows_nodeId d).optional) _ _ _) <|
  .cons (Field.fills_of (fun _ => Follows.text.optional) _ _ _) <|
  .cons (Field.fills_of (fun _ => Follows.text.optional) _ _ _) <|
  .cons (Field.fills_of Follows.value _ _ _) <|
  .cons (Field.fills_of (fun _ => Follows.text.optional) _ _ _) <|
  .cons (Field.fills_of (fun _ => Follows.lineNumber.optional) _ _ _) .nil

theorem edgeShape_fills : List.Forall₂ Field.Fills edgeShape.fields edgeSlots :=
  .cons (Field.fills_of (fun d => (follows_nodeId d).optional) _ _ _) <|
  .cons (Field.fills_of (fun d => (follows_nodeId d).optional) _ _ _) .nil

theorem shape_fills : List.Forall₂ Field.Fills shape.fields slots :=
  .cons (Field.fills_of (Follows.list (Shape.follows_read nodeShape_fills blankNode)) _ _ _) <|
  .cons (Field.fills_of (Follows.list (Shape.follows_read edgeShape_fills blankEdge)) _ _ _) .nil

theorem readsValues_node : ∀ depth, ReadsValues (nodeShape.read blankNode depth) := by
  refine Shape.readsValues_read ?_ blankNode
  simp only [nodeShape, List.forall_mem_cons]
  refine ⟨fun d r => ?_, fun d r => ?_, fun d r => ?_, fun d r => ?_, fun d r => ?_, fun d r => ?_,
    List.forall_mem_nil _⟩
  · exact (readsValues_nodeId d).optional.map _
  · exact ReadsValues.text.optional.map _
  · exact ReadsValues.text.optional.map _
  · exact (ReadsValues.value d).map _
  · exact ReadsValues.text.optional.map _
  · exact ReadsValues.lineNumber.optional.map _

theorem readsValues_edge : ∀ depth, ReadsValues (edgeShape.read blankEdge depth) := by
  refine Shape.readsValues_read ?_ blankEdge
  simp only [edgeShape, List.forall_mem_cons]
  refine ⟨fun d r => ?_, fun d r => ?_, List.forall_mem_nil _⟩
  · exact (readsValues_nodeId d).optional.map _
  · exact (readsValues_nodeId d).optional.map _

theorem follows_read : ∀ depth, Follows (shape.read empty depth) (ofTree? depth) :=
  Shape.follows_read shape_fills empty

theorem readsValues_read : ∀ depth, ReadsValues (shape.read empty depth) := by
  refine Shape.readsValues_read ?_ empty
  simp only [shape, List.forall_mem_cons]
  refine ⟨fun d r => ?_, fun d r => ?_, List.forall_mem_nil _⟩
  · exact (ReadsValues.list readsValues_node d).map _
  · exact (ReadsValues.list readsValues_edge d).map _

theorem ofText_of_writes {t : Tree} {s : String} (h : Writes t s) :
    (ofText s).toOption = ofTree? maxDepth t :=
  run_of_writes (follows_read maxDepth) h

/-- Records are read from exactly the documents whose tree gives them. -/
theorem ofText_eq_ok_iff {s : String} {g : GraphRecords} :
    ofText s = .ok g ↔ ∃ t, Writes t s ∧ ofTree? maxDepth t = some g :=
  run_eq_ok_iff (readsValues_read maxDepth) (follows_read maxDepth)

end GraphRecords

/-- The records of an envelope that went well. -/
def Envelope.records? (e : Envelope) : Option GraphRecords :=
  if e.ok then some (e.data.getD .empty) else none

namespace Response

open Json (Reader Slot Tree Writes)
open Json.Reader

def envelopeSlots : List (Slot Envelope) := [
  .of "ok" true (fun _ => Tree.bool?) fun e v => { e with ok := v },
  .of "data" false (fun d => Tree.optional? (GraphRecords.ofTree? d))
    fun e v => { e with data := v },
  .of "detail" false (fun d => Tree.optional? (Tree.json? d)) fun e v => { e with detail := v }]

def errorSlots : List (Slot (Option Json)) :=
  [.of "detail" false (fun d => Tree.optional? (Tree.json? d)) fun _ v => v]

/-- The envelope in the tree of a body. -/
def envelope? : Tree → Option Envelope :=
  Slot.record? envelopeSlots ⟨false, none, none⟩ GraphRecords.maxDepth

/-- The reason in the tree of a body that reports a failure. -/
def errorDetail? : Tree → Option (Option Json) :=
  Slot.record? errorSlots none GraphRecords.maxDepth

theorem envelopeShape_fills : List.Forall₂ Field.Fills envelopeShape.fields envelopeSlots :=
  .cons (Field.fills_of (fun _ => Follows.boolean) _ _ _) <|
  .cons (Field.fills_of (fun d => (GraphRecords.follows_read d).optional) _ _ _) <|
  .cons (Field.fills_of (fun d => (Follows.value d).optional) _ _ _) .nil

theorem errorShape_fills : List.Forall₂ Field.Fills errorShape.fields errorSlots := by
  refine .cons ⟨rfl, rfl, fun depth r => ?_⟩ .nil
  intro t blanks cs rest hb hs hrest
  simp only [Slot.of, Option.map_id']
  exact (Follows.value depth).optional hb hs hrest

theorem envelope_of_writes {t : Tree} {body : String} (h : Writes t body) :
    (envelope body).toOption = envelope? t :=
  run_of_writes (Shape.follows_read envelopeShape_fills _ _) h

theorem envelope_eq_ok_iff {body : String} {e : Envelope} :
    envelope body = .ok e ↔ ∃ t, Writes t body ∧ envelope? t = some e := by
  refine run_eq_ok_iff (Shape.readsValues_read ?_ _ _) (Shape.follows_read envelopeShape_fills _ _)
  simp only [envelopeShape, List.forall_mem_cons]
  refine ⟨fun d r => ?_, fun d r => ?_, fun d r => ?_, List.forall_mem_nil _⟩
  · exact ReadsValues.boolean.map _
  · exact (GraphRecords.readsValues_read d).optional.map _
  · exact (ReadsValues.value d).optional.map _

theorem errorDetail_eq_ok_iff {body : String} {detail : Option Json} :
    errorDetail body = .ok detail ↔ ∃ t, Writes t body ∧ errorDetail? t = some detail := by
  refine run_eq_ok_iff (Shape.readsValues_read ?_ _ _) (Shape.follows_read errorShape_fills _ _)
  simp only [errorShape, List.forall_mem_cons]
  exact ⟨fun d r => (ReadsValues.value d).optional, List.forall_mem_nil _⟩

theorem records_toOption {r : Response} {t : Tree} (h : Writes t r.body) :
    r.records.toOption = if r.isSuccess then (envelope? t).bind Envelope.records? else none := by
  rw [← envelope_of_writes h]
  unfold records
  cases r.isSuccess with
  | false => cases errorDetail r.body <;> rfl
  | true =>
    cases envelope r.body with
    | error fault => rfl
    | ok e => cases hok : e.ok <;> simp [Envelope.records?, hok, Except.toOption]

theorem records_eq_ok_iff_of_writes {r : Response} {t : Tree} (h : Writes t r.body)
    {g : GraphRecords} : r.records = .ok g ↔
      r.isSuccess = true ∧ ∃ e, envelope? t = some e ∧ e.records? = some g := by
  have hok : r.records = .ok g ↔ r.records.toOption = some g := by
    cases r.records <;> simp [Except.toOption]
  rw [hok, records_toOption h, ← Option.bind_eq_some_iff]
  cases r.isSuccess <;> simp

end Response

end CodeGraph
