import CodeGraph.Geometry

namespace CodeGraph

inductive Target
  | node (index : Nat)
  | edge (position : Nat)
  deriving DecidableEq

/-- A set of node indices and of edge positions, each in ascending order. -/
structure Highlight where
  nodes : List Nat
  edges : List Nat
  deriving DecidableEq

def Highlight.empty : Highlight := ⟨[], []⟩

def insertAscending (n : Nat) : List Nat → List Nat
  | [] => [n]
  | m :: rest =>
    if n < m then n :: m :: rest
    else if n = m then m :: rest
    else m :: insertAscending n rest

/-- The target under the pointer with its highlight, the one before it while it fades out, how far
the highlight has faded in, and how long it has waited to begin. -/
structure Hover (α : Type) where
  target : Option Target
  lit : Highlight
  previous : Option Target
  fading : Highlight
  t : α
  waited : α

namespace Hover

variable {α : Type} [Scalar α]

def none : Hover α := ⟨.none, .empty, .none, .empty, 0.0, 0.0⟩

/-- Turns to another target with its highlight. Only a target that is left for nothing fades out,
and only one that follows nothing waits. -/
def turnTo (h : Hover α) (target : Option Target) (lit : Highlight) : Hover α :=
  if h.target = target then h
  else
    let leaving := h.target.isSome && target.isNone
    { target := target
      lit := lit
      previous := if leaving then h.target else .none
      fading := if leaving then h.lit else .empty
      t := h.t
      waited := if target.isSome && h.target.isNone then 0.0 else h.waited }

def delay : α := 0.08

/-- One step of fading: in behind the delay, or out. -/
def ease (h : Hover α) (dt : α) : Hover α :=
  if h.target.isSome then
    let waited := Scalar.min (h.waited + dt) delay
    let t := if delay ≤ waited then h.t + (1.0 - h.t) * 1.8 * dt else h.t
    { h with waited := waited, t := if 1.0 - t < 0.01 then 1.0 else t }
  else
    let t := h.t + (0.0 - h.t) * 1.26 * dt
    if t < 0.01 then { h with t := 0.0, previous := .none, fading := .empty }
    else { h with t := t }

def isActive (h : Hover α) : Bool := h.target.isSome || h.previous.isSome

def lightsNode (h : Hover α) (i : Nat) : Bool := h.lit.nodes.contains i || h.fading.nodes.contains i

def lightsEdge (h : Hover α) (e : Nat) : Bool := h.lit.edges.contains e || h.fading.edges.contains e

def isOn (h : Hover α) (i : Nat) : Bool :=
  h.target == some (.node i) || h.previous == some (.node i)

def node? (h : Hover α) : Option Nat :=
  match h.target with
  | some (.node i) => some i
  | _ => .none

end Hover

end CodeGraph
