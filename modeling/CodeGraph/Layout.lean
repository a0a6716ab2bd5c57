import CodeGraph.Geometry

namespace CodeGraph

structure Forces (β : Type) where
  charge : β
  spring : β
  max : β
  speed : β
  damping : β

/-- A body with its speed and the acceleration it has collected. A pinned one does not move. -/
structure Body (β : Type) where
  x : β
  y : β
  vx : β
  vy : β
  ax : β
  ay : β
  mass : β
  pinned : Bool

structure Layout (β : Type) where
  forces : Forces β
  bodies : Array (Body β)
  /-- Pairs of bodies, the newest first. -/
  springs : List (Nat × Nat)

namespace Body

variable {β : Type} [Scalar β]

def atRest (x y mass : β) : Body β := ⟨x, y, 0.0, 0.0, 0.0, 0.0, mass, false⟩

def position (b : Body β) : Point β := ⟨b.x, b.y⟩

/-- The distance from `b` to `c`, one for equal places, and the unit vector that way. -/
def direction (b c : Body β) : β × Point β :=
  let dx := c.x - b.x
  let dy := c.y - b.y
  let dist := if dx == 0.0 && dy == 0.0 then 1.0 else Scalar.sqrt (dx * dx + dy * dy)
  (dist, ⟨dx / dist, dy / dist⟩)

def attraction (f : Forces β) (b c : Body β) : Point β :=
  let (dist, d) := direction b c
  let s := f.spring * dist * 0.5
  ⟨d.x * s, d.y * s⟩

def repulsion (f : Forces β) (b c : Body β) : Point β :=
  let (dist, d) := direction b c
  let s := (-f.charge) * (b.mass * c.mass / (dist * dist))
  ⟨d.x * s, d.y * s⟩

def bounded (f : Forces β) (x : β) : β := Scalar.min (Scalar.max x (-f.max)) f.max

/-- Collects a force, bounded in each coordinate. -/
def accelerate (f : Forces β) (dt : β) (force : Point β) (b : Body β) : Body β :=
  { b with ax := b.ax + bounded f force.x * dt, ay := b.ay + bounded f force.y * dt }

def accelerateFree (f : Forces β) (dt : β) (force : Point β) (b : Body β) : Body β :=
  if b.pinned then b else b.accelerate f dt force

def move (f : Forces β) (dt : β) (b : Body β) : Body β :=
  if b.pinned then b
  else
    let vx := (b.vx + b.ax * dt * f.speed) * f.damping
    let vy := (b.vy + b.ay * dt * f.speed) * f.damping
    { b with vx := vx, vy := vy, x := b.x + vx * dt, y := b.y + vy * dt, ax := 0.0, ay := 0.0 }

end Body

namespace Layout

variable {β : Type} [Scalar β]

def empty (f : Forces β) : Layout β := ⟨f, #[], []⟩

def modify (l : Layout β) (i : Nat) (f : Body β → Body β) : Layout β :=
  { l with bodies := l.bodies.modify i f }

def addSpring (l : Layout β) (a b : Nat) : Layout β :=
  if (a, b) ∈ l.springs ∨ (b, a) ∈ l.springs then l
  else { l with springs := (a, b) :: l.springs }

/-- The bodies joined with `i`: first by springs from it, then by springs to it. -/
def neighbors (l : Layout β) (i : Nat) : List Nat :=
  l.springs.filterMap (fun s => if s.1 = i then some s.2 else none) ++
    l.springs.filterMap (fun s => if s.2 = i then some s.1 else none)

/-- The spring between `i` and `j` pulls at `i`, also if it is pinned. -/
def pull (dt : β) (i : Nat) (l : Layout β) (j : Nat) : Layout β :=
  match l.bodies[i]?, l.bodies[j]? with
  | some b, some c => l.modify i (Body.accelerate l.forces dt (b.attraction l.forces c))
  | _, _ => l

def push (dt : β) (i : Nat) (l : Layout β) (j : Nat) : Layout β :=
  match l.bodies[i]?, l.bodies[j]? with
  | some b, some c =>
    let f := b.repulsion l.forces c
    (l.modify i (Body.accelerateFree l.forces dt f)).modify j
      (Body.accelerateFree l.forces dt ⟨-f.x, -f.y⟩)
  | _, _ => l

def handle (dt : β) (l : Layout β) (i : Nat) : Layout β :=
  let pulled := (l.neighbors i).foldl (pull dt i) l
  let pushed := (List.range' (i + 1) (l.bodies.size - (i + 1))).foldl (push dt i) pulled
  pushed.modify i (Body.move l.forces dt)

/-- Handles the bodies in order. Each moves before the next one is handled. -/
def update (dt : β) (l : Layout β) : Layout β :=
  (List.range l.bodies.size).foldl (handle dt) l

def pin (l : Layout β) (i : Nat) (p : Point β) : Layout β :=
  l.modify i fun b => { b with x := p.x, y := p.y, pinned := true }

def release (l : Layout β) (i : Nat) : Layout β := l.modify i fun b => { b with pinned := false }

def isPinned (l : Layout β) (i : Nat) : Bool := l.bodies[i]?.any Body.pinned

end Layout

end CodeGraph
