namespace CodeGraph

/-- Numbers with the operations that the layout and the view use. Whatever is computed with them is
defined once; it runs over `Float` and `Float32`, and can be read over any other numbers. -/
class Scalar (α : Type) extends Add α, Sub α, Mul α, Div α, Neg α, OfScientific α, LT α, LE α,
    BEq α where
  decLt : DecidableLT α
  decLe : DecidableLE α
  ofNat : Nat → α
  sqrt : α → α
  sin : α → α
  cos : α → α
  pi : α

namespace Scalar

variable {α : Type} [Scalar α]

instance : DecidableLT α := decLt

instance : DecidableLE α := decLe

/-- The greater of two numbers. A value that differs from itself gives way to the other one. -/
def max (x y : α) : α := if x == x then (if x < y then y else x) else y

def min (x y : α) : α := if x == x then (if y < x then y else x) else y

def clamp (lo hi x : α) : α := if x < lo then lo else if hi < x then hi else x

instance : Scalar Float where
  decLt := inferInstance
  decLe := inferInstance
  ofNat := Float.ofNat
  sqrt := Float.sqrt
  sin := Float.sin
  cos := Float.cos
  pi := 3.141592653589793

instance : Scalar Float32 where
  decLt := inferInstance
  decLe := inferInstance
  ofNat := Float32.ofNat
  sqrt := Float32.sqrt
  sin := Float32.sin
  cos := Float32.cos
  pi := 3.1415927

end Scalar

/-- Two grades of one arithmetic: `widen` keeps the value, `narrow` may round it. -/
class Graded (α β : Type) where
  widen : β → α
  narrow : α → β

instance : Graded Float Float32 where
  widen := Float32.toFloat
  narrow := Float.toFloat32

structure Point (α : Type) where
  x : α
  y : α

namespace Point

variable {α : Type} [Scalar α]

def squaredLength (p : Point α) : α := p.x * p.x + p.y * p.y

def length (p : Point α) : α := Scalar.sqrt p.squaredLength

def minus (p q : Point α) : Point α := ⟨p.x - q.x, p.y - q.y⟩

def along (a d : Point α) (t : α) : Point α := ⟨a.x + d.x * t, a.y + d.y * t⟩

end Point

namespace Segment

variable {α : Type} [Scalar α]

/-- Segments whose squared length is below this, `2 ^ (-52)`, count as a point. -/
def pointLimit : α := 2.220446049250313080847263336181640625e-16

/-- Where on the way from `a` to `b`, from zero to one, the segment comes nearest to `p`. -/
def nearestParameter (p a b : Point α) : α :=
  let d := b.minus a
  if d.squaredLength < pointLimit then 0.0
  else
    let q := p.minus a
    Scalar.clamp 0.0 1.0 ((q.x * d.x + q.y * d.y) / d.squaredLength)

def gap (p a b : Point α) : Point α :=
  p.minus (a.along (b.minus a) (nearestParameter p a b))

def distance (p a b : Point α) : α := (gap p a b).length

end Segment

end CodeGraph
