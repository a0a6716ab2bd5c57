import CodeGraph.Json.Basic
import CodeGraph.Json.Cursor

namespace CodeGraph.Json

/-- Digits read so far, as `value * 10 ^ exponent`; the value fits sixty-four bits. -/
structure Significand where
  value : Nat
  exponent : Int

namespace Significand

def digitValue (c : Char) : Nat := c.toNat - '0'.toNat

def fits (n : Nat) : Bool := n < 0x10000000000000000

/-- Whole digits, and whether all of them fit. The others only count. -/
def ofWhole (value : Nat) : List Char → Significand × Bool
  | [] => (⟨value, 0⟩, true)
  | c :: cs =>
    let next := value * 10 + digitValue c
    if fits next then ofWhole next cs else (⟨value, (c :: cs).length⟩, false)

def addFraction (s : Significand) : List Char → Significand
  | [] => s
  | c :: cs =>
    let next := s.value * 10 + digitValue c
    if fits next then addFraction ⟨next, s.exponent - 1⟩ cs else s

def tenPower (n : Nat) : Float := Float.ofScientific 1 false n

def divideByTenPower (x : Float) (n : Nat) : Float :=
  if n ≤ 308 then x / tenPower n
  else if x == 0.0 then x
  else divideByTenPower (x / tenPower 308) (n - 308)
termination_by n

def toFloat? (s : Significand) : Option Float :=
  let x := Float.ofScientific s.value false 0
  if s.exponent < 0 then some (divideByTenPower x (-s.exponent).toNat)
  else if s.exponent ≤ 308 then
    let scaled := x * tenPower s.exponent.toNat
    if scaled.isInf then none else some scaled
  else if x == 0.0 then some x
  else none

end Significand

/-- The number of an exponent's digits, or how many of them make it too large. -/
def exponentOf (value count : Nat) : List Char → Except Nat Nat
  | [] => .ok value
  | c :: cs =>
    let next := value * 10 + Significand.digitValue c
    if next < 0x80000000 then exponentOf next (count + 1) cs else .error (count + 1)

namespace Reader

def isDigit (c : Char) : Bool := '0' ≤ c && c ≤ '9'

def digits : Reader (List Char) := fun c =>
  let ds := c.rest.takeWhile isDigit
  .ok (ds, { c with rest := c.rest.dropWhile isDigit, column := c.column + ds.length })

def signedFloat (negative : Bool) (x : Float) : JsonNumber := .float (if negative then -x else x)

def finishFloat (negative : Bool) (s : Significand) : Reader JsonNumber :=
  match s.toFloat? with
  | some x => pure (signedFloat negative x)
  | none => failHere .numberTooLarge

def exponentSign : Reader Bool := do
  match ← peek with
  | some '+' => advance; return false
  | some '-' => advance; return true
  | _ => return false

def exponentPart (negative : Bool) (s : Significand) : Reader JsonNumber := do
  advance
  let below ← exponentSign
  match ← peek with
  | none => failHere .endInValue
  | some c =>
    if !isDigit c then failNext .badNumber
    else fun cursor =>
      match digits cursor with
      | .error e => .error e
      | .ok (ds, after) =>
        match exponentOf 0 0 ds with
        | .ok e =>
          finishFloat negative ⟨s.value, if below then s.exponent - e else s.exponent + e⟩ after
        | .error count =>
          if s.value != 0 && !below then
            .error (.placed ⟨.numberTooLarge, ⟨cursor.line, cursor.column + count⟩⟩)
          else .ok (signedFloat negative 0.0, after)

def fractionPart (negative : Bool) (s : Significand) : Reader JsonNumber := do
  advance
  let ds ← digits
  let next ← peek
  if ds.isEmpty then
    match next with
    | none => failHere .endInValue
    | some _ => failNext .badNumber
  else
    let s' := s.addFraction ds
    if next == some 'e' || next == some 'E' then exponentPart negative s'
    else finishFloat negative s'

/-- A whole number with its sign; a negative zero, and what fits no sixty-four bits, is a float. -/
def wholeNumber (negative : Bool) (n : Nat) : JsonNumber :=
  if negative then
    if n == 0 || 0x8000000000000000 < n then .float (-(Float.ofScientific n false 0))
    else .whole (-(n : Int))
  else .whole n

/-- A number behind its sign. Without fraction and exponent it is whole if it fits sixty-four bits;
any other is a float, from up to sixty-four bits of its digits and a power of ten. -/
def number (negative : Bool) : Reader JsonNumber := do
  match ← peek with
  | none => failHere .endInValue
  | some c =>
    if !isDigit c then failNext .badNumber
    else
      let ds ← if c = '0' then do advance; pure ['0'] else digits
      let next ← peek
      if c = '0' && next.any isDigit then failNext .badNumber
      else
        let (s, fits) := Significand.ofWhole 0 ds
        if next == some '.' then fractionPart negative s
        else if next == some 'e' || next == some 'E' then exponentPart negative s
        else if fits then pure (wholeNumber negative s.value)
        else finishFloat negative s

def skipExponent : Reader Unit := do
  advance
  let _ ← exponentSign
  match ← peek with
  | some c => if isDigit c then discard digits else failNext .badNumber
  | none => failHere .badNumber

def skipFraction : Reader Unit := do
  advance
  let ds ← digits
  if ds.isEmpty then failNext .badNumber
  else
    let next ← peek
    if next == some 'e' || next == some 'E' then skipExponent

def skipNumber : Reader Unit := do
  match ← peek with
  | none => failHere .badNumber
  | some c =>
    if !isDigit c then failNext .badNumber
    else
      if c = '0' then advance else discard digits
      let next ← peek
      if c = '0' && next.any isDigit then failNext .badNumber
      else if next == some '.' then skipFraction
      else if next == some 'e' || next == some 'E' then skipExponent

end Reader

end CodeGraph.Json
