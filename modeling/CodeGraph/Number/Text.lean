namespace CodeGraph.Number

/-- The magnitude `mantissa * 2 ^ exponent`. `closeBelow` says that the next smaller float is at
half the distance of the next greater one. -/
structure Magnitude where
  mantissa : Nat
  exponent : Int
  closeBelow : Bool

inductive Parts
  | finite (negative : Bool) (magnitude : Magnitude)
  | infinite (negative : Bool)
  | notANumber

def Parts.ofFloat (x : Float) : Parts :=
  let bits : Nat := x.toBits.toNat
  let leading : Nat := 0x10000000000000
  let negative := bits / 0x8000000000000000 == 1
  let exponent : Nat := bits / leading % 0x800
  let fraction : Nat := bits % leading
  if exponent == 2047 then
    if fraction == 0 then .infinite negative else .notANumber
  else if exponent == 0 then .finite negative ⟨fraction, -1074, false⟩
  else
    .finite negative ⟨fraction + leading, (exponent : Int) - 1075, fraction == 0 && exponent != 1⟩

structure Decimal where
  coefficient : Nat
  scale : Int

/-- Which of two equally near neighbours a tie takes. -/
inductive Tie
  | up
  | even

def ratio (base : Nat) (e : Int) : Nat × Nat :=
  (Nat.pow base e.toNat, Nat.pow base (-e).toNat)

/-- The multiple of `10 ^ scale` that is nearest to `m` among its two neighbours on that grid that
lie in the interval of reals which round to `m`. Four quarters are one unit of the mantissa. -/
def onGrid? (tie : Tie) (m : Magnitude) (scale : Int) : Option Nat :=
  let binary := ratio 2 (m.exponent - 2)
  let decimal := ratio 10 scale
  let up := binary.1 * decimal.2
  let unit := binary.2 * decimal.1
  let value := 4 * m.mantissa * up
  let low := (4 * m.mantissa - (if m.closeBelow then 1 else 2)) * up
  let high := (4 * m.mantissa + 2) * up
  let closed := m.mantissa % 2 == 0
  let inside (c : Nat) : Bool :=
    (low < c * unit && c * unit < high) || (closed && (c * unit == low || c * unit == high))
  let below := value / unit
  let rest := value % unit
  if rest == 0 then some below
  else
    let above := below + 1
    match inside below, inside above with
    | false, false => none
    | true, false => some below
    | false, true => some above
    | true, true =>
      if 2 * rest < unit then some below
      else if unit < 2 * rest then some above
      else match tie with
        | .up => some above
        | .even => some (if below % 2 == 0 then below else above)

/-- A scale above every digit of the magnitude, by at most three places. -/
def topScale (m : Magnitude) : Int :=
  ((m.mantissa.log2 : Int) + m.exponent) * 30103 / 100000 + 2

def Decimal.stripZeros : Nat → Decimal → Decimal
  | 0, d => d
  | fuel + 1, d =>
    if d.coefficient != 0 && d.coefficient % 10 == 0 then
      stripZeros fuel ⟨d.coefficient / 10, d.scale + 1⟩
    else d

/-- The first grid, from coarse to fine, that has a point reading back as the magnitude. Seventeen
digits always suffice, so the search ends within the places it looks at. -/
def shortest (tie : Tie) (m : Magnitude) : Decimal :=
  let top := topScale m
  let found := (List.range 24).findSome? fun (i : Nat) =>
    (onGrid? tie m (top - (i : Int))).map fun c => Decimal.mk c (top - (i : Int))
  ((found.getD ⟨0, 0⟩).stripZeros 24)

def zeros (n : Nat) : List Char := List.replicate n '0'

def positional (d : Decimal) : List Char :=
  let digits := Nat.toDigits 10 d.coefficient
  if 0 ≤ d.scale then digits ++ zeros d.scale.toNat
  else
    let places := (-d.scale).toNat
    if places < digits.length then
      digits.take (digits.length - places) ++ '.' :: digits.drop (digits.length - places)
    else '0' :: '.' :: zeros (places - digits.length) ++ digits

def signed (negative : Bool) (cs : List Char) : List Char :=
  if negative then '-' :: cs else cs

/-- Positional text: the fewest digits that read back, a tie going away from zero, no point on whole
numbers, and the sign of a zero kept. -/
def plain (x : Float) : String :=
  match Parts.ofFloat x with
  | .notANumber => "NaN"
  | .infinite negative => String.ofList (signed negative ['i', 'n', 'f'])
  | .finite negative m =>
    String.ofList (signed negative
      (if m.mantissa == 0 then ['0'] else positional (shortest .up m)))

def Decimal.leading (d : Decimal) : Int :=
  d.scale + (Nat.toDigits 10 d.coefficient).length - 1

def scientific (d : Decimal) : List Char :=
  let e := d.leading
  let mark := if e < 0 then ['e', '-'] else ['e', '+']
  let point : List Char → List Char
    | [] => []
    | rest => '.' :: rest
  let digits := Nat.toDigits 10 d.coefficient
  digits.take 1 ++ point (digits.drop 1) ++ mark ++ Nat.toDigits 10 e.natAbs

/-- Text in JSON documents: positional from `0.00001` up to sixteen whole digits, always with a
point there, scientific elsewhere, a tie going to the even digit. -/
def jsonText (x : Float) : String :=
  match Parts.ofFloat x with
  | .notANumber | .infinite _ => "null"
  | .finite negative m =>
    let body :=
      if m.mantissa == 0 then ['0', '.', '0']
      else
        let d := shortest .even m
        if -5 ≤ d.leading && d.leading ≤ 15 then
          if 0 ≤ d.scale then positional d ++ ['.', '0'] else positional d
        else scientific d
    String.ofList (signed negative body)

def roundHalfEven (num den : Nat) : Nat :=
  let q := num / den
  let r := num % den
  if 2 * r < den then q
  else if den < 2 * r then q + 1
  else if q % 2 == 0 then q else q + 1

/-- Exactly two places, rounded from the exact value, with the sign kept on a zero. -/
def twoPlaces (x : Float) : String :=
  match Parts.ofFloat x with
  | .notANumber => "NaN"
  | .infinite negative => String.ofList (signed negative ['i', 'n', 'f'])
  | .finite negative m =>
    let r := ratio 2 m.exponent
    let hundredths := roundHalfEven (m.mantissa * r.1 * 100) r.2
    let places := hundredths % 100
    String.ofList (signed negative
      (Nat.toDigits 10 (hundredths / 100) ++
        '.' :: (if places < 10 then '0' :: Nat.toDigits 10 places else Nat.toDigits 10 places)))

end CodeGraph.Number
