namespace CodeGraph.Url.Punycode

def digitChar (d : Nat) : Char :=
  if d < 26 then Char.ofNat ('a'.toNat + d) else Char.ofNat ('0'.toNat + d - 26)

def digitValue? (c : Char) : Option Nat :=
  let n := c.toNat
  if 0x61 ≤ n && n ≤ 0x7a then some (n - 0x61)
  else if 0x41 ≤ n && n ≤ 0x5a then some (n - 0x41)
  else if 0x30 ≤ n && n ≤ 0x39 then some (n - 0x30 + 26)
  else none

def threshold (k bias : Nat) : Nat :=
  if k ≤ bias then 1 else if bias + 26 ≤ k then 26 else k - bias

def adaptLoop (delta k : Nat) : Nat × Nat :=
  if 455 < delta then adaptLoop (delta / 35) (k + 36) else (delta, k)
termination_by delta

def adapt (delta count : Nat) (first : Bool) : Nat :=
  let start := if first then delta / 700 else delta / 2
  let r := adaptLoop (start + start / count) 0
  r.2 + 36 * r.1 / (r.1 + 38)

def differenceDigits (bias : Nat) : Nat → Nat → Nat → List Char
  | 0, _, _ => []
  | fuel + 1, k, q =>
    let t := threshold k bias
    if q < t then [digitChar q]
    else digitChar (t + (q - t) % (36 - t)) ::
      differenceDigits bias fuel (k + 36) ((q - t) / (36 - t))

structure EncodeState where
  output : List Char
  delta : Nat
  bias : Nat
  handled : Nat

def encodeOne (basic code : Nat) (s : EncodeState) (c : Char) : EncodeState :=
  if c.toNat < code then { s with delta := s.delta + 1 }
  else if c.toNat = code then
    { output := s.output ++ differenceDigits s.bias (s.delta + 1) 36 s.delta
      delta := 0
      bias := adapt s.delta (s.handled + 1) (s.handled == basic)
      handled := s.handled + 1 }
  else s

/-- Handles the code points from the least one up. -/
def encodeCodes (label : List Char) (basic : Nat) : List Nat → Nat → EncodeState → EncodeState
  | [], _, s => s
  | code :: codes, next, s =>
    let s' := label.foldl (encodeOne basic code)
      { s with delta := s.delta + (code - next) * (s.handled + 1) }
    encodeCodes label basic codes (code + 1) { s' with delta := s'.delta + 1 }

/-- The written form of a label, without the mark that says so: behind its ASCII characters the
others, as differences in digits of base thirty-six with an adaptive threshold. -/
def encode (label : List Char) : List Char :=
  let ascii := label.filter fun c => c.toNat < 0x80
  let codes := ((label.map Char.toNat).filter fun n => 0x80 ≤ n).mergeSort.eraseDups
  let s := encodeCodes label ascii.length codes 0x80 ⟨[], 0, 72, ascii.length⟩
  (if ascii.isEmpty then [] else ascii ++ ['-']) ++ s.output

def word? (n : Nat) : Option Nat := if n < 0x100000000 then some n else none

def readDifference (bias : Nat) : Nat → Nat → Nat → List Char → Option (Nat × List Char)
  | _, _, _, [] => none
  | k, weight, i, c :: rest => do
    let d ← digitValue? c
    let i' ← word? (i + d * weight)
    let t := threshold k bias
    if d < t then some (i', rest)
    else readDifference bias (k + 36) (← word? (weight * (36 - t))) i' rest

def decodeLoop : Nat → List Char → Nat → Nat → Nat → List Char → Option (List Char)
  | _, [], _, _, _, output => some output
  | 0, _ :: _, _, _, _, _ => none
  | fuel + 1, input, code, i, bias, output => do
    let (i', rest) ← readDifference bias 36 1 i input
    let count := output.length + 1
    let code' := code + i' / count
    let place := i' % count
    if h : code'.isValidChar then
      decodeLoop fuel rest code' (place + 1) (adapt (i' - i) count (i == 0))
        (output.take place ++ Char.ofNatAux code' h :: output.drop place)
    else none

/-- The label a written form stands for. The last hyphen parts the ASCII characters, of which there
must be one, from the differences. -/
def decode? (cs : List Char) : Option (List Char) :=
  let tail := (cs.reverse.takeWhile (· != '-')).reverse
  let head := cs.take (cs.length - tail.length)
  if head.length ≤ 1 then decodeLoop cs.length cs 0x80 0 72 []
  else decodeLoop cs.length tail 0x80 0 72 head.dropLast

end CodeGraph.Url.Punycode
