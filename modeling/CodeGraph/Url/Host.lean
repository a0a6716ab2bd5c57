import CodeGraph.Url.Basic
import CodeGraph.Url.Domain.Basic

namespace CodeGraph.Url

def splitAt (sep : Char) (cs : List Char) : List (List Char) := cs.splitOn sep

def isDigit (c : Char) : Bool := '0' ≤ c && c ≤ '9'

/-- A number of an address: decimal, octal behind `0`, or hexadecimal behind `0x`. -/
def ipv4Number? (cs : List Char) : Option Nat :=
  let read (base : Nat) (ds : List Char) : Option Nat :=
    ds.foldl (fun acc c => do
      let n ← acc
      let d ← hexValue? c
      if d < base then some (n * base + d) else none) (some 0)
  match cs with
  | [] => none
  | '0' :: 'x' :: ds => read 16 ds
  | '0' :: 'X' :: ds => read 16 ds
  | '0' :: d :: ds => read 8 (d :: ds)
  | ds => read 10 ds

/-- Whether the last part of a host is a number, so that the host must be an address. -/
def endsInNumber (host : List Char) : Bool :=
  let parts := splitAt '.' host
  let last? :=
    if parts.getLast? == some [] then parts.dropLast.getLast? else parts.getLast?
  match last? with
  | none => false
  | some last => (!last.isEmpty && last.all isDigit) || (ipv4Number? last).isSome

/-- Up to four numbers; the last one fills the bytes that are left. -/
def ipv4? (host : List Char) : Option Nat := do
  let parts := splitAt '.' host
  let parts := if parts.getLast? == some [] then parts.dropLast else parts
  if 4 < parts.length then none
  else
    let numbers ← parts.mapM ipv4Number?
    let last ← numbers.getLast?
    let front := numbers.dropLast
    if Nat.pow 256 (4 - front.length) ≤ last then none
    else if front.any (fun n => 255 < n) then none
    else
      return (front.zipIdx.map fun (n, i) => n * Nat.pow 256 (3 - i)).foldl (· + ·) last

def renderIpv4 (address : Nat) : List Char :=
  let byte (i : Nat) : List Char := Nat.toDigits 10 (address / Nat.pow 256 i % 256)
  byte 3 ++ '.' :: byte 2 ++ '.' :: byte 1 ++ '.' :: byte 0

def dottedByte? (cs : List Char) : Option Nat :=
  if cs.isEmpty || !cs.all isDigit || 3 < cs.length then none
  else if 1 < cs.length && cs.head? == some '0' then none
  else
    let n := cs.foldl (fun n c => n * 10 + (c.toNat - '0'.toNat)) 0
    if n ≤ 255 then some n else none

def dottedPieces? (cs : List Char) : Option (List Nat) :=
  match (splitAt '.' cs).mapM dottedByte? with
  | some [a, b, c, d] => some [a * 256 + b, c * 256 + d]
  | _ => none

def piece? (cs : List Char) : Option Nat :=
  if cs.isEmpty || 4 < cs.length then none
  else cs.foldl (fun acc c => do return (← acc) * 16 + (← hexValue? c)) (some 0)

/-- Pieces between single colons; the last may be four dotted bytes. -/
def pieces? : List (List Char) → Option (List Nat)
  | [] => some []
  | [last] => if last.contains '.' then dottedPieces? last else (piece? last).map ([·])
  | part :: rest => do return (← piece? part) :: (← pieces? rest)

def piecesOrNone? (cs : List Char) : Option (List Nat) :=
  if cs.isEmpty then some [] else pieces? (splitAt ':' cs)

def splitDoubleColon : List Char → Option (List Char × List Char)
  | ':' :: ':' :: rest => some ([], rest)
  | c :: rest => (splitDoubleColon rest).map fun p => (c :: p.1, p.2)
  | [] => none

/-- The eight pieces of a version 6 address; a double colon stands for at least one zero piece. -/
def ipv6? (cs : List Char) : Option (List Nat) :=
  match splitDoubleColon cs with
  | none => do
    let ps ← pieces? (splitAt ':' cs)
    if ps.length = 8 then some ps else none
  | some (before, behind) => do
    if before.contains '.' then none
    else
      let front ← piecesOrNone? before
      let back ← piecesOrNone? behind
      if front.length + back.length ≤ 7 then
        return front ++ List.replicate (8 - front.length - back.length) 0 ++ back
      else none

def longestZeros (pieces : List Nat) : Nat × Nat :=
  (List.range pieces.length).foldl (fun best i =>
    let run := ((pieces.drop i).takeWhile (· == 0)).length
    if best.2 < run then (i, run) else best) (0, 0)

def joinPieces (pieces : List Nat) : List Char :=
  [':'].intercalate (pieces.map (Nat.toDigits 16))

/-- The text of a version 6 address; the first longest run of two or more zeros is left out. -/
def renderIpv6 (pieces : List Nat) : List Char :=
  let (start, length) := longestZeros pieces
  if length < 2 then '[' :: joinPieces pieces ++ [']']
  else '[' :: joinPieces (pieces.take start) ++ ':' :: ':' ::
    joinPieces (pieces.drop (start + length)) ++ [']']

def bracketHost (rest : List Char) : Except ParseError (List Char) :=
  if rest.getLast? == some ']' then
    match ipv6? rest.dropLast with
    | some pieces => .ok (renderIpv6 pieces)
    | none => .error .badIpv6
  else .error .badIpv6

def specialHost (cs : List Char) : Except ParseError (List Char) :=
  match cs with
  | '[' :: rest => bracketHost rest
  | _ =>
    match (decode? cs).bind Domain.toAscii? with
    | none => .error .badDomain
    | some domain =>
      if domain.isEmpty then .error .emptyHost
      else if endsInNumber domain then
        match ipv4? domain with
        | some address => .ok (renderIpv4 address)
        | none => .error .badIpv4
      else .ok domain

def isForbiddenInHost (c : Char) : Bool :=
  c ∈ ['\x00', '\t', '\n', '\r', ' ', '#', '/', ':', '<', '>', '?', '@', '[', '\\', ']', '^', '|']

def opaqueHost (cs : List Char) : Except ParseError (List Char) :=
  match cs with
  | '[' :: rest => bracketHost rest
  | _ => if cs.any isForbiddenInHost then .error .badHostCharacter else .ok (encode isControl cs)

end CodeGraph.Url
