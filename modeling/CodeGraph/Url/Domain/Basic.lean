import CodeGraph.Text.Composition
import CodeGraph.Text.Script
import CodeGraph.Url.Domain.Mapping
import CodeGraph.Url.Punycode

namespace CodeGraph.Url.Domain

open Text (Direction combiningClass composed direction isMark isTransparent joinsBefore joinsBehind
  virama)

def isAscii (cs : List Char) : Bool := cs.all fun c => c.toNat < 0x80

/-- Whether a joiner or non-joiner may stand behind `before`, the last character first, and before
`behind`: behind a silenced letter, or, for a non-joiner, between letters that it parts. -/
def joinerMayStand (joins : Bool) (before behind : List Char) : Bool :=
  before.head?.any (fun c => combiningClass c == virama) ||
    (!joins && (before.find? fun c => !isTransparent c).any joinsBehind &&
      (behind.find? fun c => !isTransparent c).any joinsBefore)

def joinersStand (before : List Char) : List Char → Bool
  | [] => true
  | c :: rest =>
    (c.toNat != 0x200c && c.toNat != 0x200d || joinerMayStand (c.toNat == 0x200d) before rest) &&
      joinersStand (c :: before) rest

def maxLength : Nat := 1000

def maxWritten : Nat := 2000

/-- Characters outside ASCII may stand in a label together in this way. -/
def wellFormed (cs : List Char) : Bool :=
  cs.length ≤ maxLength && !cs.head?.any isMark && joinersStand [] cs

structure Label where
  written : List Char
  shown : List Char

namespace Label

def mark : List Char := ['x', 'n', '-', '-']

def ofWritten? (rest : List Char) : Option Label :=
  if isAscii rest && rest.length ≤ maxWritten && !(rest.getLast?.all (· == '-')) then
    match Punycode.decode? rest with
    | some shown =>
      if shown.all isKept && composed shown == shown && wellFormed shown then
        some ⟨mark ++ rest, shown⟩
      else none
    | none => none
  else none

def ofChars? (cs : List Char) : Option Label :=
  if mark.isPrefixOf cs then ofWritten? (cs.drop mark.length)
  else if isAscii cs then some ⟨cs, cs⟩
  else if wellFormed cs then some ⟨mark ++ Punycode.encode cs, cs⟩
  else none

/-- What may stand in a label besides its letters, whatever its direction. -/
def isWeak (d : Direction) : Bool := d == .european || d == .neutral || d == .mark

/-- A label from left to right ends in a letter or digit. -/
def isLeftToRight (ds : List Direction) : Bool :=
  ds.all (fun d => d == .left || isWeak d) &&
    (ds.reverse.find? (· != .mark)).any fun d => d == .left || d == .european

/-- A label from right to left ends so too, and all its digits are of one kind. -/
def isRightToLeft (ds : List Direction) : Bool :=
  ds.all (fun d => d == .right || d == .arabic || isWeak d) &&
    (ds.reverse.find? (· != .mark)).any (fun d => d == .right || d == .european || d == .arabic) &&
    !(ds.contains .european && ds.contains .arabic)

/-- A label that may stand in a domain of both directions starts with a letter and keeps to its
direction. -/
def keepsDirection (l : Label) : Bool :=
  let ds := l.shown.map direction
  match ds.head? with
  | none => true
  | some .left => isLeftToRight ds
  | some .right => isRightToLeft ds
  | some _ => false

end Label

def isForbidden (c : Char) : Bool :=
  c.toNat ≤ 0x20 || c.toNat = 0x7f ||
    c ∈ ['%', '#', '/', ':', '<', '>', '?', '@', '[', '\\', ']', '^', '|']

def mapped? (cs : List Char) : Option (List Char) :=
  (cs.mapM image?).map fun images => Text.composed images.flatten

/-- In a domain with letters from right to left, every label keeps to its direction. -/
def keepsDirections (labels : List Label) : Bool :=
  !labels.any (fun l => l.shown.any Text.isRightward) || labels.all Label.keepsDirection

def toAscii? (cs : List Char) : Option (List Char) := do
  let text ← mapped? cs
  if text.any isForbidden then none
  else
    let labels ← (text.splitOn '.').mapM Label.ofChars?
    if keepsDirections labels then some (['.'].intercalate (labels.map Label.written)) else none

end CodeGraph.Url.Domain
