import CodeGraph.Json.Cursor

namespace CodeGraph.Json.Reader

def hexValue? (c : Char) : Option Nat :=
  let n := c.toNat
  if 0x30 ≤ n && n ≤ 0x39 then some (n - 0x30)
  else if 0x61 ≤ n && n ≤ 0x66 then some (n - 0x61 + 10)
  else if 0x41 ≤ n && n ≤ 0x46 then some (n - 0x41 + 10)
  else none

def fourHex? : List Char → Option Nat
  | a :: b :: c :: d :: _ => do
    return (((← hexValue? a) * 16 + (← hexValue? b)) * 16 + (← hexValue? c)) * 16 + (← hexValue? d)
  | _ => none

/-- Four hexadecimal digits. If they are not, the fault lies behind the next four bytes. -/
def hexCode : Reader Nat := fun c =>
  match fourHex? c.rest with
  | some n => .ok (n, { c with rest := c.rest.drop 4, column := c.column + 4 })
  | none =>
    if c.bytesLeft < 4 then .error (.placed ⟨.endInText, c.afterBytes c.bytesLeft⟩)
    else .error (.placed ⟨.badEscape, c.afterBytes 4⟩)

def simpleEscape? : Char → Option Char
  | '"' => some '"'
  | '\\' => some '\\'
  | '/' => some '/'
  | 'b' => some '\x08'
  | 'f' => some '\x0c'
  | 'n' => some '\n'
  | 'r' => some '\r'
  | 't' => some '\t'
  | _ => none

def pairMark (wanted : Char) : Reader Unit := do
  match ← peek with
  | none => failHere .endInText
  | some c => if c = wanted then advance else failNext .halfPair

/-- The code behind a `u`, together with the second half of a surrogate pair. -/
def codeEscape : Reader Char := do
  let first ← hexCode
  if 0xdc00 ≤ first && first ≤ 0xdfff then failHere .loneSurrogate
  else if 0xd800 ≤ first && first ≤ 0xdbff then
    pairMark '\\'
    pairMark 'u'
    let second ← hexCode
    if 0xdc00 ≤ second && second ≤ 0xdfff then
      return Char.ofNat ((first - 0xd800) * 0x400 + (second - 0xdc00) + 0x10000)
    else failHere .loneSurrogate
  else return Char.ofNat first

def escape : Reader Char := do
  match ← peek with
  | none => failHere .endInText
  | some c =>
    match simpleEscape? c with
    | some x => advance; return x
    | none => if c = 'u' then do advance; codeEscape else failNext .badEscape

def textStep (read : List Char) : Reader (Option (List Char)) := do
  match ← peek with
  | none => failHere .endInText
  | some c =>
    if c = '"' then do advance; return none
    else if c = '\\' then do advance; return some ((← escape) :: read)
    else if c.toNat < 0x20 then failNext .controlCharacter
    else do advance; return some (c :: read)

def textBody : Reader String := do
  return String.ofList (← repeatStep textStep []).reverse

def skipEscape : Reader Unit := do
  match ← peek with
  | none => failHere .endInText
  | some c =>
    if (simpleEscape? c).isSome then advance
    else if c = 'u' then do
      advance
      let _ ← hexCode
    else failNext .badEscape

def skipTextStep (_ : Unit) : Reader (Option Unit) := do
  match ← peek with
  | none => failHere .endInText
  | some c =>
    if c = '"' then do advance; return none
    else if c = '\\' then do
      advance
      skipEscape
      return some ()
    else if c.toNat < 0x20 then failHere .controlCharacter
    else do advance; return some ()

/-- Moves behind the closing quote. A skipped text need not pair its surrogates. -/
def skipTextBody : Reader Unit := repeatStep skipTextStep ()

end CodeGraph.Json.Reader
