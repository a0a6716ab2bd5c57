namespace CodeGraph

namespace Url

inductive ParseError
  | emptyHost
  | badDomain
  | badPort
  | badIpv4
  | badIpv6
  | badHostCharacter
  | relativeWithoutBase
  | relativeToOpaque
  deriving DecidableEq

def ParseError.message : ParseError → String
  | .emptyHost => "empty host"
  | .badDomain => "invalid international domain name"
  | .badPort => "invalid port number"
  | .badIpv4 => "invalid IPv4 address"
  | .badIpv6 => "invalid IPv6 address"
  | .badHostCharacter => "invalid domain character"
  | .relativeWithoutBase => "relative URL without a base"
  | .relativeToOpaque => "relative URL with a cannot-be-a-base base"

/-- How a scheme is treated: files have drive letters, special schemes always have a host. -/
inductive SchemeType
  | file
  | special
  | other
  deriving DecidableEq

namespace SchemeType

def ofScheme (scheme : String) : SchemeType :=
  if scheme = "file" then .file
  else if scheme ∈ ["http", "https", "ws", "wss", "ftp"] then .special
  else .other

/-- In files and special schemes a backslash separates like a slash. -/
def isSpecial : SchemeType → Bool
  | .other => false
  | _ => true

end SchemeType

def defaultPort? (scheme : String) : Option Nat :=
  if scheme = "http" ∨ scheme = "ws" then some 80
  else if scheme = "https" ∨ scheme = "wss" then some 443
  else if scheme = "ftp" then some 21
  else none

/-- User, host and port. The user part is kept as it is written, with its `@`. -/
structure Authority where
  user : List Char
  host : List Char
  port : Option Nat

def Authority.render (a : Authority) : List Char :=
  a.user ++ a.host ++
    match a.port with
    | some p => ':' :: Nat.toDigits 10 p
    | none => []

end Url

/-- A URL. Its path is empty, or starts with a slash, or is opaque text. -/
structure Url where
  scheme : String
  authority : Option Url.Authority
  path : List Char
  query : Option (List Char)
  fragment : Option (List Char)

namespace Url

def schemeType (u : Url) : SchemeType := .ofScheme u.scheme

def isOpaque (u : Url) : Bool := u.authority.isNone && u.path.head? != some '/'

def marked (mark : Char) : Option (List Char) → List Char
  | some cs => mark :: cs
  | none => []

/-- The path in the whole text; without an authority it must not look like one. -/
def pathText (u : Url) : List Char :=
  match u.authority, u.path with
  | none, '/' :: '/' :: _ => '/' :: '.' :: u.path
  | _, _ => u.path

def render (u : Url) : String :=
  String.ofList (u.scheme.toList ++ ':' ::
    (match u.authority with
      | some a => '/' :: '/' :: a.render
      | none => []) ++
    u.pathText ++ marked '?' u.query ++ marked '#' u.fragment)

def isControl (c : Char) : Bool := c.toNat < 0x20 || 0x7f ≤ c.toNat

def inFragmentSet (c : Char) : Bool := isControl c || c ∈ [' ', '"', '<', '>', '`']

def inQuerySet (special : Bool) (c : Char) : Bool :=
  isControl c || c ∈ [' ', '"', '#', '<', '>'] || (special && c == '\'')

def inPathSet (c : Char) : Bool := inFragmentSet c || c ∈ ['#', '?', '\x7b', '\x7d']

def inUserSet (c : Char) : Bool :=
  inPathSet c || c ∈ ['/', ':', ';', '=', '@', '[', '\\', ']', '^', '|']

def upperHex (n : Nat) : Char :=
  if n < 10 then Char.ofNat ('0'.toNat + n) else Char.ofNat ('A'.toNat + n - 10)

def percentByte (b : UInt8) : List Char :=
  ['%', upperHex (b.toNat / 16), upperHex (b.toNat % 16)]

def encodeChar (inSet : Char → Bool) (c : Char) : List Char :=
  if inSet c then (String.utf8EncodeChar c).flatMap percentByte else [c]

def encode (inSet : Char → Bool) (cs : List Char) : List Char := cs.flatMap (encodeChar inSet)

def hexValue? (c : Char) : Option Nat :=
  let n := c.toNat
  if 0x30 ≤ n && n ≤ 0x39 then some (n - 0x30)
  else if 0x61 ≤ n && n ≤ 0x66 then some (n - 0x61 + 10)
  else if 0x41 ≤ n && n ≤ 0x46 then some (n - 0x41 + 10)
  else none

/-- The bytes of a text, with each `%` and two digits read as one byte. -/
def decodeBytes : List Char → List UInt8
  | '%' :: a :: b :: rest =>
    match hexValue? a, hexValue? b with
    | some x, some y => (x * 16 + y).toUInt8 :: decodeBytes rest
    | _, _ => '%'.toUInt8 :: decodeBytes (a :: b :: rest)
  | c :: rest => String.utf8EncodeChar c ++ decodeBytes rest
  | [] => []

def decode? (cs : List Char) : Option (List Char) :=
  (String.fromUTF8? ⟨(decodeBytes cs).toArray⟩).map String.toList

end Url

end CodeGraph
