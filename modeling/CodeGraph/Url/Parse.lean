import CodeGraph.Url.Host
import CodeGraph.Url.Path

namespace CodeGraph.Url

def trimmed (s : String) : List Char :=
  let atEnd (c : Char) : Bool := c.toNat ≤ 0x20
  ((s.toList.dropWhile atEnd).reverse.dropWhile atEnd).reverse

def isBreak (c : Char) : Bool := c == '\t' || c == '\n' || c == '\r'

def cleaned (s : String) : List Char := (trimmed s).filter fun c => !isBreak c

/-- The places where tabs and line breaks were taken out of the cleaned text, each by the number
of characters behind it. -/
def seams (s : String) : List Nat :=
  ((trimmed s).foldr
    (fun c (behind, places) =>
      if isBreak c then (behind, behind :: places) else (behind + 1, places)) (0, [])).2

def isSchemeChar (c : Char) : Bool := isLetter c || isDigit c || c ∈ ['+', '-', '.']

def splitScheme? (input : List Char) : Option (String × List Char) :=
  match input with
  | c :: _ =>
    if isLetter c then
      match input.dropWhile isSchemeChar with
      | ':' :: rest => some ((String.ofList (input.takeWhile isSchemeChar)).toLower, rest)
      | _ => none
    else none
  | [] => none

def isSlash (c : Char) : Bool := c == '/' || c == '\\'

def readTail (type : SchemeType) (u : Url) (input : List Char) : Url :=
  let fragmentOf : List Char → Option (List Char)
    | '#' :: rest => some (encode inFragmentSet rest)
    | _ => none
  match input with
  | '?' :: rest =>
    { u with
      query := some (encode (inQuerySet type.isSpecial) (rest.takeWhile (· != '#')))
      fragment := fragmentOf (rest.dropWhile (· != '#')) }
  | _ => { u with query := none, fragment := fragmentOf input }

def withPath (u : Url) (r : PathResult) : Url :=
  readTail u.schemeType { u with path := r.path } r.rest

def endsAuthority (type : SchemeType) (c : Char) : Bool :=
  c ∈ ['/', '?', '#'] || (type.isSpecial && c == '\\')

/-- The user part with its `@`; an empty password has no colon. -/
def encodeUser (cs : List Char) : List Char :=
  let name := encode inUserSet (cs.takeWhile (· != ':'))
  let secret := encode inUserSet ((cs.dropWhile (· != ':')).drop 1)
  if name.isEmpty && secret.isEmpty then []
  else name ++ (if secret.isEmpty then [] else ':' :: secret) ++ ['@']

/-- Splits off the user part, which ends at the last `@` of the authority. -/
def readUser (type : SchemeType) (input : List Char) :
    Except ParseError (List Char × List Char) :=
  let authority := input.takeWhile fun c => !endsAuthority type c
  if authority.contains '@' then
    let host := (authority.reverse.takeWhile (· != '@')).reverse
    let user := authority.take (authority.length - host.length - 1)
    let rest := input.drop (user.length + 1)
    if user.isEmpty then
      match rest with
      | c :: _ => if endsAuthority type c then .error .emptyHost else .ok ([], rest)
      | [] => .ok ([], rest)
    else .ok (encodeUser user, rest)
  else .ok ([], input)

/-- How many characters of the input are its host; a colon between brackets belongs to it. -/
def hostLength (type : SchemeType) : Bool → List Char → Nat
  | _, [] => 0
  | inBrackets, c :: rest =>
    if (c == ':' && !inBrackets) || endsAuthority type c then 0
    else
      hostLength type (if c == '[' then true else if c == ']' then false else inBrackets) rest + 1

/-- A port behind its colon; none if it is the usual one of the scheme. -/
def readPort (scheme : String) (input : List Char) :
    Except ParseError (Option Nat × List Char) :=
  let ds := input.takeWhile isDigit
  let rest := input.dropWhile isDigit
  let port := ds.foldl (fun n c => n * 10 + (c.toNat - '0'.toNat)) 0
  if 65535 < port then .error .badPort
  else
    match rest with
    | c :: _ =>
      if endsSegment c then
        .ok (if ds.isEmpty || defaultPort? scheme == some port then none else some port, rest)
      else .error .badPort
    | [] => .ok (if ds.isEmpty || defaultPort? scheme == some port then none else some port, rest)

def readAuthority (scheme : String) (input : List Char) : Except ParseError Url := do
  let type := SchemeType.ofScheme scheme
  let (user, rest) ← readUser type input
  let length := hostLength type false rest
  let written := rest.take length
  let rest := rest.drop length
  if type = .special && written.isEmpty then throw .emptyHost
  let host ← if type.isSpecial then specialHost written else opaqueHost written
  if host.isEmpty && (type.isSpecial || rest.head? == some ':') then throw .emptyHost
  let (port, rest) ←
    match rest with
    | ':' :: rest => readPort scheme rest
    | _ => pure (none, rest)
  if host.isEmpty && !user.isEmpty then throw .emptyHost
  let r := readPathStart type [] true rest
  return withPath ⟨scheme, some ⟨user, host, port⟩, [], none, none⟩ r

def fragmentOnly (base : Url) (input : List Char) : Url :=
  { base with fragment := some (encode inFragmentSet (input.drop 1)) }

def plainFile (seams : List Nat) (path : List Char) (input : List Char) : Url :=
  withPath ⟨"file", some ⟨[], [], none⟩, [], none, none⟩ (readPath .file seams path false input)

/-- The host of a file behind two slashes; `localhost` counts as none. -/
def fileWithHost (seams : List Nat) (input : List Char) : Except ParseError Url := do
  let written := input.takeWhile fun c => !endsSegment c
  if isDriveLetter written then return plainFile seams ['/'] input
  let rest := input.drop written.length
  if written.isEmpty then return plainFile seams ['/'] rest
  let host ← specialHost written
  if host == "localhost".toList then return plainFile seams ['/'] rest
  let r := readPathStart .file seams true rest
  let kept := if r.hasHost then host else []
  return withPath ⟨"file", some ⟨[], kept, none⟩, [], none, none⟩ r

/-- A file path behind one slash, on the drive or the host of the base. -/
def fileBehindSlash (seams : List Nat) (base : Option Url) (afterSlash input : List Char) : Url :=
  match base with
  | some b =>
    if startsWithDrive afterSlash then plainFile seams [] input
    else
      let first := (b.path.drop 1).takeWhile (· != '/')
      if isNormalDriveLetter first then plainFile seams ('/' :: first) input
      else
        withPath { b with query := none, fragment := none } (readPath .file seams [] false input)
  | none => plainFile seams [] input

def fileReference (seams : List Nat) (base : Option Url) (input : List Char) :
    Except ParseError Url :=
  match input with
  | c :: rest =>
    if isSlash c then
      match rest with
      | d :: rest' =>
        if isSlash d then fileWithHost seams rest'
        else .ok (fileBehindSlash seams base rest input)
      | [] => .ok (fileBehindSlash seams base rest input)
    else
      match base with
      | none => .ok (plainFile seams ['/'] input)
      | some b =>
        if c = '?' then .ok (readTail .file b input)
        else if c = '#' then .ok (fragmentOnly b input)
        else if startsWithDrive input then .ok (plainFile seams ['/'] input)
        else .ok (withPath b (readPath .file seams (shorten .file b.path) true input))
  | [] =>
    match base with
    | none => .ok (plainFile seams ['/'] [])
    | some b => .ok { b with fragment := none }

def readRelative (base : Url) (input : List Char) : Except ParseError Url :=
  let type := base.schemeType
  match input with
  | [] => .ok { base with fragment := none }
  | c :: rest =>
    if c = '?' then .ok (readTail type base input)
    else if c = '#' then .ok (fragmentOnly base input)
    else if isSlash c then
      match input with
      | '/' :: '/' :: behind => readAuthority base.scheme behind
      | _ =>
        if rest.head?.any isSlash then readAuthority base.scheme (input.dropWhile isSlash)
        else .ok (withPath base (readPath type [] ['/'] true rest))
    else
      let front := dropLastSegment type base.path
      .ok (withPath base (readPath type [] (if front.isEmpty then ['/'] else front) true input))

def readOther (scheme : String) (input : List Char) : Except ParseError Url :=
  let bare : Url := ⟨scheme, none, [], none, none⟩
  match input with
  | '/' :: '/' :: rest => readAuthority scheme rest
  | '/' :: rest => .ok (withPath bare (readPath .other [] ['/'] false rest))
  | _ =>
    let isEnd (c : Char) : Bool := c == '?' || c == '#'
    .ok (readTail .other { bare with path := encode isControl (input.takeWhile fun c => !isEnd c) }
      (input.dropWhile fun c => !isEnd c))

/-- Reads a URL relative to a base, or an absolute one if there is none. -/
def parseWith (base : Option Url) (s : String) : Except ParseError Url :=
  let input := cleaned s
  match splitScheme? input with
  | some (scheme, rest) =>
    match SchemeType.ofScheme scheme with
    | .file => fileReference (seams s) (base.filter fun b => b.scheme = "file") rest
    | .special =>
      let slashes := (rest.takeWhile isSlash).length
      match base with
      | some b =>
        if slashes < 2 && b.scheme = scheme then readRelative b rest
        else readAuthority scheme (rest.dropWhile isSlash)
      | none => readAuthority scheme (rest.dropWhile isSlash)
    | .other => readOther scheme rest
  | none =>
    match base with
    | none => .error .relativeWithoutBase
    | some b =>
      if input.head? == some '#' then .ok (fragmentOnly b input)
      else if b.isOpaque then .error .relativeToOpaque
      else if b.schemeType = .file then fileReference (seams s) (some b) input
      else readRelative b input

def parse (s : String) : Except ParseError Url := parseWith none s

def join (base : Url) (reference : String) : Except ParseError Url :=
  parseWith (some base) reference

def resolve (origin path : String) : Except ParseError Url := do
  (← parse origin).join path

end CodeGraph.Url
