import CodeGraph.Url.Basic

namespace CodeGraph.Url

def isLetter (c : Char) : Bool := ('a' ≤ c && c ≤ 'z') || ('A' ≤ c && c ≤ 'Z')

def isDriveMark (c : Char) : Bool := c == ':' || c == '|'

def endsSegment (c : Char) : Bool := c ∈ ['/', '\\', '?', '#']

def isDriveLetter : List Char → Bool
  | [a, b] => isLetter a && isDriveMark b
  | _ => false

def isNormalDriveLetter : List Char → Bool
  | [a, ':'] => isLetter a
  | _ => false

def startsWithDrive : List Char → Bool
  | [a, b] => isLetter a && isDriveMark b
  | a :: b :: c :: _ => isLetter a && isDriveMark b && endsSegment c
  | _ => false

def isDoubleDot (segment : List Char) : Bool :=
  (String.ofList segment).toLower ∈ ["..", "%2e%2e", "%2e.", ".%2e"]

def isSingleDot (segment : List Char) : Bool := (String.ofList segment).toLower ∈ [".", "%2e"]

def splitLastSlash (path : List Char) : List Char × List Char :=
  let last := (path.reverse.takeWhile (· != '/')).reverse
  (path.take (path.length - last.length), last)

/-- Drops what stands behind the last slash, but never a file's drive letter. -/
def dropLastSegment (type : SchemeType) (path : List Char) : List Char :=
  let (front, last) := splitLastSlash path
  if type = .file && isNormalDriveLetter last then path else front

/-- Goes back one segment. A path that is a drive letter stays. -/
def shorten (type : SchemeType) (path : List Char) : List Char :=
  if path.isEmpty || (type = .file && isNormalDriveLetter path) then path
  else dropLastSegment type path

/-- Whether the slash at the end of a path may go: not the first one, nor one behind a drive. -/
def lastSlashMayGo (path : List Char) : Bool :=
  let (front, last) := splitLastSlash path.dropLast
  !front.isEmpty && !startsWithDrive (last ++ ['/'])

/-- The path behind a segment, of which a slash may be the end: dots are resolved, a file's first
segment may be its drive. The flag says that a host stands before the path; a drive removes it. -/
def endSegment (type : SchemeType) (path segment : List Char) (slash hasHost : Bool) :
    List Char × Bool :=
  let closing := if slash then ['/'] else []
  if isDoubleDot segment then
    let back := if path.getLast? == some '/' && lastSlashMayGo path then path.dropLast else path
    let back := shorten type back
    (if slash && back.getLast? != some '/' then back ++ ['/'] else back, hasHost)
  else if isSingleDot segment then
    (if path.getLast? == some '/' then path else path ++ ['/'], hasHost)
  else if type = .file && path.length == 1 && isDriveLetter segment then
    (path ++ segment.take 1 ++ ':' :: closing, false)
  else (path ++ segment ++ closing, hasHost)

structure PathResult where
  path : List Char
  hasHost : Bool
  rest : List Char

/-- Reads segments onto a path. The segment that is open comes with its last character first. Behind
a drive letter that is there already, or that a seam of the input sets off, a slash is put in; a
seam is given by the number of characters behind it. -/
def readSegments (type : SchemeType) (seams : List Nat) (path segment : List Char)
    (hasHost : Bool) : List Char → PathResult
  | [] =>
    let (path', hasHost') := endSegment type path segment.reverse false hasHost
    ⟨path', hasHost', []⟩
  | c :: rest =>
    if c = '/' || (c = '\\' && type.isSpecial) then
      let (path', hasHost') := endSegment type path segment.reverse true hasHost
      readSegments type seams path' [] hasHost' rest
    else if c = '?' || c = '#' then
      let (path', hasHost') := endSegment type path segment.reverse false hasHost
      ⟨path', hasHost', c :: rest⟩
    else
      let added := (encodeChar inPathSet c).reverse
      if type = .file &&
          (segment.isEmpty || (!seams.isEmpty && seams.contains (rest.length + 1))) &&
          isNormalDriveLetter ((path ++ segment.reverse).drop 1) then
        let whole := path ++ segment.reverse ++ ['/']
        let front := path.length + 1
        readSegments type seams (whole.take front) (added ++ (whole.drop front).reverse) hasHost
          rest
      else readSegments type seams path (added ++ segment) hasHost rest

def readPath (type : SchemeType) (seams : List Nat) (path : List Char) (hasHost : Bool)
    (input : List Char) : PathResult :=
  let r := readSegments type seams path [] hasHost input
  if type = .file then { r with path := '/' :: r.path.dropWhile (· == '/') } else r

def readPathStart (type : SchemeType) (seams : List Nat) (hasHost : Bool) (input : List Char) :
    PathResult :=
  if type.isSpecial then
    match input with
    | '/' :: rest => readPath type seams ['/'] hasHost rest
    | '\\' :: rest => readPath type seams ['/'] hasHost rest
    | _ => readPath type seams ['/'] hasHost input
  else
    match input with
    | [] => readPath type seams [] hasHost []
    | '?' :: _ => ⟨[], hasHost, input⟩
    | '#' :: _ => ⟨[], hasHost, input⟩
    | '/' :: _ => readPath type seams [] hasHost input
    | _ => readPath type seams ['/'] hasHost input

end CodeGraph.Url
