import CodeGraph.Json.Fault

namespace CodeGraph.Json

structure Cursor where
  rest : List Char
  line : Nat
  column : Nat

namespace Cursor

def ofString (s : String) : Cursor := ⟨s.toList, 1, 0⟩

def position (c : Cursor) : Position := ⟨c.line, c.column⟩

def advance (c : Cursor) : Cursor :=
  match c.rest with
  | [] => c
  | ch :: rest =>
    if ch = '\n' then ⟨rest, c.line + 1, 0⟩ else ⟨rest, c.line, c.column + ch.utf8Size⟩

def nextPosition (c : Cursor) : Position :=
  match c.rest with
  | [] => c.position
  | ch :: _ => if ch = '\n' then ⟨c.line + 1, 0⟩ else ⟨c.line, c.column + 1⟩

def isBlank (c : Char) : Bool := c == ' ' || c == '\n' || c == '\t' || c == '\r'

def skipBlanksFrom : List Char → Nat → Nat → Cursor
  | [], line, column => ⟨[], line, column⟩
  | ch :: rest, line, column =>
    if isBlank ch then
      if ch = '\n' then skipBlanksFrom rest (line + 1) 0 else skipBlanksFrom rest line (column + 1)
    else ⟨ch :: rest, line, column⟩

def skipBlanks (c : Cursor) : Cursor := skipBlanksFrom c.rest c.line c.column

def afterBytesFrom : List Char → Nat → Nat → Nat → Position
  | [], line, column, _ => ⟨line, column⟩
  | ch :: rest, line, column, n =>
    if n = 0 then ⟨line, column⟩
    else if ch = '\n' then afterBytesFrom rest (line + 1) 0 (n - 1)
    else if ch.utf8Size ≤ n then afterBytesFrom rest line (column + ch.utf8Size) (n - ch.utf8Size)
    else ⟨line, column + n⟩

/-- The place `n` bytes further on, which may lie inside a character. -/
def afterBytes (c : Cursor) (n : Nat) : Position := afterBytesFrom c.rest c.line c.column n

def bytesLeft (c : Cursor) : Nat :=
  c.rest.foldl (fun n ch => n + ch.utf8Size) 0

end Cursor

/-- A fault on its way out. Some have their place at once; others get it where the bracket around
them is left. -/
inductive Failure
  | placed (fault : Fault)
  | floating (cause : Cause) (cursor : Cursor)

abbrev Reader := StateT Cursor (Except Failure)

namespace Reader

variable {α σ : Type}

def failHere (cause : Cause) : Reader α := fun c => .error (.placed ⟨cause, c.position⟩)

def failNext (cause : Cause) : Reader α := fun c => .error (.placed ⟨cause, c.nextPosition⟩)

/-- Fails at the place where the bracket around the cursor is left. -/
def failFloating (cause : Cause) : Reader α := fun c => .error (.floating cause c)

def peek : Reader (Option Char) := fun c => .ok (c.rest.head?, c)

def advance : Reader Unit := fun c => .ok ((), c.advance)

def peekPastBlanks : Reader (Option Char) := fun c =>
  let c' := c.skipBlanks
  .ok (c'.rest.head?, c')

/-- Repeats a step on a state until it gives none, at most once more than `fuel` has characters. -/
def iterate (step : σ → Reader (Option σ)) : List Char → σ → Reader σ
  | fuel, s => do
    match ← step s with
    | none => pure s
    | some s' =>
      match fuel with
      | [] => pure s'
      | _ :: fuel => iterate step fuel s'

/-- Repeats a step that moves the cursor at every turn but the last: no text holds more turns than
it has characters. -/
def repeatStep (step : σ → Reader (Option σ)) (s : σ) : Reader σ := fun c =>
  iterate step c.rest s c

/-- Gives a floating fault of `body` the place that `leave` finds for it. -/
def within (leave : Cursor → Position) (body : Reader α) : Reader α := fun c =>
  match body c with
  | .error (.floating cause c') => .error (.placed ⟨cause, leave c'⟩)
  | r => r

def word : List Char → Reader Unit
  | [] => pure ()
  | ch :: rest => do
    match ← peek with
    | none => failHere .endInValue
    | some x => if x = ch then do advance; word rest else failNext .noWord

def run (r : Reader α) (s : String) : Except Fault α :=
  match r (Cursor.ofString s) with
  | .error (.placed fault) => .error fault
  | .error (.floating cause c) => .error ⟨cause, c.position⟩
  | .ok (a, c) =>
    let c' := c.skipBlanks
    if c'.rest.isEmpty then .ok a else .error ⟨.trailingText, c'.nextPosition⟩

end Reader

end CodeGraph.Json
