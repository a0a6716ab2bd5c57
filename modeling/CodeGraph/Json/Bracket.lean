import CodeGraph.Json.Text

namespace CodeGraph.Json.Reader

variable {α σ : Type}

/-- Where a list is left early: behind its bracket, or behind a comma and blanks, or before what
comes next. -/
def leaveList (c : Cursor) : Position :=
  let c' := c.skipBlanks
  match c'.rest with
  | ']' :: _ => c'.nextPosition
  | ',' :: _ => c'.advance.skipBlanks.position
  | _ => c'.position

def leaveObject (c : Cursor) : Position :=
  let c' := c.skipBlanks
  match c'.rest with
  | '\x7d' :: _ => c'.nextPosition
  | _ => c'.position

/-- Whether another item follows; the cursor then stands before it. -/
def nextItem (first : Bool) : Reader Bool := do
  match ← peekPastBlanks with
  | none => failNext .endInList
  | some c =>
    if c = ']' then return false
    else if first then return true
    else if c = ',' then do
      advance
      match ← peekPastBlanks with
      | none => failNext .endInValue
      | some c' => if c' = ']' then failNext .trailingComma else return true
    else failNext .noCommaInList

def closeList : Reader Unit := do
  match ← peekPastBlanks with
  | none => failNext .endInList
  | some c =>
    if c = ']' then advance
    else if c = ',' then do
      advance
      match ← peekPastBlanks with
      | some ']' => failNext .trailingComma
      | _ => failNext .trailingText
    else failNext .trailingText

def nextKey (first : Bool) : Reader Bool := do
  match ← peekPastBlanks with
  | none => failNext .endInObject
  | some c =>
    if c = '\x7d' then return false
    else if first then
      if c = '"' then return true else failNext .keyNotText
    else if c = ',' then do
      advance
      match ← peekPastBlanks with
      | none => failNext .endInValue
      | some c' =>
        if c' = '"' then return true
        else if c' = '\x7d' then failNext .trailingComma
        else failNext .keyNotText
    else failNext .noCommaInObject

def closeObject : Reader Unit := do
  match ← peekPastBlanks with
  | none => failNext .endInObject
  | some c =>
    if c = '\x7d' then advance
    else if c = ',' then failNext .trailingComma
    else failNext .trailingText

def colon : Reader Unit := do
  match ← peekPastBlanks with
  | none => failNext .endInObject
  | some c => if c = ':' then advance else failNext .noColon

def key : Reader String := do
  advance
  textBody

def itemStep (item : Reader α) (read : List α) : Reader (Option (List α)) := do
  if ← nextItem read.isEmpty then return some ((← item) :: read) else return none

def listBody (item : Reader α) : Reader (List α) := do
  advance
  let read ← within leaveList (repeatStep (itemStep item) [])
  closeList
  return read.reverse

end CodeGraph.Json.Reader
