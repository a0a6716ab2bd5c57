import CodeGraph.Json.Bracket
import CodeGraph.Json.Number

namespace CodeGraph.Json.Reader

variable {α : Type}

def memberStep (value : Reader Json) (state : Bool × List (String × Json)) :
    Reader (Option (Bool × List (String × Json))) := do
  if ← nextKey state.1 then
    let k ← key
    colon
    let v ← value
    return some (false, insertMember k v state.2)
  else return none

/-- An object, from its opening bracket on. The last of several equal keys counts. -/
def objectBody (value : Reader Json) : Reader (List (String × Json)) := do
  advance
  let state ← within leaveObject (repeatStep (memberStep value) (true, []))
  closeObject
  return state.2

/-- A value, whose lists and objects are read by the two readers given. -/
def valueWith (list object : Reader Json) : Reader Json := do
  match ← peekPastBlanks with
  | none => failNext .endInValue
  | some c =>
    if c = 'n' then do
      advance
      word ['u', 'l', 'l']
      return .null
    else if c = 't' then do
      advance
      word ['r', 'u', 'e']
      return .bool true
    else if c = 'f' then do
      advance
      word ['a', 'l', 's', 'e']
      return .bool false
    else if c = '-' then do
      advance
      return .number (← number true)
    else if isDigit c then return .number (← number false)
    else if c = '"' then do
      advance
      return .text (← textBody)
    else if c = '[' then list
    else if c = '\x7b' then object
    else failNext .noValue

def value : Nat → Reader Json
  | 0 => valueWith (failNext .tooDeep) (failNext .tooDeep)
  | depth + 1 =>
    valueWith (return .list (← listBody (value depth)))
      (return .object (← objectBody (value depth)))

/-- Reads the value at the cursor and reports it as not what was wanted. The fault lies behind the
value, or before an opening bracket. -/
def wrongType (wanted : Wanted) : Reader α := do
  match ← valueWith (failHere (.wrongType .list wanted)) (failHere (.wrongType .object wanted)) with
  | .null => failHere (.wrongType .null wanted)
  | .bool b => failHere (.wrongType (.bool b) wanted)
  | .number (.whole i) => failHere (.wrongType (.whole i) wanted)
  | .number (.float x) => failHere (.wrongType (.float x) wanted)
  | .text s => failHere (.wrongType (.text s) wanted)
  | .list _ => failHere (.wrongType .list wanted)
  | .object _ => failHere (.wrongType .object wanted)

def skipSeparator (close : Char) (ended unseparated : Cause) : Reader Bool := do
  match ← peekPastBlanks with
  | none => failNext ended
  | some c =>
    if c = ',' then do
      advance
      return true
    else if c = close then do
      advance
      return false
    else failNext unseparated

def skipKey : Reader Unit := do
  match ← peekPastBlanks with
  | none => failNext .endInObject
  | some c =>
    if c = '"' then do
      advance
      skipTextBody
      colon
    else failNext .keyNotText

def skipElements (close : Char) (ended unseparated : Cause) (element : Reader Unit) :
    Reader Unit := do
  advance
  match ← peekPastBlanks with
  | none => failNext ended
  | some c =>
    if c = close then advance
    else
      repeatStep (fun _ => do
        element
        if ← skipSeparator close ended unseparated then return some () else return none) ()

/-- Moves over a value. The text itself bounds its nesting: where no character of `fuel` is left,
nothing is left to read. -/
def skipValue : List Char → Reader Unit
  | [] => failNext .endInValue
  | _ :: fuel => do
    match ← peekPastBlanks with
    | none => failNext .endInValue
    | some c =>
      if c = 'n' then do
        advance
        word ['u', 'l', 'l']
      else if c = 't' then do
        advance
        word ['r', 'u', 'e']
      else if c = 'f' then do
        advance
        word ['a', 'l', 's', 'e']
      else if c = '-' then do
        advance
        skipNumber
      else if isDigit c then skipNumber
      else if c = '"' then do
        advance
        skipTextBody
      else if c = '[' then skipElements ']' .endInList .noCommaInList (skipValue fuel)
      else if c = '\x7b' then
        skipElements '\x7d' .endInObject .noCommaInObject (do skipKey; skipValue fuel)
      else failNext .noValue

def skip : Reader Unit := fun c => skipValue c.rest c

end CodeGraph.Json.Reader
