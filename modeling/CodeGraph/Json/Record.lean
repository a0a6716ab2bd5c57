import CodeGraph.Json.Value

namespace CodeGraph.Json.Reader

variable {α σ : Type}

def optional (r : Reader α) : Reader (Option α) := do
  match ← peekPastBlanks with
  | some 'n' => do
    advance
    word ['u', 'l', 'l']
    return none
  | _ => return some (← r)

def text : Reader String := do
  match ← peekPastBlanks with
  | none => failNext .endInValue
  | some c =>
    if c = '"' then do
      advance
      textBody
    else wrongType .text

def boolean : Reader Bool := do
  match ← peekPastBlanks with
  | none => failNext .endInValue
  | some c =>
    if c = 't' then do
      advance
      word ['r', 'u', 'e']
      return true
    else if c = 'f' then do
      advance
      word ['a', 'l', 's', 'e']
      return false
    else wrongType .boolean

def lineNumber : Reader Nat := do
  match ← peekPastBlanks with
  | none => failNext .endInValue
  | some c =>
    if c = '-' || isDigit c then do
      if c = '-' then advance
      match ← number (c == '-') with
      | .whole i => if 0 ≤ i && i < 0x100000000 then return i.toNat else failHere (.lineTooLarge i)
      | .float x => failHere (.wrongType (.float x) .lineNumber)
    else wrongType .lineNumber

def null : Reader Unit := do
  match ← peekPastBlanks with
  | none => failNext .endInValue
  | some c =>
    if c = 'n' then do
      advance
      word ['u', 'l', 'l']
    else wrongType .unit

def nested (depth : Nat) (inside : Nat → Reader α) : Reader α :=
  match depth with
  | 0 => failNext .tooDeep
  | d + 1 => inside d

def list (item : Nat → Reader α) (depth : Nat) : Reader (List α) := do
  match ← peekPastBlanks with
  | none => failNext .endInValue
  | some c => if c = '[' then nested depth fun d => listBody (item d) else wrongType .list

/-- A field of a record `σ`, and how its value is read into the record. -/
structure Field (σ : Type) where
  name : String
  required : Bool
  read : Nat → σ → Reader σ

structure Shape (σ : Type) where
  name : String
  fields : List (Field σ)

namespace Shape

def field? (shape : Shape σ) (name : String) : Option (Field σ) :=
  shape.fields.find? fun f => f.name == name

/-- A record read in part: whether a key was seen, the names of the fields set, and the record. -/
structure Draft (σ : Type) where
  started : Bool
  seen : List String
  record : σ

def keyStep (shape : Shape σ) (depth : Nat) (draft : Draft σ) : Reader (Option (Draft σ)) := do
  if ← nextKey (!draft.started) then
    let k ← key
    match shape.field? k with
    | none =>
      colon
      skip
      return some { draft with started := true }
    | some f =>
      if draft.seen.contains f.name then failFloating (.repeatedField f.name)
      else
        colon
        let r ← f.read depth draft.record
        return some ⟨true, f.name :: draft.seen, r⟩
  else return none

def ofMembers (shape : Shape σ) (blank : σ) (depth : Nat) : Reader σ := do
  let draft ← repeatStep (keyStep shape depth) ⟨false, [], blank⟩
  match shape.fields.find? fun f => f.required && !draft.seen.contains f.name with
  | some f => failFloating (.missingField f.name)
  | none => return draft.record

/-- The fields from the `count`th on, taken from the items of a list as far as there are any. -/
def ofItems (shape : Shape σ) (depth : Nat) : Nat → List (Field σ) → σ → Reader σ
  | _, [], r => pure r
  | count, f :: fields, r => do
    if ← nextItem (count == 0) then ofItems shape depth (count + 1) fields (← f.read depth r)
    else if f.required then
      failFloating (.tooFewFields count shape.name shape.fields.length)
    else ofItems shape depth count fields r

/-- A record: from an object with its fields in any order, beside keys that are skipped, or from a
list with its fields in the order of their declaration. -/
def read (shape : Shape σ) (blank : σ) (depth : Nat) : Reader σ := do
  match ← peekPastBlanks with
  | none => failNext .endInValue
  | some c =>
    if c = '[' then
      nested depth fun d => do
        advance
        let r ← within leaveList (ofItems shape d 0 shape.fields blank)
        closeList
        return r
    else if c = '\x7b' then
      nested depth fun d => do
        advance
        let r ← within leaveObject (ofMembers shape blank d)
        closeObject
        return r
    else wrongType (.record shape.name)

end Shape

end CodeGraph.Json.Reader
