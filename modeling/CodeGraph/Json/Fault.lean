import CodeGraph.Number.Text
import CodeGraph.Text.Hidden

namespace CodeGraph.Json

/-- A place in a text: lines from one, bytes since the last line break. -/
structure Position where
  line : Nat
  column : Nat

/-- What stood at a place where something else was wanted. -/
inductive Found
  | null
  | bool (value : Bool)
  | whole (value : Int)
  | float (value : Float)
  | text (value : String)
  | list
  | object

def Found.message : Found → String
  | .null => "null"
  | .bool true => "boolean `true`"
  | .bool false => "boolean `false`"
  | .whole i => "integer `" ++ toString i ++ "`"
  | .float x => "floating point `" ++ Number.jsonText x ++ "`"
  | .text s => "string " ++ Text.quoted s
  | .list => "sequence"
  | .object => "map"

inductive Wanted
  | text
  | boolean
  | lineNumber
  | list
  | unit
  | record (name : String)

def Wanted.message : Wanted → String
  | .text => "a string"
  | .boolean => "a boolean"
  | .lineNumber => "u32"
  | .list => "a sequence"
  | .unit => "unit"
  | .record name => "struct " ++ name

inductive Cause
  | endInValue
  | endInList
  | endInObject
  | endInText
  | noValue
  | noWord
  | noColon
  | noCommaInList
  | noCommaInObject
  | keyNotText
  | trailingComma
  | trailingText
  | badNumber
  | numberTooLarge
  | badEscape
  | controlCharacter
  | halfPair
  | loneSurrogate
  | tooDeep
  | wrongType (found : Found) (wanted : Wanted)
  | lineTooLarge (value : Int)
  | repeatedField (name : String)
  | missingField (name : String)
  | tooFewFields (given : Nat) (name : String) (fields : Nat)
  | notAnId

def Cause.message : Cause → String
  | .endInValue => "EOF while parsing a value"
  | .endInList => "EOF while parsing a list"
  | .endInObject => "EOF while parsing an object"
  | .endInText => "EOF while parsing a string"
  | .noValue => "expected value"
  | .noWord => "expected ident"
  | .noColon => "expected `:`"
  | .noCommaInList => "expected `,` or `]`"
  | .noCommaInObject => "expected `,` or `\x7d`"
  | .keyNotText => "key must be a string"
  | .trailingComma => "trailing comma"
  | .trailingText => "trailing characters"
  | .badNumber => "invalid number"
  | .numberTooLarge => "number out of range"
  | .badEscape => "invalid escape"
  | .controlCharacter => "control character (\\u0000-\\u001F) found while parsing a string"
  | .halfPair => "unexpected end of hex escape"
  | .loneSurrogate => "lone leading surrogate in hex escape"
  | .tooDeep => "recursion limit exceeded"
  | .wrongType found wanted =>
    "invalid type: " ++ found.message ++ ", expected " ++ wanted.message
  | .lineTooLarge value =>
    "invalid value: integer `" ++ toString value ++ "`, expected " ++ Wanted.lineNumber.message
  | .repeatedField name => "duplicate field `" ++ name ++ "`"
  | .missingField name => "missing field `" ++ name ++ "`"
  | .tooFewFields given name fields =>
    "invalid length " ++ toString given ++ ", expected struct " ++ name ++ " with " ++
      toString fields ++ " elements"
  | .notAnId => "data did not match any variant of untagged enum Raw"

structure Fault where
  cause : Cause
  position : Position

def Fault.message (f : Fault) : String :=
  f.cause.message ++ " at line " ++ toString f.position.line ++ " column " ++
    toString f.position.column

end CodeGraph.Json
