import Countersign.Decimal.Shortest
import Countersign.Text.Number
import Countersign.Text.Quoted
import Countersign.Text.Utf8

/-! Why a JSON text cannot be read, and where. -/
namespace Countersign.Json

/-- A number as JSON texts hold it: an integer of 64 bits of either kind, or else a real one. -/
inductive Number where
  | int (n : Int)
  | real (x : Binary64)
deriving DecidableEq, Repr

/-- What stands where something else was expected. -/
inductive Found where
  | null
  | bool (b : Bool)
  | number (n : Number)
  | string (s : String)
  | list
  | object
deriving DecidableEq, Repr

def Found.describe : Found → String
  | .null => "null"
  | .bool b => s!"boolean `{b}`"
  | .number (.int n) =>
    let text := Text.ofInt n
    s!"integer `{text}`"
  | .number (.real x) =>
    let text := x.text
    s!"floating point `{text}`"
  | .string s =>
    let text := Text.quoted s
    s!"string {text}"
  | .list => "sequence"
  | .object => "map"

inductive Cause where
  | endInList
  | endInObject
  | endInString
  | endInValue
  | expectedColon
  | expectedListEnd
  | expectedObjectEnd
  | expectedWord
  | expectedValue
  | badEscape
  | badNumber
  | numberTooLarge
  | badUnicode
  | controlInString
  | keyNotString
  | loneSurrogate
  | endOfEscape
  | trailingComma
  | trailingText
  | tooDeep
  | missingField (name : String)
  | duplicateField (name : String)
  | wrongType (found : Found) (expected : String)
  | wrongValue (found : Found) (expected : String)
  | wrongLength (length : Nat) (expected : String)
  | unknownVariant (name expected : String)
deriving DecidableEq, Repr

def Cause.message : Cause → String
  | .endInList => "EOF while parsing a list"
  | .endInObject => "EOF while parsing an object"
  | .endInString => "EOF while parsing a string"
  | .endInValue => "EOF while parsing a value"
  | .expectedColon => "expected `:`"
  | .expectedListEnd => "expected `,` or `]`"
  | .expectedObjectEnd => "expected `,` or `\x7d`"
  | .expectedWord => "expected ident"
  | .expectedValue => "expected value"
  | .badEscape => "invalid escape"
  | .badNumber => "invalid number"
  | .numberTooLarge => "number out of range"
  | .badUnicode => "invalid unicode code point"
  | .controlInString => "control character (\\u0000-\\u001F) found while parsing a string"
  | .keyNotString => "key must be a string"
  | .loneSurrogate => "lone leading surrogate in hex escape"
  | .endOfEscape => "unexpected end of hex escape"
  | .trailingComma => "trailing comma"
  | .trailingText => "trailing characters"
  | .tooDeep => "recursion limit exceeded"
  | .missingField name => s!"missing field `{name}`"
  | .duplicateField name => s!"duplicate field `{name}`"
  | .wrongType found expected =>
    let shown := found.describe
    s!"invalid type: {shown}, expected {expected}"
  | .wrongValue found expected =>
    let shown := found.describe
    s!"invalid value: {shown}, expected {expected}"
  | .wrongLength length expected => s!"invalid length {length}, expected {expected}"
  | .unknownVariant name expected => s!"unknown variant `{name}`, expected {expected}"

/-- A cause at a place: how many bytes of the text had been read. -/
structure Fault where
  cause : Cause
  offset : Nat
deriving DecidableEq, Repr

/-- Line and column of a place: lines count from one, columns count bytes since the line began. -/
def position (text : Bytes) (offset : Nat) : Nat × Nat :=
  (text.take offset).foldl
    (fun (p : Nat × Nat) (b : UInt8) => if b == 0x0a then (p.1 + 1, 0) else (p.1, p.2 + 1)) (1, 0)

/-- The message for a fault in the given text. -/
def Fault.message (text : Bytes) (fault : Fault) : String :=
  let (line, column) := position text fault.offset
  let cause := fault.cause.message
  s!"{cause} at line {line} column {column}"

end Countersign.Json
