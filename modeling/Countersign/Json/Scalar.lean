import Countersign.Json.Number
import Countersign.Json.Text

/-! Readers for values of a known type. -/
namespace Countersign.Json

/-- Reads what stands in the place of the expected: its kind is told, of lists and objects without
reading them. -/
def mismatch (expected : String) (c : Cursor) : Fault :=
  let wrong (found : Found) (c : Cursor) : Fault := c.here (.wrongType found expected)
  let scalar {α : Type} (found : α → Found) : Except Fault (α × Cursor) → Fault
    | .ok (value, c) => wrong (found value) c
    | .error fault => fault
  match c.rest with
  | [] => c.ahead .expectedValue
  | b :: _ =>
    if b == 0x6e then scalar (fun _ => .null) (word nullTail c.next)
    else if b == 0x74 then scalar (fun _ => .bool true) (word trueTail c.next)
    else if b == 0x66 then scalar (fun _ => .bool false) (word falseTail c.next)
    else if b == 0x2d then scalar .number (number true c.next)
    else if isDigit b then scalar .number (number false c)
    else if b == 0x22 then scalar .string (text c.next)
    else if b == 0x5b then wrong .list c
    else if b == 0x7b then wrong .object c
    else c.ahead .expectedValue

/-- Passes over blanks to the first byte of a value. -/
def atValue {α : Type} (read : UInt8 → Reader α) : Reader α := fun c =>
  let c := c.skipBlanks
  match c.rest with
  | [] => .error (c.ahead .endInValue)
  | b :: _ => read b c

def stringOr (expected : String) : Reader String := atValue fun b c =>
  if b == 0x22 then text c.next else .error (mismatch expected c)

def string : Reader String := stringOr "a string"

def bool : Reader Bool := atValue fun b c =>
  if b == 0x74 then (word trueTail c.next).map fun ((), c) => (true, c)
  else if b == 0x66 then (word falseTail c.next).map fun ((), c) => (false, c)
  else .error (mismatch "a boolean" c)

def nothing : Reader Unit := atValue fun b c =>
  if b == 0x6e then word nullTail c.next else .error (mismatch "unit" c)

/-- An integer of 32 bits. -/
def asInt32 (n : Number) (c : Cursor) : Except Fault (Int32 × Cursor) :=
  match n with
  | .int n =>
    if -2147483648 ≤ n && n ≤ 2147483647 then .ok (Int32.ofInt n, c)
    else .error (c.here (.wrongValue (.number (.int n)) "i32"))
  | .real x => .error (c.here (.wrongType (.number (.real x)) "i32"))

def int32 : Reader Int32 := atValue fun b c =>
  if b == 0x2d then do
    let (n, c) ← number true c.next
    asInt32 n c
  else if isDigit b then do
    let (n, c) ← number false c
    asInt32 n c
  else .error (mismatch "i32" c)

/-- What `reader` reads, or null for none. -/
def optional {α : Type} (reader : Reader α) : Reader (Option α) := fun c =>
  let c := c.skipBlanks
  match c.rest with
  | 0x6e :: _ => (word nullTail c.next).map fun ((), c) => (none, c)
  | _ => (reader c).map fun (value, c) => (some value, c)

/-- Whether one more element follows; the cursor stands before it. -/
def element? (first : Bool) (c : Cursor) : Except Fault (Option Cursor) :=
  let c := c.skipBlanks
  match c.rest with
  | [] => .error (c.ahead .endInList)
  | 0x5d :: _ => .ok none
  | 0x2c :: _ =>
    if first then .ok (some c)
    else
      let c := c.next.skipBlanks
      match c.rest with
      | 0x5d :: _ => .error (c.ahead .trailingComma)
      | [] => .error (c.ahead .endInValue)
      | _ => .ok (some c)
  | _ => if first then .ok (some c) else .error (c.ahead .expectedListEnd)

/-- The bracket that ends a list. -/
def listEnd (c : Cursor) : Except Fault Cursor :=
  let c := c.skipBlanks
  match c.rest with
  | 0x5d :: _ => .ok c.next
  | 0x2c :: _ =>
    let c := c.next.skipBlanks
    match c.rest with
    | 0x5d :: _ => .error (c.ahead .trailingComma)
    | _ => .error (c.ahead .trailingText)
  | [] => .error (c.ahead .endInList)
  | _ => .error (c.ahead .trailingText)

/-- Elements up to the bracket; each takes at least one byte. -/
def elements {α : Type} (reader : Reader α) : Nat → Bool → Reader (List α)
  | 0, _, c => .error (c.here .endInList)
  | fuel + 1, first, c => do
    match ← element? first c with
    | none => return ([], ← listEnd c)
    | some c =>
      let (value, c) ← reader c
      let (values, c) ← elements reader fuel false c
      return (value :: values, c)

def list {α : Type} (reader : Reader α) : Reader (List α) := atValue fun b c =>
  if b == 0x5b then elements reader (c.rest.length + 1) true c.next
  else .error (mismatch "a sequence" c)

/-- Whether one more key follows; the cursor stands behind its opening quote. -/
def key? (first : Bool) (c : Cursor) : Except Fault (Option Cursor) :=
  let c := c.skipBlanks
  match c.rest with
  | [] => .error (c.ahead .endInObject)
  | b :: _ =>
    if b == 0x7d then .ok none
    else if first then
      if b == 0x22 then .ok (some c.next) else .error (c.ahead .keyNotString)
    else if b == 0x2c then
      let c := c.next.skipBlanks
      match c.rest with
      | [] => .error (c.ahead .endInValue)
      | b :: _ =>
        if b == 0x22 then .ok (some c.next)
        else if b == 0x7d then .error (c.ahead .trailingComma)
        else .error (c.ahead .keyNotString)
    else .error (c.ahead .expectedObjectEnd)

/-- One name out of a fixed choice; `expected` lists them. -/
def choice {α : Type} (ofName? : String → Option α) (expected : String) : Reader α := fun c => do
  let (name, c) ← stringOr "variant identifier" c
  match ofName? name with
  | some value => return (value, c)
  | none => throw (c.here (.unknownVariant name expected))

/-- The same, also as the only key of an object, with null as its value. -/
def variant {α : Type} (ofName? : String → Option α) (expected : String) : Reader α :=
  atValue fun b c =>
    if b == 0x7b then do
      let (value, c) ← choice ofName? expected c.next
      let c ← colon c
      let ((), c) ← nothing c
      let c := c.skipBlanks
      match c.rest with
      | 0x7d :: _ => return (value, c.next)
      | [] => throw (c.here .endInObject)
      | _ => throw (c.here .expectedValue)
    else if b == 0x22 then choice ofName? expected c
    else .error (c.ahead .expectedValue)

end Countersign.Json
