import Countersign.Json.Scalar

/-! Free JSON values, their two printed forms, and reading them. -/
namespace Countersign.Json

/-- An object has its fields in the order in which they are printed. -/
inductive Value where
  | null
  | bool (b : Bool)
  | number (n : Number)
  | string (s : String)
  | list (items : List Value)
  | object (fields : List (String × Value))

def Number.write : Number → List Char
  | .int n => (Text.ofInt n).toList
  | .real x => x.text.toList

namespace Value

instance : Inhabited Value := ⟨.null⟩

def int (n : Int) : Value := .number (.int n)

/-- The field of an object; `none` for a field that is not there and for other values. -/
def field? (name : String) : Value → Option Value
  | .object fields => fields.lookup name
  | _ => none

def asString? : Value → Option String
  | .string s => some s
  | _ => none

/-! ### Printing -/

def writeBool (b : Bool) : List Char := (if b then "true" else "false").toList

mutual

/-- Without any blanks. -/
def write : Value → List Char
  | .null => "null".toList
  | .bool b => writeBool b
  | .number n => n.write
  | .string s => writeText s
  | .list items => '[' :: writeItems items ++ [']']
  | .object fields => '{' :: writeFields fields ++ ['}']

def writeItems : List Value → List Char
  | [] => []
  | [v] => v.write
  | v :: rest => v.write ++ ',' :: writeItems rest

def writeFields : List (String × Value) → List Char
  | [] => []
  | [(name, v)] => writeText name ++ ':' :: v.write
  | (name, v) :: rest => writeText name ++ ':' :: v.write ++ ',' :: writeFields rest

end

def compact (v : Value) : String := String.ofList v.write

def newline (depth : Nat) : List Char := '\n' :: List.replicate (2 * depth) ' '

mutual

/-- Each item on its own line, two blanks deeper than what it stands in. -/
def writeAt (depth : Nat) : Value → List Char
  | .null => "null".toList
  | .bool b => writeBool b
  | .number n => n.write
  | .string s => writeText s
  | .list [] => ['[', ']']
  | .list items => '[' :: writeItemsAt (depth + 1) items ++ newline depth ++ [']']
  | .object [] => ['{', '}']
  | .object fields => '{' :: writeFieldsAt (depth + 1) fields ++ newline depth ++ ['}']

def writeItemsAt (depth : Nat) : List Value → List Char
  | [] => []
  | [v] => newline depth ++ v.writeAt depth
  | v :: rest => newline depth ++ v.writeAt depth ++ ',' :: writeItemsAt depth rest

def writeFieldsAt (depth : Nat) : List (String × Value) → List Char
  | [] => []
  | [(name, v)] => newline depth ++ writeText name ++ ':' :: ' ' :: v.writeAt depth
  | (name, v) :: rest =>
    newline depth ++ writeText name ++ ':' :: ' ' :: v.writeAt depth ++
      ',' :: writeFieldsAt depth rest

end

def pretty (v : Value) : String := String.ofList (v.writeAt 0)

/-! ### Reading -/

/-- Keeps names sorted; a name that is there gets the new value. -/
def insertField (name : String) (v : Value) : List (String × Value) → List (String × Value)
  | [] => [(name, v)]
  | (other, old) :: rest =>
    if name < other then (name, v) :: (other, old) :: rest
    else if name = other then (name, v) :: rest
    else (other, old) :: insertField name v rest

/-- Lists and objects may stand this deep in one another. -/
def maxDepth : Nat := 127

mutual

/-- `depth` more lists and objects may be opened. -/
def readAt (fuel depth : Nat) : Reader Value := atValue fun b c =>
  match fuel with
  | 0 => .error (c.here .endInValue)
  | fuel + 1 =>
    if b == 0x6e then (word nullTail c.next).map fun ((), c) => (.null, c)
    else if b == 0x74 then (word trueTail c.next).map fun ((), c) => (.bool true, c)
    else if b == 0x66 then (word falseTail c.next).map fun ((), c) => (.bool false, c)
    else if b == 0x2d then (Json.number true c.next).map fun (n, c) => (.number n, c)
    else if isDigit b then (Json.number false c).map fun (n, c) => (.number n, c)
    else if b == 0x22 then (text c.next).map fun (s, c) => (.string s, c)
    else if b == 0x5b then
      match depth with
      | 0 => .error (c.ahead .tooDeep)
      | depth + 1 => (readItems fuel depth true c.next).map fun (items, c) => (.list items, c)
    else if b == 0x7b then
      match depth with
      | 0 => .error (c.ahead .tooDeep)
      | depth + 1 => (readFields fuel depth true [] c.next).map fun (fields, c) => (.object fields, c)
    else .error (c.ahead .expectedValue)

def readItems (fuel depth : Nat) (first : Bool) : Reader (List Value) := fun c => do
  match fuel with
  | 0 => throw (c.here .endInList)
  | fuel + 1 =>
    match ← element? first c with
    | none => return ([], ← listEnd c)
    | some c =>
      let (v, c) ← readAt fuel depth c
      let (items, c) ← readItems fuel depth false c
      return (v :: items, c)

def readFields (fuel depth : Nat) (first : Bool) (fields : List (String × Value)) :
    Reader (List (String × Value)) := fun c => do
  match fuel with
  | 0 => throw (c.here .endInObject)
  | fuel + 1 =>
    match ← key? first c with
    | none => return (fields, c.skipBlanks.next)
    | some c =>
      let (name, c) ← text c
      let c ← colon c
      let (v, c) ← readAt fuel depth c
      readFields fuel depth false (insertField name v fields) c

end

/-- A value takes at most one step a byte and one to begin with. -/
def reader : Reader Value := fun c => readAt (2 * c.rest.length + 2) maxDepth c

def ofBytes (bytes : Bytes) : Except Fault Value := whole reader bytes

end Value

end Countersign.Json
