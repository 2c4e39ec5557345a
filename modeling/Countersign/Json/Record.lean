import Countersign.Json.Scalar
import Countersign.Json.Skip

/-! Readers for records: objects with known fields, or lists of the values in the order of the
fields. Unknown fields are passed over. -/
namespace Countersign.Json

/-- A field that takes its value into a record of type `α`. -/
structure Field (α : Type) where
  name : String
  required : Bool
  read : α → Reader α

/-- `set` puts a value into the record. -/
def Field.of {α β : Type} (name : String) (required : Bool) (reader : Reader β)
    (set : β → α → α) : Field α where
  name
  required
  read record c := (reader c).map fun (value, c) => (set value record, c)

/-- `blank` holds what absent fields count as. -/
structure Record (α : Type) where
  title : String
  blank : α
  fields : List (Field α)

namespace Record

variable {α : Type} (r : Record α)

/-- What the record should have been, for a list that is too short. -/
def shape : String :=
  let count := r.fields.length
  let noun := if count = 1 then "element" else "elements"
  "struct " ++ r.title ++ s!" with {count} {noun}"

/-- Behind blanks and a closing brace, if there is one. -/
def pastBrace (c : Cursor) : Cursor :=
  let c := c.skipBlanks
  match c.rest with
  | 0x7d :: _ => c.next
  | _ => c

/-- Behind blanks and a closing bracket, or behind a comma and blanks, if there is either. -/
def pastBracket (c : Cursor) : Cursor :=
  let c := c.skipBlanks
  match c.rest with
  | 0x5d :: _ => c.next
  | 0x2c :: _ => c.next.skipBlanks
  | _ => c

/-- The first field that has to be there and is not. -/
def missing? (seen : List String) : Option String :=
  (r.fields.find? fun f => f.required && !seen.contains f.name).map Field.name

/-- The value of a key, and the names seen so far. A field that comes twice is a fault as soon as
its name is read. -/
def readEntry (name : String) (seen : List String) (record : α) (c : Cursor) :
    Except Fault (List String × α × Cursor) :=
  match r.fields.find? (·.name == name) with
  | some field =>
    if seen.contains name then .error ((pastBrace c).here (.duplicateField name))
    else do
      let c ← colon c
      let (record, c) ← field.read record c
      return (name :: seen, record, c)
  | none => do
    let c ← colon c
    let c ← skipValue c
    return (seen, record, c)

/-- Entries up to the brace; each takes at least one byte. -/
def readEntries : Nat → Bool → List String → α → Reader α
  | 0, _, _, _, c => .error (c.here .endInObject)
  | fuel + 1, first, seen, record, c => do
    match ← key? first c with
    | none =>
      match r.missing? seen with
      | some name => throw ((pastBrace c).here (.missingField name))
      | none => return (record, pastBrace c)
    | some c =>
      let (name, c) ← text c
      let (seen, record, c) ← r.readEntry name seen record c
      readEntries fuel false seen record c

/-- Values in the order of the fields; `index` of them have been read. -/
def readValues (index : Nat) : List (Field α) → α → Reader α
  | [], record, c => return (record, ← listEnd c)
  | field :: rest, record, c => do
    match ← element? (index == 0) c with
    | none =>
      if (field :: rest).any (·.required) then
        let absent := (field :: rest).takeWhile (!·.required)
        throw ((pastBracket c).here (.wrongLength (index + absent.length) r.shape))
      else return (record, ← listEnd c)
    | some c =>
      let (record, c) ← field.read record c
      readValues (index + 1) rest record c

def reader : Reader α := atValue fun b c =>
  if b == 0x7b then r.readEntries (c.rest.length + 1) true [] r.blank c.next
  else if b == 0x5b then r.readValues 0 r.fields r.blank c.next
  else .error (mismatch ("struct " ++ r.title) c)

end Record

end Countersign.Json
