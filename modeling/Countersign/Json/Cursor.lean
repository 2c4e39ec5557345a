import Countersign.Json.Fault

/-! A place in a JSON text, and the readers that move it. -/
namespace Countersign.Json

/-- How many bytes have been read, and the bytes still to be read. -/
structure Cursor where
  offset : Nat
  rest : Bytes
deriving DecidableEq, Repr

abbrev Reader (α : Type) := Cursor → Except Fault (α × Cursor)

namespace Cursor

def start (text : Bytes) : Cursor := ⟨0, text⟩

/-- A fault at this place. -/
def here (c : Cursor) (cause : Cause) : Fault := ⟨cause, c.offset⟩

/-- A fault at the next byte, which counts as looked at. -/
def ahead (c : Cursor) (cause : Cause) : Fault := ⟨cause, c.offset + min 1 c.rest.length⟩

def isBlank (b : UInt8) : Bool := b == 0x20 || b == 0x0a || b == 0x09 || b == 0x0d

/-- Passes over blanks. -/
def skipBlanks (c : Cursor) : Cursor := go c.offset c.rest
where
  go (offset : Nat) : Bytes → Cursor
    | [] => ⟨offset, []⟩
    | b :: rest => if isBlank b then go (offset + 1) rest else ⟨offset, b :: rest⟩

/-- Passes over the first byte. -/
def next (c : Cursor) : Cursor :=
  match c.rest with
  | [] => c
  | _ :: rest => ⟨c.offset + 1, rest⟩

end Cursor

/-- The bytes of a word, one by one. -/
def word : List UInt8 → Reader Unit
  | [], c => .ok ((), c)
  | expected :: more, c =>
    match c.rest with
    | [] => .error (c.here .endInValue)
    | b :: _ =>
      if b == expected then word more c.next else .error (c.next.here .expectedWord)

def nullTail : List UInt8 := [0x75, 0x6c, 0x6c]
def trueTail : List UInt8 := [0x72, 0x75, 0x65]
def falseTail : List UInt8 := [0x61, 0x6c, 0x73, 0x65]

/-- The colon behind a key. -/
def colon (c : Cursor) : Except Fault Cursor :=
  let c := c.skipBlanks
  match c.rest with
  | 0x3a :: _ => .ok c.next
  | [] => .error (c.ahead .endInObject)
  | _ => .error (c.ahead .expectedColon)

/-- Nothing but blanks may follow a whole text. -/
def ending (c : Cursor) : Except Fault Unit :=
  let c := c.skipBlanks
  if c.rest.isEmpty then .ok () else .error (c.ahead .trailingText)

/-- Reads a whole text. -/
def whole {α : Type} (reader : Reader α) (text : Bytes) : Except Fault α := do
  let (value, c) ← reader (Cursor.start text)
  ending c
  return value

end Countersign.Json
