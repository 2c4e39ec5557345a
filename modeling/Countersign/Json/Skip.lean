import Countersign.Bytes.Hex
import Countersign.Json.Number

/-! Values that nobody asks for: they have to be JSON, but numbers may have any size, strings need
not be UTF-8, and nesting has no bound. -/
namespace Countersign.Json

/-- Passes over digits, of which there has to be one. -/
def skipSomeDigits (c : Cursor) (fault : Fault) : Except Fault Cursor :=
  match c.rest with
  | b :: _ => if isDigit b then .ok c.skipDigits else .error fault
  | [] => .error fault

/-- Behind the letter of an exponent. -/
def skipExponent (c : Cursor) : Except Fault Cursor :=
  let c := match c.rest with
    | b :: _ => if b == 0x2b || b == 0x2d then c.next else c
    | [] => c
  skipSomeDigits c (c.ahead .badNumber)

def skipExponentIfAny (c : Cursor) : Except Fault Cursor :=
  match c.rest with
  | b :: _ => if isExponentMark b then skipExponent c.next else .ok c
  | [] => .ok c

def skipFractionIfAny (c : Cursor) : Except Fault Cursor :=
  match c.rest with
  | 0x2e :: _ => do
    let c ← skipSomeDigits c.next (c.next.ahead .badNumber)
    skipExponentIfAny c
  | _ => skipExponentIfAny c

/-- A number behind its sign. -/
def skipNumber (c : Cursor) : Except Fault Cursor :=
  match c.rest with
  | 0x30 :: b :: _ => if isDigit b then .error (c.next.ahead .badNumber) else skipFractionIfAny c.next
  | _ => do
    let c ← skipSomeDigits c (c.ahead .badNumber)
    skipFractionIfAny c

/-- A string behind its opening quote; `offset` is that of the first byte given. -/
def skipTextFrom (offset : Nat) : Bytes → Except Fault Cursor
  | [] => .error ⟨.endInString, offset⟩
  | b :: rest =>
    if b == 0x22 then .ok ⟨offset + 1, rest⟩
    else if b == 0x5c then
      match rest with
      | [] => .error ⟨.endInString, offset + 1⟩
      | e :: rest =>
        if e == 0x75 then
          match rest with
          | h1 :: h2 :: h3 :: h4 :: rest =>
            if [h1, h2, h3, h4].all fun h => (Hex.value? h).isSome then skipTextFrom (offset + 6) rest
            else .error ⟨.badEscape, offset + 6⟩
          | short => .error ⟨.endInString, offset + 2 + short.length⟩
        else if [0x22, 0x5c, 0x2f, 0x62, 0x66, 0x6e, 0x72, 0x74].contains e then
          skipTextFrom (offset + 2) rest
        else .error ⟨.badEscape, offset + 2⟩
    else if b < 0x20 then .error ⟨.controlInString, offset⟩
    else skipTextFrom (offset + 1) rest

def skipText (c : Cursor) : Except Fault Cursor := skipTextFrom c.offset c.rest

/-- What a value stands in. -/
inductive Frame where
  | list
  | object
deriving DecidableEq, Repr

namespace Frame

def close : Frame → UInt8
  | .list => 0x5d
  | .object => 0x7d

def endCause : Frame → Cause
  | .list => .endInList
  | .object => .endInObject

def separatorCause : Frame → Cause
  | .list => .expectedListEnd
  | .object => .expectedObjectEnd

end Frame

/-- Up to where the value of an item begins: in an object, behind its key. -/
def skipKey (frame : Frame) (c : Cursor) : Except Fault Cursor :=
  match frame with
  | .list => .ok c
  | .object =>
    let c := c.skipBlanks
    match c.rest with
    | 0x22 :: _ => do
      let c ← skipText c.next
      colon c
    | [] => .error (c.ahead .endInObject)
    | _ => .error (c.ahead .keyNotString)

/-- A value that is neither list nor object and begins with `b`. -/
def skipScalar (b : UInt8) (c : Cursor) : Except Fault Cursor :=
  if b == 0x6e then (word nullTail c.next).map (·.2)
  else if b == 0x74 then (word trueTail c.next).map (·.2)
  else if b == 0x66 then (word falseTail c.next).map (·.2)
  else if b == 0x2d then skipNumber c.next
  else if isDigit b then skipNumber c
  else if b == 0x22 then skipText c.next
  else .error (c.ahead .expectedValue)

/-- Where a scan stands: before a value, behind an opening bracket, or behind a value. -/
inductive Stage where
  | value
  | opened
  | closed
deriving DecidableEq, Repr

/-- `frames` are those around, innermost first. -/
def skipFrom : Nat → Stage → List Frame → Cursor → Except Fault Cursor
  | 0, _, _, c => .error (c.here .endInValue)
  | fuel + 1, .value, frames, c =>
    let c := c.skipBlanks
    match c.rest with
    | [] => .error (c.ahead .endInValue)
    | b :: _ =>
      if b == 0x5b then skipFrom fuel .opened (.list :: frames) c.next
      else if b == 0x7b then skipFrom fuel .opened (.object :: frames) c.next
      else do
        let c ← skipScalar b c
        skipFrom fuel .closed frames c
  | _, _, [], c => .ok c
  | fuel + 1, stage, frame :: frames, c =>
    let c := c.skipBlanks
    match c.rest with
    | [] => .error (c.ahead frame.endCause)
    | b :: _ =>
      if b == frame.close then skipFrom fuel .closed frames c.next
      else do
        let c ← if stage == .opened then pure c
          else if b == 0x2c then pure c.next
          else throw (c.ahead frame.separatorCause)
        let c ← skipKey frame c
        skipFrom fuel .value (frame :: frames) c

/-- Passes over one value. Between two bytes there are at most two steps. -/
def skipValue (c : Cursor) : Except Fault Cursor :=
  skipFrom (2 * c.rest.length + 2) .value [] c

end Countersign.Json
