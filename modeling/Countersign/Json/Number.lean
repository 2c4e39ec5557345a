import Countersign.Json.Cursor

/-! Numbers in JSON texts. Integers of up to 64 bits are exact. Anything else becomes a real number
by one product or quotient of rounded numbers, and so may miss the nearest one by a little. -/
namespace Countersign.Json

def isDigit (b : UInt8) : Bool := 0x30 ≤ b && b ≤ 0x39

def wordLimit : Nat := Nat.pow 2 64

def exponentLimit : Nat := Nat.pow 2 31

/-- Takes digits into `n` as long as it stays below the limit; says how many went in. -/
def takeDigits (limit n count : Nat) : Bytes → Nat × Nat × Bytes
  | [] => (n, count, [])
  | b :: rest =>
    if isDigit b && 10 * n + (b.toNat - 0x30) < limit then
      takeDigits limit (10 * n + (b.toNat - 0x30)) (count + 1) rest
    else (n, count, b :: rest)

def Cursor.skipDigits (c : Cursor) : Cursor :=
  let digits := c.rest.takeWhile isDigit
  ⟨c.offset + digits.length, c.rest.drop digits.length⟩

/-- Powers of ten up to this one are numbers of 64 bits. -/
def greatestPower : Nat := 308

def tenTo (e : Nat) : Binary64 := (Binary64.ofNat false (Nat.pow 10 e)).getD (Binary64.zero false)

/-- Divides by the greatest power of ten until the rest of the exponent is in reach. -/
def shrink : Nat → Binary64 → Nat → Binary64
  | 0, x, _ => x
  | more + 1, x, e =>
    if x.significand = 0 then x
    else if e ≤ greatestPower then (x.dividedBy (tenTo e)).getD x
    else shrink more ((x.dividedBy (tenTo greatestPower)).getD x) (e - greatestPower)

/-- `digits * 10 ^ e`, unless that is too large. -/
def real? (negative : Bool) (digits : Nat) (e : Int) : Option Binary64 := do
  let x ← Binary64.ofNat negative digits
  if e < 0 then return shrink 16 x e.natAbs
  if e.toNat ≤ greatestPower then x.times (tenTo e.toNat)
  else if x.significand = 0 then return x
  else none

def real (negative : Bool) (digits : Nat) (e : Int) (c : Cursor) : Except Fault (Binary64 × Cursor) :=
  match real? negative digits e with
  | some x => .ok (x, c)
  | none => .error (c.here .numberTooLarge)

/-- Behind the letter of an exponent; `e` is the exponent so far. -/
def exponentPart (negative : Bool) (digits : Nat) (e : Int) (c : Cursor) :
    Except Fault (Binary64 × Cursor) :=
  let (down, c) := match c.rest with
    | 0x2b :: _ => (false, c.next)
    | 0x2d :: _ => (true, c.next)
    | _ => (false, c)
  match c.rest with
  | [] => .error (c.here .endInValue)
  | b :: _ =>
    if !isDigit b then .error (c.next.here .badNumber)
    else
      let (n, count, rest) := takeDigits exponentLimit 0 0 c.rest
      let c : Cursor := ⟨c.offset + count, rest⟩
      match rest with
      | b :: _ =>
        if isDigit b then
          if digits ≠ 0 && !down then .error (c.next.here .numberTooLarge)
          else .ok (Binary64.zero negative, c.skipDigits)
        else real negative digits (if down then e - n else e + n) c
      | [] => real negative digits (if down then e - n else e + n) c

def isExponentMark (b : UInt8) : Bool := b == 0x65 || b == 0x45

/-- Behind the point. Digits that find no more room are passed over. -/
def fractionPart (negative : Bool) (digits : Nat) (e : Int) (c : Cursor) :
    Except Fault (Binary64 × Cursor) :=
  let (digits, count, rest) := takeDigits wordLimit digits 0 c.rest
  let behind : Cursor := ⟨c.offset + count, rest⟩
  let e := e - count
  match rest with
  | [] => if count = 0 then .error (behind.here .endInValue) else real negative digits e behind
  | b :: _ =>
    if isDigit b then
      let c := behind.skipDigits
      match c.rest with
      | b :: _ => if isExponentMark b then exponentPart negative digits e c.next
        else real negative digits e c
      | [] => real negative digits e c
    else if count = 0 then .error (behind.ahead .badNumber)
    else if isExponentMark b then exponentPart negative digits e behind.next
    else real negative digits e behind

/-- A whole number of 64 bits, or a real one where none fits. Zero keeps its sign only as a real. -/
def integer (negative : Bool) (digits : Nat) : Number :=
  if !negative then .int digits
  else if digits = 0 then .real (Binary64.zero true)
  else if digits ≤ Nat.pow 2 63 then .int (-digits)
  else .real ((Binary64.ofNat true digits).getD (Binary64.zero true))

/-- Behind the digits of the integer part, of which `dropped` found no room. -/
def afterInteger (negative : Bool) (digits dropped : Nat) (c : Cursor) :
    Except Fault (Number × Cursor) :=
  let plain : Except Fault (Number × Cursor) :=
    if dropped = 0 then .ok (integer negative digits, c)
    else (real negative digits dropped c).map fun (x, c) => (.real x, c)
  match c.rest with
  | [] => plain
  | b :: _ =>
    if b == 0x2e then (fractionPart negative digits dropped c.next).map fun (x, c) => (.real x, c)
    else if isExponentMark b then
      (exponentPart negative digits dropped c.next).map fun (x, c) => (.real x, c)
    else plain

/-- A number behind its sign. A leading zero stands alone. -/
def number (negative : Bool) : Reader Number := fun c =>
  match c.rest with
  | [] => .error (c.here .endInValue)
  | 0x30 :: rest =>
    match rest with
    | b :: _ => if isDigit b then .error (c.next.ahead .badNumber) else afterInteger negative 0 0 c.next
    | [] => afterInteger negative 0 0 c.next
  | b :: _ =>
    if !isDigit b then .error (c.next.here .badNumber)
    else
      let (digits, count, rest) := takeDigits wordLimit 0 0 c.rest
      let behind : Cursor := ⟨c.offset + count, rest⟩
      let all := behind.skipDigits
      afterInteger negative digits (all.offset - behind.offset) all

end Countersign.Json
