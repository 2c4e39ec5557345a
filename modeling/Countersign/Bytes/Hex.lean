import Countersign.Text.Quoted
import Countersign.Text.Utf8

/-! Bytes as hexadecimal digits, two a byte, the high half first. -/
namespace Countersign.Hex

/-- Why a text is not hexadecimal. A position counts the bytes of the text. -/
inductive Fault where
  | oddLength
  | badDigit (byte : UInt8) (position : Nat)
deriving DecidableEq, Repr

def Fault.message : Fault → String
  | .oddLength => "Odd number of digits"
  | .badDigit byte position =>
    let shown := Text.quotedChar (Char.ofNat byte.toNat)
    s!"Invalid character {shown} at position {position}"

def digit (n : Nat) : Char := Char.ofNat (if n < 10 then 0x30 + n else 0x57 + n)

/-- Digits of either case. -/
def value? (b : UInt8) : Option Nat :=
  if 0x30 ≤ b && b ≤ 0x39 then some (b.toNat - 0x30)
  else if 0x41 ≤ b && b ≤ 0x46 then some (b.toNat - 0x37)
  else if 0x61 ≤ b && b ≤ 0x66 then some (b.toNat - 0x57)
  else none

def encodeByte (b : UInt8) : List Char := [digit (b.toNat / 16), digit (b.toNat % 16)]

/-- In lower case. -/
def encode (bytes : Bytes) : String := String.ofList (bytes.flatMap encodeByte)

def valueAt (b : UInt8) (position : Nat) : Except Fault Nat :=
  match value? b with
  | some n => .ok n
  | none => .error (.badDigit b position)

/-- Reads pairs; `position` is that of the first byte given. -/
def decodePairs (position : Nat) : Bytes → Except Fault Bytes
  | high :: low :: rest => do
    let h ← valueAt high position
    let l ← valueAt low (position + 1)
    let bytes ← decodePairs (position + 2) rest
    return UInt8.ofNat (16 * h + l) :: bytes
  | [_] => .error .oddLength
  | [] => .ok []

/-- An odd length is noticed before any digit is looked at. -/
def decodeBytes (text : Bytes) : Except Fault Bytes :=
  if text.length % 2 = 1 then .error .oddLength else decodePairs 0 text

def decode (text : String) : Except Fault Bytes := decodeBytes (bytesOf text)

theorem value?_digit (n : Nat) (h : n < 16) : value? (UInt8.ofNat (digit n).toNat) = some n := by
  revert n; decide

end Countersign.Hex
