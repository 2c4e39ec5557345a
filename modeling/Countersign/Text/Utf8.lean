/-! Texts as bytes in UTF-8, read strictly or with replacements. -/
namespace Countersign

abbrev Bytes := List UInt8

namespace Utf8

def encode (s : String) : Bytes := s.toUTF8.data.toList

/-- Only well-formed bytes are a text. -/
def decode? (bytes : Bytes) : Option String := String.fromUTF8? ⟨bytes.toArray⟩

def replacement : Char := '\ufffd'

def isTail (b : UInt8) : Bool := 0x80 ≤ b && b ≤ 0xbf

/-- Which second byte may follow a lead byte of three or four bytes. -/
def isSecond (lead b : UInt8) : Bool :=
  if lead == 0xe0 then 0xa0 ≤ b && b ≤ 0xbf
  else if lead == 0xed then 0x80 ≤ b && b ≤ 0x9f
  else if lead == 0xf0 then 0x90 ≤ b && b ≤ 0xbf
  else if lead == 0xf4 then 0x80 ≤ b && b ≤ 0x8f
  else isTail b

/-- How many more bytes a lead byte asks for; `none` for a byte that leads nothing. -/
def tailCount (lead : UInt8) : Option Nat :=
  if lead < 0x80 then some 0
  else if lead < 0xc2 then none
  else if lead < 0xe0 then some 1
  else if lead < 0xf0 then some 2
  else if lead < 0xf5 then some 3
  else none

/-- The character that a complete sequence writes. -/
def assemble : Bytes → Char
  | [a] => Char.ofNat a.toNat
  | [a, b] => Char.ofNat (a.toNat % 32 * 64 + b.toNat % 64)
  | [a, b, c] => Char.ofNat (a.toNat % 16 * 4096 + b.toNat % 64 * 64 + c.toNat % 64)
  | [a, b, c, d] =>
    Char.ofNat (a.toNat % 8 * 262144 + b.toNat % 64 * 4096 + c.toNat % 64 * 64 + d.toNat % 64)
  | _ => replacement

/-- A sequence under way: the bytes so far, last first, and how many are still owed. -/
structure Partial where
  seen : Bytes
  owed : Nat

def begin (b : UInt8) (out : List Char) : List Char × Option Partial :=
  match tailCount b with
  | none => (replacement :: out, none)
  | some 0 => (Char.ofNat b.toNat :: out, none)
  | some owed => (out, some ⟨[b], owed⟩)

def continues (p : Partial) (b : UInt8) : Bool :=
  match p.seen with
  | [lead] => isSecond lead b
  | _ => isTail b

/-- Reads on; `out` holds the characters so far, last first. Each longest stretch that could have
begun a character and did not become one turns into one replacement character. -/
def repairFrom (out : List Char) (pending : Option Partial) : Bytes → List Char
  | [] => match pending with
    | none => out
    | some _ => replacement :: out
  | b :: rest => match pending with
    | none => let (out, pending) := begin b out
      repairFrom out pending rest
    | some p =>
      if continues p b then
        if p.owed ≤ 1 then repairFrom (assemble (b :: p.seen).reverse :: out) none rest
        else repairFrom out (some ⟨b :: p.seen, p.owed - 1⟩) rest
      else
        let (out, pending) := begin b (replacement :: out)
        repairFrom out pending rest

def repair (bytes : Bytes) : String := String.ofList (repairFrom [] none bytes).reverse

/-- Well-formed bytes as they are, else with replacement characters. -/
def decodeLossy (bytes : Bytes) : String := (decode? bytes).getD (repair bytes)

theorem decode?_encode (s : String) : decode? (encode s) = some s := by
  have valid : (s.toUTF8).IsValidUTF8 := s.isValidUTF8
  simp only [decode?, encode, Array.toArray_toList]
  unfold String.fromUTF8?
  rw [dif_pos valid]
  rfl

theorem decodeLossy_encode (s : String) : decodeLossy (encode s) = s := by
  simp [decodeLossy, decode?_encode]

end Utf8

/-- The bytes of a text. -/
def bytesOf (s : String) : Bytes := Utf8.encode s

end Countersign
