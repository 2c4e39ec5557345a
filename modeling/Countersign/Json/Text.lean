import Countersign.Bytes.Hex
import Countersign.Json.Cursor

/-! Strings in JSON texts. -/
namespace Countersign.Json

/-- Puts characters into bytes, last byte first. -/
def pushChar (out : Bytes) (c : Char) : Bytes := (String.utf8EncodeChar c).reverse ++ out

def shortEscape? (b : UInt8) : Option UInt8 :=
  if b == 0x22 || b == 0x5c || b == 0x2f then some b
  else if b == 0x62 then some 0x08
  else if b == 0x66 then some 0x0c
  else if b == 0x6e then some 0x0a
  else if b == 0x72 then some 0x0d
  else if b == 0x74 then some 0x09
  else none

def fourDigits? (a b c d : UInt8) : Option Nat := do
  let a ← Hex.value? a
  let b ← Hex.value? b
  let c ← Hex.value? c
  let d ← Hex.value? d
  return ((16 * a + b) * 16 + c) * 16 + d

def isLeading (n : Nat) : Bool := 0xd800 ≤ n && n ≤ 0xdbff

def isTrailing (n : Nat) : Bool := 0xdc00 ≤ n && n ≤ 0xdfff

/-- The text of the bytes gathered, once the closing quote is reached at `offset`. -/
def finishText (out : Bytes) (offset : Nat) (rest : Bytes) : Except Fault (String × Cursor) :=
  match Utf8.decode? out.reverse with
  | some s => .ok (s, ⟨offset + 1, rest⟩)
  | none => .error ⟨.badUnicode, offset⟩

/-- Reads up to the closing quote; `out` holds the bytes so far, last first. Escapes by number stand
for one character, or in pairs for one beyond the first 65536. -/
def textFrom (out : Bytes) (offset : Nat) : Bytes → Except Fault (String × Cursor)
  | [] => .error ⟨.endInString, offset⟩
  | b :: rest =>
    if b == 0x22 then finishText out offset rest
    else if b == 0x5c then
      match rest with
      | [] => .error ⟨.endInString, offset + 1⟩
      | e :: rest =>
        match shortEscape? e with
        | some byte => textFrom (byte :: out) (offset + 2) rest
        | none =>
          if e != 0x75 then .error ⟨.badEscape, offset + 2⟩
          else match rest with
            | h1 :: h2 :: h3 :: h4 :: rest =>
              match fourDigits? h1 h2 h3 h4 with
              | none => .error ⟨.badEscape, offset + 6⟩
              | some n =>
                if isTrailing n then .error ⟨.loneSurrogate, offset + 6⟩
                else if !isLeading n then textFrom (pushChar out (Char.ofNat n)) (offset + 6) rest
                else match rest with
                  | [] => .error ⟨.endInString, offset + 6⟩
                  | slash :: rest =>
                    if slash != 0x5c then .error ⟨.endOfEscape, offset + 7⟩
                    else match rest with
                      | [] => .error ⟨.endInString, offset + 7⟩
                      | letter :: rest =>
                        if letter != 0x75 then .error ⟨.endOfEscape, offset + 8⟩
                        else match rest with
                          | h1 :: h2 :: h3 :: h4 :: rest =>
                            match fourDigits? h1 h2 h3 h4 with
                            | none => .error ⟨.badEscape, offset + 12⟩
                            | some m =>
                              if isTrailing m then
                                let c := Char.ofNat ((n - 0xd800) * 0x400 + (m - 0xdc00) + 0x10000)
                                textFrom (pushChar out c) (offset + 12) rest
                              else .error ⟨.loneSurrogate, offset + 12⟩
                          | short => .error ⟨.endInString, offset + 8 + short.length⟩
            | short => .error ⟨.endInString, offset + 2 + short.length⟩
    else if b < 0x20 then .error ⟨.controlInString, offset + 1⟩
    else textFrom (b :: out) (offset + 1) rest

/-- A string behind its opening quote. -/
def text : Reader String := fun c => textFrom [] c.offset c.rest

/-- Controls are escaped, by a letter where there is one; all else stands as it is but the quote and
the backslash. -/
def escape (c : Char) : List Char :=
  if c = '"' then ['\\', '"']
  else if c = '\\' then ['\\', '\\']
  else if c = '\n' then ['\\', 'n']
  else if c = '\r' then ['\\', 'r']
  else if c = '\t' then ['\\', 't']
  else if c.toNat = 0x08 then ['\\', 'b']
  else if c.toNat = 0x0c then ['\\', 'f']
  else if c.toNat < 0x20 then
    ['\\', 'u', '0', '0', Hex.digit (c.toNat / 16), Hex.digit (c.toNat % 16)]
  else [c]

/-- Between quotes. -/
def writeText (s : String) : List Char := '"' :: s.toList.flatMap escape ++ ['"']

end Countersign.Json
