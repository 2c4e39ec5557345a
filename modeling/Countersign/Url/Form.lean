import Countersign.Text.Split
import Countersign.Url.Percent

/-! Queries as forms write them: pairs of a key and a value, joined by ampersands. -/
namespace Countersign.Form

def plusAsBlank (b : UInt8) : UInt8 := if b == 0x2b then 0x20 else b

def decodePart (part : Bytes) : String := Utf8.decodeLossy (Percent.decode (part.map plusAsBlank))

/-- The key ends at the first equals sign; without one the value is empty. -/
def decodePair (pair : Bytes) : String × String :=
  (decodePart (pair.takeWhile (· != 0x3d)), decodePart ((pair.dropWhile (· != 0x3d)).drop 1))

/-- Empty pieces are no pairs. -/
def decode (query : Bytes) : List (String × String) :=
  ((query.splitOn 0x26).filter (!·.isEmpty)).map decodePair

/-- The value of the last pair with a key. -/
def get? (pairs : List (String × String)) (key : String) : Option String :=
  pairs.reverse.lookup key

/-- Letters, digits and `* - . _` stand for themselves. -/
def isKept (b : UInt8) : Bool :=
  (0x30 ≤ b && b ≤ 0x39) || (0x41 ≤ b && b ≤ 0x5a) || (0x61 ≤ b && b ≤ 0x7a) ||
    b == 0x2a || b == 0x2d || b == 0x2e || b == 0x5f

def encodeByte (b : UInt8) : List Char :=
  if isKept b then [Char.ofNat b.toNat] else if b == 0x20 then ['+'] else Percent.escapeByte b

def encodePart (part : String) : List Char := (bytesOf part).flatMap encodeByte

def encodePair (pair : String × String) : List Char :=
  encodePart pair.1 ++ '=' :: encodePart pair.2

/-- Adds pairs to what is there, if anything is. -/
def extend (query : List Char) : List (String × String) → List Char
  | [] => query
  | pair :: rest =>
    let separator := if query.isEmpty then [] else ['&']
    extend (query ++ separator ++ encodePair pair) rest

end Countersign.Form
