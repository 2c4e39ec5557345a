import Countersign.Bytes.Hex

/-! Percent escapes: a percent sign and two hexadecimal digits stand for one byte. -/
namespace Countersign.Percent

/-- A percent sign that two digits do not follow stands for itself. -/
def decode : Bytes → Bytes
  | 0x25 :: high :: low :: rest =>
    match Hex.value? high, Hex.value? low with
    | some h, some l => UInt8.ofNat (16 * h + l) :: decode rest
    | _, _ => 0x25 :: decode (high :: low :: rest)
  | b :: rest => b :: decode rest
  | [] => []

/-- Digits in upper case. -/
def escapeByte (b : UInt8) : List Char :=
  ['%', (Hex.digit (b.toNat / 16)).toUpper, (Hex.digit (b.toNat % 16)).toUpper]

/-- Escapes the bytes in a set; the others are ASCII and stand for themselves. -/
def encodeBytes (escaped : UInt8 → Bool) (bytes : Bytes) : List Char :=
  bytes.flatMap fun b => if escaped b then escapeByte b else [Char.ofNat b.toNat]

def encode (escaped : UInt8 → Bool) (text : List Char) : List Char :=
  encodeBytes escaped (bytesOf (String.ofList text))

/-- Controls, and all that is not ASCII. -/
def isControl (b : UInt8) : Bool := b < 0x20 || 0x7e < b

def isAny (marks : String) (b : UInt8) : Bool := marks.toList.any fun c => c.toNat == b.toNat

def inFragment (b : UInt8) : Bool := isControl b || isAny " \"<>`" b

def inPath (b : UInt8) : Bool := inFragment b || isAny "#?\x7b\x7d" b

def inUserInfo (b : UInt8) : Bool := inPath b || isAny "/:;=@[\\]^|" b

def inQuery (b : UInt8) : Bool := isControl b || isAny " \"#<>" b

/-- Schemes that everyone knows also escape the apostrophe in queries. -/
def inSpecialQuery (b : UInt8) : Bool := inQuery b || b == 0x27

end Countersign.Percent
