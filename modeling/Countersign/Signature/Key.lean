import Countersign.Bytes.Hex
import Countersign.Ed25519.Signing
import Countersign.Text.Blank
import Countersign.Text.Split

/-! Keys of 32 bytes, written in hexadecimal, and what can be done with them. -/
namespace Countersign

namespace Key

inductive Fault where
  | badHex (why : Hex.Fault)
  | seedLength
  | publicLength (got : Nat)
deriving DecidableEq, Repr

def Fault.message : Fault → String
  | .badHex why =>
    let reason := why.message
    s!"invalid hex: {reason}"
  | .seedLength => "ed25519 secret not length 32"
  | .publicLength got => s!"invalid public key length: expected 32, got {got}"

/-- Hexadecimal digits without surrounding blanks and without one leading `0x`. -/
def digitsOf (text : String) : String := Text.dropFront "0x" (Text.trim text)

end Key

/-- Makes signatures. -/
structure Signer where
  sign : Bytes → Bytes
  publicKey : Bytes

/-- Says whether a signature belongs to a message. -/
@[ext] structure Verifier where
  accepts (message signature : Bytes) : Bool

structure SigningKey where
  seed : Bytes
  length_seed : seed.length = 32

namespace SigningKey

/-- Missing digits count as leading zeros. -/
def padded (digits : String) : String :=
  String.ofList (List.replicate (64 - digits.toList.length) '0' ++ digits.toList)

def ofHex (text : String) : Except Key.Fault SigningKey :=
  match Hex.decode (padded (Key.digitsOf text)) with
  | .error why => .error (.badHex why)
  | .ok seed => if h : seed.length = 32 then .ok ⟨seed, h⟩ else .error .seedLength

def toHex (key : SigningKey) : String := Hex.encode key.seed

def signer (key : SigningKey) : Signer where
  sign := Ed25519.sign key.seed
  publicKey := Ed25519.publicKey key.seed

def publicHex (key : SigningKey) : String := Hex.encode key.signer.publicKey

end SigningKey

structure VerifyingKey where
  bytes : Bytes
  length_bytes : bytes.length = 32

namespace VerifyingKey

def ofBytes (bytes : Bytes) : Except Key.Fault VerifyingKey :=
  if h : bytes.length = 32 then .ok ⟨bytes, h⟩ else .error (.publicLength bytes.length)

def ofHex (text : String) : Except Key.Fault VerifyingKey :=
  match Hex.decode (Key.digitsOf text) with
  | .error why => .error (.badHex why)
  | .ok bytes => ofBytes bytes

def verifier (key : VerifyingKey) : Verifier := ⟨Ed25519.verify key.bytes⟩

/-- The bytes of a key decide what its verifier accepts. -/
@[simp] theorem accepts_verifier (key : VerifyingKey) (message signature : Bytes) :
    key.verifier.accepts message signature = Ed25519.verify key.bytes message signature := rfl

/-- RFC 8032 section 7.1: the key of test 1 accepts the signature of test 1, and the key of test 2
does not. -/
example :
    let accepts (key signature : String) : Option Bool := do
      return (← (ofHex key).toOption).verifier.accepts [] (← (Hex.decode signature).toOption)
    let signature := "e5564300c360ac729086e2cc806e828a84877f1eb8e5d974d873e065224901555" ++
      "fb8821590a33bacc61e39701cf9b46bd25bf5f0595bbe24655141438e7a100b"
    accepts "d75a980182b10ab7d54bfed3c964073a0ee172f3daa62325af021a68f707511a" signature = some true ∧
      accepts "3d4017c3e843895a92b70aa74d1b7ebc9c982ccf2ec4968cc0cd55f12af4660c" signature =
        some false := by
  decide +kernel

end VerifyingKey

end Countersign
