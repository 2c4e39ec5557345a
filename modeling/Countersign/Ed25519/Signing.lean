import Countersign.Ed25519.Curve

/-! Ed25519 signatures: deterministic, 64 bytes, over messages of any length. -/
namespace Countersign.Ed25519

/-- The secret scalar: a multiple of eight between 2^254 and 2^255. -/
def clamp (n : Nat) : Nat := Nat.pow 2 254 + n % Nat.pow 2 254 / 8 * 8

structure Expanded where
  scalar : Nat
  nonceKey : Bytes

def expand (seed : Bytes) : Expanded :=
  let h := Sha2.sha512 seed
  ⟨clamp (ofLittleEndian (h.take 32)), h.drop 32⟩

def publicKey (seed : Bytes) : Bytes := (base.times (expand seed).scalar).encode

def hashScalar (parts : List Bytes) : Nat := ofLittleEndian (Sha2.sha512 parts.flatten) % order

def sign (seed message : Bytes) : Bytes :=
  let secret := expand seed
  let r := hashScalar [secret.nonceKey, message]
  let point := (base.times r).encode
  let k := hashScalar [point, (base.times secret.scalar).encode, message]
  point ++ littleEndian 32 ((r + k * secret.scalar) % order)

/-- The scalar half must be reduced, and the point that the equation asks for is compared as
bytes, without clearing cofactors. -/
def verify (key message signature : Bytes) : Bool :=
  let point := signature.take 32
  let s := ofLittleEndian (signature.drop 32)
  signature.length == 64 && s < order &&
    match decode? key with
    | none => false
    | some a =>
      let k := hashScalar [point, key, message]
      ((base.times s).add (a.neg.times k)).encode == point

end Countersign.Ed25519
