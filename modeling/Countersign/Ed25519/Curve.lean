import Countersign.Hash.Sha2

/-! The curve -x² + y² = 1 + d x² y² over the integers modulo 2^255 - 19, and its points as
32 bytes. -/
namespace Countersign.Ed25519

def p : Nat := Nat.pow 2 255 - 19

/-- The order of the base point. -/
def order : Nat := Nat.pow 2 252 + 27742317777372353535851937790883648493

def d : Nat := 37095705934669439343138083508754565189542113879843219016388785533085940283555

def rootOfMinusOne : Nat := 19681161376707505956807079304988542015446066515923890162744021073123829784752

def power (base exponent : Nat) : Nat :=
  if exponent = 0 then 1
  else
    let half := power (base * base % p) (exponent / 2)
    if exponent % 2 = 1 then half * base % p else half
termination_by exponent

/-- A point as X : Y : Z with T = X Y / Z; every coordinate is below `p`. -/
structure Point where
  x : Nat
  y : Nat
  z : Nat
  t : Nat

def Point.affine (x y : Nat) : Point := ⟨x, y, 1, x * y % p⟩

def zero : Point := ⟨0, 1, 1, 0⟩

def base : Point := .affine
  15112221349535400772501151409588531511454012693041857206046113283949847762202
  46316835694926478169428394003475163141307993866256225615783033603165251855960

def Point.neg (a : Point) : Point := ⟨(p - a.x) % p, a.y, a.z, (p - a.t) % p⟩

/-- The addition law is complete: it also doubles and adds zero. -/
def Point.add (a b : Point) : Point :=
  let m := (a.y + p - a.x) * (b.y + p - b.x) % p
  let n := (a.y + a.x) * (b.y + b.x) % p
  let c := 2 * d * a.t % p * b.t % p
  let k := 2 * a.z * b.z % p
  let e := n + p - m
  let f := k + p - c
  let g := k + c
  let h := n + m
  ⟨e * f % p, g * h % p, f * g % p, e * h % p⟩

def Point.times (n : Nat) (a : Point) : Point :=
  if n = 0 then zero
  else
    let rest := (a.add a).times (n / 2)
    if n % 2 = 1 then rest.add a else rest
termination_by n

def littleEndian (count n : Nat) : Bytes := (Sha2.bigEndian count n).reverse

def ofLittleEndian (bytes : Bytes) : Nat := Sha2.ofBigEndian bytes.reverse

/-- The height, with the parity of the other coordinate in the top bit. -/
def Point.encode (a : Point) : Bytes :=
  let inverse := power a.z (p - 2)
  littleEndian 32 (a.y * inverse % p + a.x * inverse % p % 2 * Nat.pow 2 255)

/-- Solves x² = u / v. -/
def squareRoot? (u v : Nat) : Option Nat :=
  let v3 := v * v % p * v % p
  let x := u * v3 % p * power (u * v3 % p * v3 % p * v % p) ((p - 5) / 8) % p
  let check := v * x % p * x % p
  if check = u % p then some x
  else if check = (p - u % p) % p then some (x * rootOfMinusOne % p)
  else none

/-- A height of `p` or more counts modulo `p`, and zero keeps a sign bit without effect. -/
def decode? (bytes : Bytes) : Option Point :=
  let n := ofLittleEndian bytes
  let y := n % Nat.pow 2 255 % p
  let square := y * y % p
  (squareRoot? (square + p - 1) (d * square % p + 1)).map fun x =>
    .affine (if x % 2 = n / Nat.pow 2 255 % 2 then x else (p - x) % p) y

end Countersign.Ed25519
