/-! Floating-point numbers of 64 bits, finite ones, computed exactly on integers and rounded once. -/
namespace Countersign

/-- The value is `significand * 2 ^ exponent`. The significand is below 2^53 and fills it unless the
exponent is the least, -1074. -/
structure Binary64 where
  negative : Bool
  significand : Nat
  exponent : Int
deriving DecidableEq, Repr

namespace Binary64

def leastExponent : Int := -1074
def greatestExponent : Int := 971

def zero (negative : Bool) : Binary64 := ⟨negative, 0, leastExponent⟩

/-- The quotient rounded to the nearest integer, a half to the even neighbour. -/
def roundQuotient (n d : Nat) : Nat :=
  let q := n / d
  let twice := 2 * (n % d)
  if twice > d || (twice == d && q % 2 == 1) then q + 1 else q

/-- `n * 2 ^ e` over `d * 2 ^ e` as a quotient of integers. -/
def scaled (n d : Nat) (e : Int) : Nat × Nat :=
  if e ≥ 0 then (n * Nat.pow 2 e.toNat, d) else (n, d * Nat.pow 2 (-e).toNat)

/-- The power of two that a positive quotient reaches and its double exceeds. -/
def log2Quotient (n d : Nat) : Int :=
  let guess : Int := (n.log2 : Int) - (d.log2 : Int)
  let (n, d) := scaled n d (-guess)
  if n ≥ d then guess else guess - 1

/-- Rounds a quotient; `none` when it is too large for a finite number. -/
def ofQuotient (negative : Bool) (n d : Nat) : Option Binary64 :=
  if n = 0 then some (zero negative)
  else
    let e := max (log2Quotient n d - 52) leastExponent
    let (n, d) := scaled n d (-e)
    let m := roundQuotient n d
    let (m, e) := if m = Nat.pow 2 53 then (Nat.pow 2 52, e + 1) else (m, e)
    if e > greatestExponent then none else some ⟨negative, m, e⟩

def ofNat (negative : Bool) (n : Nat) : Option Binary64 := ofQuotient negative n 1

/-- Product and quotient of two numbers, under the sign of the first. -/
def times (x y : Binary64) : Option Binary64 :=
  let (n, d) := scaled (x.significand * y.significand) 1 (x.exponent + y.exponent)
  ofQuotient x.negative n d

def dividedBy (x y : Binary64) : Option Binary64 :=
  let (n, d) := scaled x.significand y.significand (x.exponent - y.exponent)
  ofQuotient x.negative n d

/-- The nearest number to `digits * 10 ^ e`. -/
def ofDecimal (negative : Bool) (digits : Nat) (e : Int) : Option Binary64 :=
  if e ≥ 0 then ofQuotient negative (digits * Nat.pow 10 e.toNat) 1
  else ofQuotient negative digits (Nat.pow 10 (-e).toNat)

end Binary64

end Countersign
