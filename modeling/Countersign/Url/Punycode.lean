import Countersign.Text.Split

/-! Labels of host names beyond ASCII, written in ASCII. -/
namespace Countersign.Punycode

def digit (n : Nat) : Char := Char.ofNat (if n < 26 then 0x61 + n else 0x16 + n)

def threshold (k bias : Nat) : Nat := min 26 (max 1 (k - bias))

/-- Divides until what is left is small; counts the steps. -/
def shrink (delta k : Nat) : Nat × Nat :=
  if 455 < delta then shrink (delta / 35) (k + 36) else (delta, k)
termination_by delta
decreasing_by omega

def adapt (delta points : Nat) (first : Bool) : Nat :=
  let delta := if first then delta / 700 else delta / 2
  let (delta, k) := shrink (delta + delta / points) 0
  k + 36 * delta / (delta + 38)

/-- A number in digits whose places have thresholds. -/
def digitsOf (q k bias : Nat) : List Char :=
  if q < threshold k bias then [digit q]
  else
    digit (threshold k bias + (q - threshold k bias) % (36 - threshold k bias)) ::
      digitsOf ((q - threshold k bias) / (36 - threshold k bias)) (k + 36) bias
termination_by q
decreasing_by
  have smaller := Nat.div_le_self (q - threshold k bias) (36 - threshold k bias)
  have positive : 1 ≤ threshold k bias := by simp only [threshold]; omega
  omega

structure State where
  delta : Nat
  bias : Nat
  handled : Nat
  out : List Char

/-- Goes over the label once for the code point `n`. -/
def visit (n basics : Nat) (s : State) (c : Nat) : State :=
  if c < n then { s with delta := s.delta + 1 }
  else if c = n then
    { delta := 0
      bias := adapt s.delta (s.handled + 1) (s.handled == basics)
      handled := s.handled + 1
      out := s.out ++ digitsOf s.delta 36 s.bias }
  else s

/-- Code points beyond ASCII in rising order, each once; `n` is the first not yet dealt with. -/
def encodeFrom (points : List Nat) (basics : Nat) : List Nat → Nat → State → List Char
  | [], _, s => s.out
  | m :: rest, n, s =>
    let s := { s with delta := s.delta + (m - n) * (s.handled + 1) }
    let s := points.foldl (visit m basics) s
    encodeFrom points basics rest (m + 1) { s with delta := s.delta + 1 }

def encode (label : List Char) : List Char :=
  let basic := label.filter (·.toNat < 0x80)
  let points := label.map Char.toNat
  let others := (points.filter (0x80 ≤ ·)).mergeSort.eraseDups
  let start := if basic.isEmpty then [] else basic ++ ['-']
  encodeFrom points basic.length others 0x80 ⟨0, 72, basic.length, start⟩

/-- A label in ASCII, in lower case. -/
def asciiLabel (label : List Char) : List Char :=
  let label := label.map Char.toLower
  if label.all (·.toNat < 0x80) then label else "xn--".toList ++ encode label

end Countersign.Punycode
