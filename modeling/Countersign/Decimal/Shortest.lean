import Countersign.Decimal.Binary64

/-! The shortest decimal that reads back as a given number, and its text. -/
namespace Countersign.Binary64

/-- `digits * 10 ^ exponent`. -/
structure Decimal where
  digits : Nat
  exponent : Int
deriving DecidableEq, Repr

/-- The reals that round to a positive number: quotients over one denominator, the ends included
just when the significand is even. -/
structure Interval where
  low : Nat
  value : Nat
  high : Nat
  denominator : Nat
  closed : Bool

/-- Below a power of two the neighbour is only half as far away. -/
def interval (x : Binary64) : Interval :=
  let below := if x.significand = Nat.pow 2 52 && x.exponent > leastExponent then 1 else 2
  let (unit, d) := scaled 1 1 (x.exponent - 2)
  ⟨(4 * x.significand - below) * unit, 4 * x.significand * unit, (4 * x.significand + 2) * unit, d,
    x.significand % 2 == 0⟩

/-- The decimal lies in the interval. -/
def Interval.contains (i : Interval) (c : Decimal) : Bool :=
  let (n, d) :=
    if c.exponent ≥ 0 then (c.digits * Nat.pow 10 c.exponent.toNat * i.denominator, 1)
    else (c.digits * i.denominator, Nat.pow 10 (-c.exponent).toNat)
  if i.closed then i.low * d ≤ n && n ≤ i.high * d else i.low * d < n && n < i.high * d

/-- The neighbours of the value on the grid of multiples of `10 ^ e`, the nearer one first. -/
def Interval.neighbours (i : Interval) (e : Int) : List Decimal :=
  let (n, d) :=
    if e ≥ 0 then (i.value, i.denominator * Nat.pow 10 e.toNat)
    else (i.value * Nat.pow 10 (-e).toNat, i.denominator)
  let floor : Decimal := ⟨n / d, e⟩
  let ceiling : Decimal := ⟨n / d + 1, e⟩
  let twice := 2 * (n % d)
  if twice < d || (twice == d && n / d % 2 == 0) then [floor, ceiling] else [ceiling, floor]

/-- The power of ten that the value reaches and ten times which exceeds it. -/
def Interval.log10 (i : Interval) : Int :=
  if i.value ≥ i.denominator then ((Nat.toDigits 10 (i.value / i.denominator)).length : Int) - 1
  else
    let inverse := (i.denominator + i.value - 1) / i.value
    0 - ((Nat.toDigits 10 (inverse - 1)).length : Int)

/-- The first decimal within the interval, going from coarse grids to fine ones. -/
def Interval.search (i : Interval) (e : Int) : Nat → Decimal
  | 0 => ⟨0, 0⟩
  | more + 1 =>
    match (i.neighbours e).find? i.contains with
    | some c => c
    | none => i.search (e - 1) more

/-- Seventeen digits always suffice. -/
def shortest (x : Binary64) : Decimal := x.interval.search x.interval.log10 18

/-- How numbers are written: positional for powers of ten from `least` to `greatest`, else with an
exponent that has a sign and two digits or more. -/
structure Format where
  least : Int
  greatest : Int

def format : Format := ⟨-5, 15⟩

def exponentText (e : Int) : String :=
  let digits := Nat.toDigits 10 e.natAbs
  let sign := if e < 0 then '-' else '+'
  String.ofList ('e' :: sign :: (if digits.length < 2 then '0' :: digits else digits))

/-- Digits without trailing zeros, and the power of ten of the first. -/
def positional (f : Format) (digits : List Char) (e : Int) : String :=
  let zeros (n : Int) : List Char := List.replicate n.toNat '0'
  if e < f.least || f.greatest < e then
    match digits with
    | [d] => String.ofList [d] ++ exponentText e
    | d :: rest => String.ofList (d :: '.' :: rest) ++ exponentText e
    | [] => ""
  else if e < 0 then String.ofList ('0' :: '.' :: zeros (-e - 1) ++ digits)
  else
    let whole := (e + 1).toNat
    if digits.length ≤ whole then
      String.ofList (digits ++ zeros (whole - digits.length : Nat) ++ ['.', '0'])
    else String.ofList (digits.take whole ++ '.' :: digits.drop whole)

def text (x : Binary64) : String :=
  let sign := if x.negative then "-" else ""
  if x.significand = 0 then sign ++ "0.0"
  else
    let c := x.shortest
    let all := Nat.toDigits 10 c.digits
    let kept := (all.reverse.dropWhile (· == '0')).reverse
    sign ++ positional format kept (c.exponent + (all.length : Int) - 1)

end Countersign.Binary64
