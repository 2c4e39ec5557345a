/-! Decimal integers as text. -/
namespace Countersign.Text

def isDigit (c : Char) : Bool := '0' ≤ c && c ≤ '9'

def digitValue (c : Char) : Nat := c.toNat - '0'.toNat

/-- The number that a row of digits writes; leading zeros change nothing. -/
def digitsValue (digits : List Char) : Nat :=
  digits.foldl (fun n c => 10 * n + digitValue c) 0

/-- Without leading zeros. -/
def decimal (n : Nat) : List Char :=
  if n < 10 then [Char.ofNat (0x30 + n)]
  else decimal (n / 10) ++ [Char.ofNat (0x30 + n % 10)]
termination_by n

def ofInt (n : Int) : String :=
  String.ofList (if n < 0 then '-' :: decimal n.natAbs else decimal n.natAbs)

/-- One or more digits and nothing else. -/
def natural? (l : List Char) : Option Nat :=
  if l.isEmpty || !l.all isDigit then none else some (digitsValue l)

/-- An optional sign, then one or more digits. -/
def integer? : List Char → Option Int
  | '+' :: digits => (natural? digits).map Int.ofNat
  | '-' :: digits => (natural? digits).map fun n => -Int.ofNat n
  | digits => (natural? digits).map Int.ofNat

def int64Min : Int := -9223372036854775808
def int64Max : Int := 9223372036854775807

/-- A signed integer that fits in 64 bits. -/
def int64? (s : String) : Option Int :=
  (integer? s.toList).filter fun n => int64Min ≤ n && n ≤ int64Max

/-- An unsigned integer below `bound`; a plus sign is allowed, a minus sign is not. -/
def below? (bound : Nat) (s : String) : Option Nat :=
  let digits := match s.toList with
    | '+' :: digits => digits
    | digits => digits
  (natural? digits).filter (· < bound)

theorem isDigit_digit (n : Nat) (h : n < 10) : isDigit (Char.ofNat (0x30 + n)) = true := by
  revert n; decide

theorem digitValue_digit (n : Nat) (h : n < 10) : digitValue (Char.ofNat (0x30 + n)) = n := by
  revert n; decide

theorem all_isDigit_decimal (n : Nat) : (decimal n).all isDigit = true := by
  induction n using Nat.strongRecOn with
  | _ n ih =>
    rw [decimal]
    split
    · rename_i small; simp only [List.all_cons, isDigit_digit n small, List.all_nil, Bool.and_self]
    · rw [List.all_append, ih (n / 10) (by omega)]
      simp only [List.all_cons, isDigit_digit (n % 10) (by omega), List.all_nil, Bool.and_self]

theorem digitsValue_decimal (n : Nat) : digitsValue (decimal n) = n := by
  induction n using Nat.strongRecOn with
  | _ n ih =>
    rw [decimal]
    split
    · rename_i small; simp only [digitsValue, List.foldl, digitValue_digit n small]; omega
    · have rest := ih (n / 10) (by omega)
      simp only [digitsValue, List.foldl_append, List.foldl_cons, List.foldl_nil] at rest ⊢
      rw [rest, digitValue_digit (n % 10) (by omega)]
      omega

theorem decimal_ne_nil (n : Nat) : decimal n ≠ [] := by
  rw [decimal]; split <;> simp

theorem natural?_decimal (n : Nat) : natural? (decimal n) = some n := by
  simp [natural?, all_isDigit_decimal, decimal_ne_nil, digitsValue_decimal]

end Countersign.Text
