import Countersign.Proofs.JsonText

/-! Whole numbers are read from JSON as they were written. -/
namespace Countersign

namespace Text

/-- Only zero begins with a zero. -/
theorem eq_zero_of_decimal_eq_cons {n : Nat} {rest : List Char} (shape : decimal n = '0' :: rest) :
    n = 0 ∧ rest = [] := by
  induction n using Nat.strongRecOn generalizing rest with
  | _ n ih =>
    rw [decimal] at shape
    split at shape
    · rename_i small
      obtain ⟨first, rfl⟩ := List.cons.inj shape
      have only : ∀ n < 10, Char.ofNat (0x30 + n) = '0' → n = 0 := by decide
      exact ⟨only n small first, rfl⟩
    · rename_i large
      cases front : decimal (n / 10) with
      | nil => exact absurd front (decimal_ne_nil _)
      | cons c more =>
        rw [front, List.cons_append] at shape
        obtain ⟨rfl, _⟩ := List.cons.inj shape
        have := (ih (n / 10) (by omega) front).1
        omega

theorem toNat_of_isDigit {c : Char} (digit : isDigit c = true) : 48 ≤ c.toNat ∧ c.toNat ≤ 57 := by
  rw [isDigit, Bool.and_eq_true, decide_eq_true_eq, decide_eq_true_eq] at digit
  exact digit

end Text

namespace Json

/-- The byte of a digit. -/
theorem byte_of_isDigit {c : Char} (digit : Text.isDigit c = true) :
    String.utf8EncodeChar c = [UInt8.ofNat c.toNat] ∧
      (UInt8.ofNat c.toNat).toNat - 0x30 = Text.digitValue c ∧
      isDigit (UInt8.ofNat c.toNat) = true := by
  obtain ⟨low, high⟩ := Text.toNat_of_isDigit digit
  have code := toNat_byte_of_ascii (show c.toNat < 128 by omega)
  refine ⟨encodeChar_of_ascii (by omega), by rw [code]; rfl, ?_⟩
  rw [isDigit, Bool.and_eq_true, decide_eq_true_eq, decide_eq_true_eq, UInt8.le_iff_toNat_le,
    UInt8.le_iff_toNat_le, code]
  exact ⟨low, high⟩

theorem Stops.isDigit_eq_false {rest : Bytes} (stops : Stops rest) :
    ∀ b ∈ rest.head?, isDigit b = false := by
  intro b first
  rcases stops b first with rfl | rfl | rfl
  all_goals rfl

/-- The value of digits is never less than what they go on from. -/
theorem le_foldl_digits (l : List Char) (n : Nat) :
    n ≤ l.foldl (fun n c => 10 * n + Text.digitValue c) n := by
  induction l generalizing n with
  | nil => exact Nat.le_refl n
  | cons c rest ih =>
    have := ih (10 * n + Text.digitValue c)
    simp only [List.foldl_cons]
    omega

/-- Digits are taken in as long as they find room, up to what is none. -/
theorem takeDigits_written {limit : Nat} {l : List Char} (digits : l.all Text.isDigit = true)
    {rest : Bytes} (stop : ∀ b ∈ rest.head?, isDigit b = false) (n count : Nat)
    (room : l.foldl (fun n c => 10 * n + Text.digitValue c) n < limit) :
    takeDigits limit n count (encodeChars l ++ rest) =
      (l.foldl (fun n c => 10 * n + Text.digitValue c) n, count + (encodeChars l).length, rest) := by
  induction l generalizing n count with
  | nil =>
    cases rest with
    | nil => rfl
    | cons b more => simp [takeDigits, stop b rfl]
  | cons c more ih =>
    rw [List.all_cons, Bool.and_eq_true] at digits
    obtain ⟨byte, value, digit⟩ := byte_of_isDigit digits.1
    have fits := Nat.lt_of_le_of_lt (le_foldl_digits more _) room
    have step : takeDigits limit n count (UInt8.ofNat c.toNat :: (encodeChars more ++ rest)) =
        takeDigits limit (10 * n + Text.digitValue c) (count + 1) (encodeChars more ++ rest) := by
      rw [takeDigits, value, digit]
      simp [fits]
    rw [encodeChars_cons, byte, List.singleton_append, List.cons_append, step,
      ih digits.2 _ _ room, List.length_cons, Nat.add_assoc, Nat.add_comm 1]
    rfl

theorem skipDigits_eq_self {c : Cursor} (stop : ∀ b ∈ c.rest.head?, isDigit b = false) :
    c.skipDigits = c := by
  obtain ⟨offset, rest⟩ := c
  cases rest with
  | nil => rfl
  | cons b more =>
    have notDigit : isDigit b = false := stop b rfl
    simp [Cursor.skipDigits, notDigit]

/-- Neither a point nor an exponent follows. -/
theorem afterInteger_of_stops {c : Cursor} (stops : Stops c.rest) (negative : Bool) (digits : Nat) :
    afterInteger negative digits 0 c = .ok (integer negative digits, c) := by
  obtain ⟨offset, rest⟩ := c
  cases rest with
  | nil => rfl
  | cons b more =>
    rcases stops b rfl with rfl | rfl | rfl
    all_goals rfl

/-- A zero stands alone. -/
theorem number_zero {rest : Bytes} (stops : Stops rest) (negative : Bool) (offset : Nat) :
    number negative ⟨offset, 0x30 :: rest⟩ = .ok (integer negative 0, ⟨offset + 1, rest⟩) := by
  have done := afterInteger_of_stops (c := ⟨offset + 1, rest⟩) stops negative 0
  cases rest with
  | nil => exact done
  | cons b more =>
    have notDigit : isDigit b = false := stops.isDigit_eq_false b rfl
    simp only [number, notDigit, Bool.false_eq_true, if_false]
    exact done

/-- Behind a digit other than zero all digits count. -/
theorem number_of_takeDigits {b : UInt8} {more rest : Bytes} (digit : isDigit b = true)
    (notZero : b ≠ 0x30) {n count : Nat}
    (taken : takeDigits wordLimit 0 0 (b :: more) = (n, count, rest)) (stops : Stops rest)
    (negative : Bool) (offset : Nat) :
    number negative ⟨offset, b :: more⟩ = .ok (integer negative n, ⟨offset + count, rest⟩) := by
  rw [number.eq_def]
  split
  · rename_i none
    cases none
  · rename_i zeroFirst
    exact absurd (List.cons.inj zeroFirst).1 notZero
  · rename_i first others _ here
    obtain ⟨rfl, _⟩ := List.cons.inj here
    simp only [digit, Bool.not_true, Bool.false_eq_true, if_false, taken]
    rw [skipDigits_eq_self stops.isDigit_eq_false]
    dsimp only
    rw [Nat.sub_self]
    exact afterInteger_of_stops stops negative n

/-- The digits of a number of 64 bits are read as that number. -/
theorem number_decimal {n : Nat} (fits : n < wordLimit) (negative : Bool) (offset : Nat)
    {rest : Bytes} (stops : Stops rest) :
    number negative ⟨offset, encodeChars (Text.decimal n) ++ rest⟩ =
      .ok (integer negative n, ⟨offset + (encodeChars (Text.decimal n)).length, rest⟩) := by
  cases shape : Text.decimal n with
  | nil => exact absurd shape (Text.decimal_ne_nil n)
  | cons c more =>
    have digits := Text.all_isDigit_decimal n
    have value : (Text.decimal n).foldl (fun n c => 10 * n + Text.digitValue c) 0 = n :=
      Text.digitsValue_decimal n
    rw [shape] at digits value
    have taken := takeDigits_written digits stops.isDigit_eq_false 0 0 (value.symm ▸ fits)
    rw [value, Nat.zero_add] at taken
    rw [List.all_cons, Bool.and_eq_true] at digits
    obtain ⟨byte, _, digit⟩ := byte_of_isDigit digits.1
    -- The reader lets no digit follow a leading zero; only the number zero is written with one.
    by_cases zero : c = '0'
    · subst zero
      obtain ⟨rfl, rfl⟩ := Text.eq_zero_of_decimal_eq_cons shape
      exact number_zero stops negative offset
    · have notZero : UInt8.ofNat c.toNat ≠ 0x30 := by
        intro same
        have code : (UInt8.ofNat c.toNat).toNat = c.toNat := by
          have := (Text.toNat_of_isDigit digits.1).2
          exact toNat_byte_of_ascii (by omega)
        rw [same] at code
        exact zero (Char.toNat_inj.1 code.symm)
      have bytes : encodeChars (c :: more) ++ rest =
          UInt8.ofNat c.toNat :: (encodeChars more ++ rest) := by
        rw [encodeChars_cons, byte, List.singleton_append, List.cons_append]
      rw [bytes] at taken ⊢
      exact number_of_takeDigits digit notZero taken stops negative offset

theorem integer_of_neg {n : Int} (negative : n < 0) (fits : n.natAbs ≤ Nat.pow 2 63) :
    integer true n.natAbs = .int n := by
  have given : n.natAbs ≠ 0 := by omega
  have value : -(n.natAbs : Int) = n := by omega
  simp only [integer, Bool.not_true, Bool.false_eq_true, if_false, given, fits, if_true, value]

theorem integer_of_nonneg {n : Int} (positive : 0 ≤ n) : integer false n.natAbs = .int n := by
  have value : (n.natAbs : Int) = n := by omega
  simp [integer, value]

theorem asInt32_toInt (n : Int32) (c : Cursor) : asInt32 (.int n.toInt) c = .ok (n, c) := by
  have low := n.le_toInt
  have high := n.toInt_lt
  have inRange : -2147483648 ≤ n.toInt ∧ n.toInt ≤ 2147483647 := by omega
  simp [asInt32, inRange]

theorem exists_first_digit (n : Nat) :
    ∃ b more, encodeChars (Text.decimal n) = b :: more ∧ isDigit b = true := by
  have digits := Text.all_isDigit_decimal n
  cases shape : Text.decimal n with
  | nil => exact absurd shape (Text.decimal_ne_nil n)
  | cons c more =>
    rw [shape, List.all_cons, Bool.and_eq_true] at digits
    obtain ⟨byte, _, digit⟩ := byte_of_isDigit digits.1
    exact ⟨_, encodeChars more, by rw [encodeChars_cons, byte, List.singleton_append], digit⟩

/-- A digit is neither a blank nor a sign. -/
theorem plain_of_isDigit {b : UInt8} : isDigit b = true →
    Cursor.isBlank b = false ∧ (b == 0x2d) = false :=
  forall_byte b (by decide +kernel)

/-- A whole number of 32 bits, of either sign. -/
theorem reads_int32 (n : Int32) : Reads int32 (Value.int n.toInt).write n := by
  intro offset rest stops
  have low := n.le_toInt
  have high := n.toInt_lt
  have limit : wordLimit = 18446744073709551616 := rfl
  have written : (Value.int n.toInt).write = (Text.ofInt n.toInt).toList := rfl
  have read (sign : Bool) (start : Nat) :=
    number_decimal (show n.toInt.natAbs < wordLimit by omega) sign start stops
  rw [written, Text.ofInt, String.toList_ofList]
  split
  · rename_i negative
    have fits : n.toInt.natAbs ≤ Nat.pow 2 63 := by
      have : Nat.pow 2 63 = 9223372036854775808 := rfl
      omega
    have bytes : encodeChars ('-' :: Text.decimal n.toInt.natAbs) =
        0x2d :: encodeChars (Text.decimal n.toInt.natAbs) := rfl
    rw [bytes, List.cons_append, int32, atValue, skipBlanks_of_notBlank (by decide)]
    dsimp only
    rw [if_pos (by decide), Cursor.next]
    dsimp only
    rw [read true, Outcome.ok_bind]
    dsimp only
    rw [integer_of_neg negative fits, asInt32_toInt, List.length_cons, Nat.add_assoc,
      Nat.add_comm 1]
  · rename_i positive
    obtain ⟨b, more, first, digit⟩ := exists_first_digit n.toInt.natAbs
    obtain ⟨notBlank, notSign⟩ := plain_of_isDigit digit
    have read := read false offset
    rw [first, List.cons_append] at read ⊢
    rw [int32, atValue, skipBlanks_of_notBlank notBlank]
    dsimp only
    rw [notSign, if_neg (by decide), if_pos digit, read, Outcome.ok_bind]
    dsimp only
    rw [integer_of_nonneg (Int.not_lt.1 positive), asInt32_toInt]

end Json

end Countersign
