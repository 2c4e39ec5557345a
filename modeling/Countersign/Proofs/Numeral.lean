import Countersign.Proofs.IntegerText
import Countersign.Proofs.Outcome
import Countersign.Wire.Amount
import Mathlib.Algebra.Order.Field.Rat
import Mathlib.Tactic.Positivity

/-! What an amount is worth. A text is an amount just if it writes a decimal number, with digits before
or behind a point that may be missing, and it counts as zero just if that number is zero. -/
namespace Countersign

namespace Text

theorem digitValue_eq_zero_iff {c : Char} (digit : isDigit c = true) :
    digitValue c = 0 ↔ c = '0' := by
  obtain ⟨low, _⟩ := toNat_of_isDigit digit
  have code : '0'.toNat = 48 := rfl
  rw [digitValue, ← Char.toNat_inj]
  omega

theorem foldl_digits_eq_zero_iff {l : List Char} {n : Nat} :
    l.foldl (fun n c => 10 * n + digitValue c) n = 0 ↔ n = 0 ∧ ∀ c ∈ l, digitValue c = 0 := by
  induction l generalizing n with
  | nil => simp
  | cons c rest ih =>
    have first : 10 * n + digitValue c = 0 ↔ n = 0 ∧ digitValue c = 0 := by omega
    rw [List.foldl_cons, ih, first, List.forall_mem_cons, and_assoc]

/-- Digits write zero just if each of them is. -/
theorem digitsValue_eq_zero_iff {l : List Char} (digits : ∀ c ∈ l, isDigit c = true) :
    digitsValue l = 0 ↔ ∀ c ∈ l, c = '0' := by
  rw [digitsValue, foldl_digits_eq_zero_iff, and_iff_right rfl]
  exact forall₂_congr fun c member => digitValue_eq_zero_iff (digits c member)

end Text

namespace Amount

/-- A decimal number: digits before and behind a point. The point may be missing, and with it what is
behind; one of the sides may be empty. -/
structure Written (text whole fraction : List Char) : Prop where
  shape : text = whole ++ '.' :: fraction ∨ text = whole ∧ fraction = []
  digits : ∀ c ∈ whole ++ fraction, Text.isDigit c = true
  notEmpty : whole ++ fraction ≠ []

/-- The number that is written. -/
def value (whole fraction : List Char) : ℚ :=
  Text.digitsValue whole + Text.digitsValue fraction / 10 ^ fraction.length

variable {text whole fraction : List Char}

theorem parts_eq_iff : parts text = (whole, fraction) ∧ '.' ∉ whole ↔
    '.' ∉ whole ∧ (text = whole ++ '.' :: fraction ∨ text = whole ∧ fraction = []) := by
  rw [and_comm, parts]
  refine and_congr_right fun fresh => ?_
  cases pieces : Text.cut '.' text with
  | none =>
    have noPoint := Text.cut_eq_none_iff.1 pieces
    constructor
    · rintro same
      cases same
      exact .inr ⟨rfl, rfl⟩
    · rintro (rfl | ⟨rfl, rfl⟩)
      · exact absurd (List.mem_append_right _ List.mem_cons_self) noPoint
      · rfl
  | some pair =>
    obtain ⟨before, after⟩ := pair
    obtain ⟨shape, _⟩ := Text.cut_eq_some_iff.1 pieces
    constructor
    · rintro same
      cases same
      exact .inl shape
    · rintro (here | ⟨rfl, rfl⟩)
      · rw [Text.cut_eq_some_iff.2 ⟨here, fresh⟩] at pieces
        cases pieces
        rfl
      · rw [shape] at fresh
        exact absurd (List.mem_append_right _ List.mem_cons_self) fresh

theorem written_iff : Written text whole fraction ↔
    parts text = (whole, fraction) ∧ isNumeral text = true := by
  have numeral (same : parts text = (whole, fraction)) : isNumeral text = true ↔
      whole ++ fraction ≠ [] ∧ ∀ c ∈ whole ++ fraction, Text.isDigit c = true := by
    rw [isNumeral, same]
    simp [or_imp, forall_and]
    tauto
  have noPoint (digits : ∀ c ∈ whole ++ fraction, Text.isDigit c = true) : '.' ∉ whole := by
    intro member
    exact absurd (digits '.' (List.mem_append_left _ member)) (by decide)
  constructor
  · rintro ⟨shape, digits, notEmpty⟩
    have same := (parts_eq_iff.2 ⟨noPoint digits, shape⟩).1
    exact ⟨same, (numeral same).2 ⟨notEmpty, digits⟩⟩
  · rintro ⟨same, isNumeral⟩
    obtain ⟨notEmpty, digits⟩ := (numeral same).1 isNumeral
    exact ⟨(parts_eq_iff.1 ⟨same, noPoint digits⟩).2, digits, notEmpty⟩

theorem value_nonneg (whole fraction : List Char) : 0 ≤ value whole fraction := by
  unfold value
  positivity

theorem Written.value_eq_zero_iff (written : Written text whole fraction) :
    value whole fraction = 0 ↔ ∀ c ∈ whole ++ fraction, c = '0' := by
  obtain ⟨wholeDigits, fractionDigits⟩ := List.forall_mem_append.1 written.digits
  have behind : (0 : ℚ) ≤ Text.digitsValue fraction / 10 ^ fraction.length := by positivity
  have scale : (10 : ℚ) ^ fraction.length ≠ 0 := by positivity
  rw [value, add_eq_zero_iff_of_nonneg (Nat.cast_nonneg _) behind, div_eq_zero_iff,
    or_iff_left scale, Nat.cast_eq_zero, Nat.cast_eq_zero, Text.digitsValue_eq_zero_iff wholeDigits,
    Text.digitsValue_eq_zero_iff fractionDigits, List.forall_mem_append]

theorem isZero_of_written {amount : String}
    (written : Written (Text.trim amount).toList whole fraction) :
    isZero amount = .ok ((whole ++ fraction).all (· == '0')) := by
  obtain ⟨same, numeral⟩ := written_iff.1 written
  have given : (Text.trim amount).isEmpty = false := by
    rw [String.isEmpty_eq_false_iff]
    intro none
    rw [none] at same
    cases same
    exact written.notEmpty rfl
  rw [isZero]
  simp only [given, numeral, same, Bool.false_eq_true, Bool.not_true, if_false]

theorem exists_written {amount : String} {zero : Bool} (taken : isZero amount = .ok zero) :
    ∃ whole fraction, Written (Text.trim amount).toList whole fraction := by
  unfold isZero at taken
  dsimp only at taken
  split at taken
  · cases taken
  split at taken
  · cases taken
  · rename_i numeral
    exact ⟨_, _, written_iff.2 ⟨rfl, by simpa using numeral⟩⟩

/-- An amount is taken just if it writes a number, and it is zero just if the number is. -/
theorem isZero_eq_ok_iff {amount : String} {zero : Bool} : isZero amount = .ok zero ↔
    ∃ whole fraction, Written (Text.trim amount).toList whole fraction ∧
      (zero = true ↔ value whole fraction = 0) := by
  have flag {whole fraction : List Char}
      (written : Written (Text.trim amount).toList whole fraction) :
      isZero amount = .ok zero ↔ (zero = true ↔ value whole fraction = 0) := by
    rw [isZero_of_written written, written.value_eq_zero_iff, Except.ok.injEq, eq_comm,
      Bool.eq_iff_iff, List.all_eq_true]
    simp only [beq_iff_eq]
  constructor
  · intro taken
    obtain ⟨whole, fraction, written⟩ := exists_written taken
    exact ⟨whole, fraction, written, (flag written).1 taken⟩
  · rintro ⟨whole, fraction, written, zero⟩
    exact (flag written).2 zero

/-- An amount that moves something. -/
def Positive (amount : String) : Prop :=
  ∃ whole fraction, Written (Text.trim amount).toList whole fraction ∧ 0 < value whole fraction

theorem isZero_eq_ok_false_iff {amount : String} : isZero amount = .ok false ↔ Positive amount := by
  rw [isZero_eq_ok_iff, Positive]
  refine exists₂_congr fun whole fraction => and_congr_right fun _ => ?_
  rw [Bool.false_eq_true, false_iff, (value_nonneg whole fraction).lt_iff_ne]
  exact ne_comm

section

variable {amount : String}

theorem isZero_of_blank (blank : Text.trim amount = "") : isZero amount = .error .absent := by
  rw [isZero, blank]
  rfl

/-- What is there but writes no number is named in the fault. -/
theorem isZero_of_unwritten (given : Text.trim amount ≠ "")
    (unwritten : ¬ ∃ whole fraction, Written (Text.trim amount).toList whole fraction) :
    isZero amount = .error (.notDecimal (Text.trim amount)) := by
  have some : (Text.trim amount).isEmpty = false := by rwa [String.isEmpty_eq_false_iff]
  have noNumeral : isNumeral (Text.trim amount).toList = false := by
    rw [← Bool.not_eq_true]
    exact fun numeral => unwritten ⟨_, _, written_iff.2 ⟨rfl, numeral⟩⟩
  rw [isZero]
  simp only [some, noNumeral, Bool.false_eq_true, Bool.not_false, if_false, if_true]

theorem isZero_eq_absent_iff : isZero amount = .error .absent ↔ Text.trim amount = "" := by
  refine ⟨fun failed => by_contra fun given => ?_, isZero_of_blank⟩
  by_cases written : ∃ whole fraction, Written (Text.trim amount).toList whole fraction
  · obtain ⟨whole, fraction, written⟩ := written
    rw [isZero_of_written written] at failed
    cases failed
  · rw [isZero_of_unwritten given written] at failed
    cases failed

theorem isZero_eq_notDecimal_iff {text : String} : isZero amount = .error (.notDecimal text) ↔
    Text.trim amount ≠ "" ∧
      (¬ ∃ whole fraction, Written (Text.trim amount).toList whole fraction) ∧
      text = Text.trim amount := by
  constructor
  · intro failed
    have given : Text.trim amount ≠ "" := by
      intro blank
      rw [isZero_of_blank blank] at failed
      cases failed
    have unwritten : ¬ ∃ whole fraction, Written (Text.trim amount).toList whole fraction := by
      rintro ⟨whole, fraction, written⟩
      rw [isZero_of_written written] at failed
      cases failed
    rw [isZero_of_unwritten given unwritten] at failed
    cases failed
    exact ⟨given, unwritten, rfl⟩
  · rintro ⟨given, unwritten, rfl⟩
    exact isZero_of_unwritten given unwritten

/-- The messages tell the faults apart. -/
theorem message_injective : Function.Injective Fault.message := by
  have absent : Fault.absent.message.toList.head? = some 'a' := by decide
  have notDecimal (text : String) :
      (Fault.notDecimal text).message.toList = "invalid amount: ".toList ++ text.toList :=
    String.toList_append
  rintro (_ | text) (_ | text') same
  · rfl
  · rw [same, notDecimal] at absent
    exact absurd absent (by simp)
  · rw [← same, notDecimal] at absent
    exact absurd absent (by simp)
  · have chars := congrArg String.toList same
    rw [notDecimal, notDecimal, List.append_cancel_left_eq, String.toList_inj] at chars
    rw [chars]

theorem mapError_message_eq_error_iff {fault : Fault} :
    (isZero amount).mapError Fault.message = .error fault.message ↔ isZero amount = .error fault := by
  rw [Outcome.mapError_eq_error_iff]
  constructor
  · rintro ⟨why, failed, same⟩
    rw [failed, message_injective same]
  · intro failed
    exact ⟨fault, failed, rfl⟩

end

/-- Every text gets one of three answers: that nothing is there, whether the number it writes is zero, or
that it writes none. -/
theorem isZero_exact (amount : String) :
    ((isZero amount).mapError Fault.message = .error "amount is required" ↔
      Text.trim amount = "") ∧
    (∀ zero, (isZero amount).mapError Fault.message = .ok zero ↔
      ∃ whole fraction, Written (Text.trim amount).toList whole fraction ∧
        (zero = true ↔ value whole fraction = 0)) ∧
    ((isZero amount).mapError Fault.message = .error ("invalid amount: " ++ Text.trim amount) ↔
      Text.trim amount ≠ "" ∧
        ¬ ∃ whole fraction, Written (Text.trim amount).toList whole fraction) := by
  refine ⟨?_, fun zero => ?_, ?_⟩
  · have message : Fault.absent.message = "amount is required" := rfl
    rw [← message, mapError_message_eq_error_iff, isZero_eq_absent_iff]
  · rw [Outcome.mapError_eq_ok_iff, isZero_eq_ok_iff]
  · have message : (Fault.notDecimal (Text.trim amount)).message =
        "invalid amount: " ++ Text.trim amount := rfl
    rw [← message, mapError_message_eq_error_iff, isZero_eq_notDecimal_iff, and_iff_left rfl]

end Amount

end Countersign
