import Countersign.Proofs.FormText
import Countersign.Url.Parse

/-! What percent escapes stand for. Bytes are what they stand for just if no escape is among them, and
what a path escapes in addition is read back. -/
namespace Countersign

/-- Only the bytes of a text are read as this text. -/
theorem Utf8.decode?_eq_some_iff {bytes : Bytes} {s : String} :
    decode? bytes = some s ↔ bytes = bytesOf s := by
  constructor
  · intro read
    unfold decode? String.fromUTF8? at read
    split at read
    · cases read
      rfl
    · cases read
  · rintro rfl
    exact decode?_encode s

namespace Percent

/-- No percent sign has two hexadecimal digits behind it. -/
def Unescaped (bytes : Bytes) : Prop :=
  ∀ high low, [0x25, high, low] <:+: bytes → Hex.value? high = none ∨ Hex.value? low = none

theorem unescaped_cons_iff {b : UInt8} {rest : Bytes} : Unescaped (b :: rest) ↔
    (∀ high low, [0x25, high, low] <+: b :: rest → Hex.value? high = none ∨ Hex.value? low = none) ∧
      Unescaped rest := by
  simp only [Unescaped, List.infix_cons_iff, or_imp, forall_and]

theorem decode_of_unescaped {bytes : Bytes} (plain : Unescaped bytes) : decode bytes = bytes := by
  fun_induction decode bytes with
  | case1 high low rest h l isLow isHigh =>
    have front : [0x25, high, low] <+: 0x25 :: high :: low :: rest := ⟨rest, rfl⟩
    rcases (unescaped_cons_iff.1 plain).1 high low front with other | other
    · rw [isHigh] at other
      cases other
    · rw [isLow] at other
      cases other
  | case2 high low rest other ih => rw [ih (unescaped_cons_iff.1 plain).2]
  | case3 b rest other ih => rw [ih (unescaped_cons_iff.1 plain).2]
  | case4 => rfl

theorem length_decode_le (bytes : Bytes) : (decode bytes).length ≤ bytes.length := by
  fun_induction decode bytes with
  | case1 high low rest h l isLow isHigh ih =>
    simp only [List.length_cons]
    omega
  | case2 high low rest other ih => simpa using ih
  | case3 b rest other ih => simpa using ih
  | case4 => exact Nat.le_refl 0

/-- Each escape makes the bytes fewer. -/
theorem unescaped_of_length_decode {bytes : Bytes} (same : (decode bytes).length = bytes.length) :
    Unescaped bytes := by
  fun_induction decode bytes with
  | case1 high low rest h l isLow isHigh =>
    have := length_decode_le rest
    simp only [List.length_cons] at same
    omega
  | case2 high low rest other ih =>
    refine unescaped_cons_iff.2 ⟨?_, ih (by simpa using same)⟩
    rintro _ _ ⟨_, front⟩
    cases front
    cases isHigh : Hex.value? high with
    | none => exact .inl rfl
    | some h =>
      cases isLow : Hex.value? low with
      | none => exact .inr rfl
      | some l => exact absurd isLow (other h l isHigh)
  | case3 b rest other ih =>
    refine unescaped_cons_iff.2 ⟨?_, ih (by simpa using same)⟩
    rintro _ _ ⟨_, front⟩
    cases front
    exact absurd rfl (other _ _ _ rfl)
  | case4 => exact fun _ _ inside => absurd inside (by simp)

/-! ### What a path escapes -/

/-- The bytes that a byte of a path is written as. -/
def pathBytes (b : UInt8) : Bytes :=
  encodeChars (if inPath b then escapeByte b else [Char.ofNat b.toNat])

theorem encodeChars_encode (l : List Char) :
    encodeChars (encode inPath l) = (encodeChars l).flatMap pathBytes := by
  rw [encode, bytesOf_ofList, encodeBytes, encodeChars, List.flatMap_assoc]
  rfl

theorem pathBytes_of_kept {b : UInt8} : inPath b = false → pathBytes b = [b] :=
  forall_byte b (by decide +kernel)

/-- An escape that is written stands for its byte. -/
theorem pathBytes_of_escaped {b : UInt8} : inPath b = true → ∃ high low,
    pathBytes b = [0x25, high, low] ∧ Hex.value? high = some (b.toNat / 16) ∧
      Hex.value? low = some (b.toNat % 16) := by
  intro escaped
  have digits : pathBytes b = [0x25, UInt8.ofNat (Hex.digit (b.toNat / 16)).toUpper.toNat,
        UInt8.ofNat (Hex.digit (b.toNat % 16)).toUpper.toNat] ∧
      Hex.value? (UInt8.ofNat (Hex.digit (b.toNat / 16)).toUpper.toNat) = some (b.toNat / 16) ∧
      Hex.value? (UInt8.ofNat (Hex.digit (b.toNat % 16)).toUpper.toNat) = some (b.toNat % 16) := by
    revert escaped
    exact forall_byte b (by decide +kernel)
  exact ⟨_, _, digits⟩

/-- Digits are not escaped. -/
theorem pathBytes_of_digit {b : UInt8} {n : Nat} (digit : Hex.value? b = some n) :
    pathBytes b = [b] := by
  have kept : ∀ n ∈ Hex.value? b, inPath b = false := forall_byte b (by decide +kernel)
  exact pathBytes_of_kept (kept n digit)

/-- A percent sign stands for itself where no two digits follow. -/
theorem decode_percent_cons {bytes : Bytes}
    (other : ∀ high low rest, bytes = high :: low :: rest →
      Hex.value? high = none ∨ Hex.value? low = none) :
    decode (0x25 :: bytes) = 0x25 :: decode bytes := by
  match bytes with
  | [] => rfl
  | [b] => rfl
  | high :: low :: rest =>
    rw [decode.eq_1]
    rcases other high low rest rfl with none | none
    · rw [none]
    · rw [none]
      cases Hex.value? high <;> rfl

/-- A digit in front was one before. -/
theorem eq_cons_of_flatMap_pathBytes {bytes more : Bytes} {b : UInt8} {n : Nat}
    (shape : bytes.flatMap pathBytes = b :: more) (digit : Hex.value? b = some n) :
    ∃ rest, bytes = b :: rest ∧ more = rest.flatMap pathBytes := by
  cases bytes with
  | nil => cases shape
  | cons first rest =>
    rw [List.flatMap_cons] at shape
    cases escaped : inPath first with
    | true =>
      obtain ⟨high, low, written, _⟩ := pathBytes_of_escaped escaped
      rw [written] at shape
      cases shape
      cases digit
    | false =>
      rw [pathBytes_of_kept escaped] at shape
      cases shape
      exact ⟨rest, rfl, rfl⟩

/-- What a path escapes is read as if it had not been escaped: nothing that is written makes an escape of
a percent sign in front of it. -/
theorem decode_flatMap_pathBytes (bytes : Bytes) :
    decode (bytes.flatMap pathBytes) = decode bytes := by
  have percent : pathBytes 0x25 = [0x25] := by decide +kernel
  have behind {bytes : Bytes} (other : ∀ high low rest h l, bytes = high :: low :: rest →
      Hex.value? high = some h → Hex.value? low = some l → False) :
      decode (0x25 :: bytes.flatMap pathBytes) = 0x25 :: decode (bytes.flatMap pathBytes) := by
    apply decode_percent_cons
    intro high low more shape
    cases isHigh : Hex.value? high with
    | none => exact .inl rfl
    | some h =>
      cases isLow : Hex.value? low with
      | none => exact .inr rfl
      | some l =>
        obtain ⟨behind, rfl, tail⟩ := eq_cons_of_flatMap_pathBytes shape isHigh
        obtain ⟨rest, rfl, _⟩ := eq_cons_of_flatMap_pathBytes tail.symm isLow
        exact (other high low rest h l rfl isHigh isLow).elim
  fun_induction decode bytes with
  | case1 high low rest h l isLow isHigh ih =>
    rw [List.flatMap_cons, List.flatMap_cons, List.flatMap_cons, percent, pathBytes_of_digit isHigh,
      pathBytes_of_digit isLow]
    simp only [List.singleton_append, decode.eq_1, isHigh, isLow, ih]
  | case2 high low rest other ih =>
    rw [List.flatMap_cons, percent, List.singleton_append, behind, ih]
    rintro _ _ _ h l shape isHigh isLow
    cases shape
    exact other h l isHigh isLow
  | case3 b rest other ih =>
    rw [List.flatMap_cons]
    cases escaped : inPath b with
    | true =>
      obtain ⟨high, low, written, isHigh, isLow⟩ := pathBytes_of_escaped escaped
      rw [written, ← ih]
      exact decode_escape isHigh isLow _
    | false =>
      rw [pathBytes_of_kept escaped, List.singleton_append]
      by_cases isPercent : b = 0x25
      · subst isPercent
        rw [behind, ih]
        intro high low more _ _ shape _ _
        exact other high low more rfl shape
      · rw [decode_cons isPercent, ih]
  | case4 => rfl

/-- A segment of a path is read as its characters would be. -/
theorem decode_encode (l : List Char) :
    decode (encodeChars (encode inPath l)) = decode (encodeChars l) := by
  rw [encodeChars_encode, decode_flatMap_pathBytes]

end Percent
end Countersign
