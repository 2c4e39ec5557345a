import Countersign.Bytes.Hex
import Countersign.Proofs.Declared
import Countersign.Proofs.Outcome

/-! Hexadecimal text. It is read just if it is what the bytes are written as, in either case of the
letters. -/
namespace Countersign.Hex

/-- A hexadecimal digit of either case. -/
def isDigit (c : Char) : Bool :=
  Text.isDigit c || ('a' ≤ c && c ≤ 'f') || ('A' ≤ c && c ≤ 'F')

theorem isDigit_ascii {c : Char} (hex : isDigit c = true) : c.toNat < 128 := by
  have last : '9'.toNat = 57 ∧ 'f'.toNat = 102 ∧ 'F'.toNat = 70 := by decide
  have code (a b : Char) : a ≤ b ↔ a.toNat ≤ b.toNat := Iff.rfl
  simp only [isDigit, Text.isDigit, Bool.or_eq_true, Bool.and_eq_true, decide_eq_true_eq, code] at hex
  omega

/-- What is read as a digit is in lower case the digit that is written. -/
theorem digit_of_value? {b : UInt8} {n : Nat} (read : value? b = some n) :
    n < 16 ∧ b.toNat < 128 ∧ (Char.ofNat b.toNat).toLower = digit n := by
  have all : ∀ n ∈ value? b, n < 16 ∧ b.toNat < 128 ∧ (Char.ofNat b.toNat).toLower = digit n :=
    forall_byte b (by decide +kernel)
  exact all n read

/-- Lower case does not change which digit it is. -/
theorem value?_eq_some_iff {b : UInt8} {n : Nat} (small : n < 16) :
    value? b = some n ↔ (Char.ofNat b.toNat).toLower = digit n := by
  constructor
  · exact fun read => (digit_of_value? read).2.2
  · have all : ∀ n < 16, (Char.ofNat b.toNat).toLower = digit n → value? b = some n :=
      forall_byte b (by decide +kernel)
    exact all n small

theorem valueAt_eq_ok_iff {b : UInt8} {position n : Nat} :
    valueAt b position = .ok n ↔ value? b = some n := by
  unfold valueAt
  cases value? b <;> simp

/-- A byte is written by its halves. -/
theorem encodeByte_ofNat {high low : Nat} (smallHigh : high < 16) (smallLow : low < 16) :
    encodeByte (UInt8.ofNat (16 * high + low)) = [digit high, digit low] := by
  have code : (UInt8.ofNat (16 * high + low)).toNat = 16 * high + low := by
    rw [UInt8.toNat_ofNat']
    omega
  have front : (16 * high + low) / 16 = high := by omega
  have back : (16 * high + low) % 16 = low := by omega
  rw [encodeByte, code, front, back]

theorem length_flatMap_encodeByte (bytes : Bytes) :
    (bytes.flatMap encodeByte).length = 2 * bytes.length := by
  induction bytes with
  | nil => rfl
  | cons b rest ih =>
    rw [List.flatMap_cons, List.length_append, ih, encodeByte, List.length_cons]
    simp only [List.length_cons, List.length_nil]
    omega

/-- Pairs of digits are read just if they are what the bytes are written as. -/
theorem decodePairs_eq_ok_iff (position : Nat) {text bytes : Bytes} :
    decodePairs position text = .ok bytes ↔
      text.map (fun b => (Char.ofNat b.toNat).toLower) = bytes.flatMap encodeByte := by
  fun_induction decodePairs position text generalizing bytes with
  | case1 position high low rest ih =>
    simp only [Outcome.bind_eq_ok_iff, Outcome.pure_eq_ok_iff, valueAt_eq_ok_iff, List.map_cons]
    constructor
    · rintro ⟨h, readHigh, l, readLow, others, readRest, rfl⟩
      obtain ⟨smallHigh, _, lowerHigh⟩ := digit_of_value? readHigh
      obtain ⟨smallLow, _, lowerLow⟩ := digit_of_value? readLow
      rw [List.flatMap_cons, encodeByte_ofNat smallHigh smallLow, lowerHigh, lowerLow, ih.1 readRest]
      rfl
    · intro written
      cases bytes with
      | nil => cases written
      | cons b others =>
        rw [List.flatMap_cons, encodeByte, List.cons_append, List.cons_append, List.nil_append,
          List.cons.injEq, List.cons.injEq] at written
        obtain ⟨lowerHigh, lowerLow, rest⟩ := written
        have bound := b.toNat_lt
        have whole : 16 * (b.toNat / 16) + b.toNat % 16 = b.toNat := by omega
        refine ⟨_, (value?_eq_some_iff (by omega)).2 lowerHigh, _,
          (value?_eq_some_iff (by omega)).2 lowerLow, others, ih.2 rest, ?_⟩
        rw [whole, UInt8.ofNat_toNat]
  | case2 position b =>
    constructor
    · intro read
      cases read
    · intro written
      have lengths := congrArg List.length written
      rw [length_flatMap_encodeByte] at lengths
      simp only [List.map_cons, List.map_nil, List.length_cons, List.length_nil] at lengths
      omega
  | case3 position =>
    cases bytes with
    | nil => simp
    | cons b others => simp [encodeByte]

/-- The length is looked at first, and changes nothing. -/
theorem decodeBytes_eq_ok_iff {text bytes : Bytes} :
    decodeBytes text = .ok bytes ↔
      text.map (fun b => (Char.ofNat b.toNat).toLower) = bytes.flatMap encodeByte := by
  rw [decodeBytes, ← decodePairs_eq_ok_iff 0]
  split
  · rename_i odd
    constructor
    · exact nofun
    · intro read
      have lengths := congrArg List.length ((decodePairs_eq_ok_iff 0).1 read)
      rw [List.length_map, length_flatMap_encodeByte] at lengths
      omega
  · exact Iff.rfl

theorem toNat_digit : ∀ n < 16, (digit n).toNat < 128 := by decide

theorem isDigit_iff {c : Char} : isDigit c = true ↔ ∃ n < 16, c.toLower = digit n := by
  have both (ascii : c.toNat < 128) : isDigit c = true ↔ ∃ n < 16, c.toLower = digit n :=
    forall_ascii c ascii (by decide +kernel)
  constructor
  · exact fun hex => (both (isDigit_ascii hex)).1 hex
  · rintro ⟨n, small, lower⟩
    exact (both (Text.ascii_of_toLower (lower ▸ toNat_digit n small))).2 ⟨n, small, lower⟩

theorem mem_flatMap_encodeByte {bytes : Bytes} {c : Char} (member : c ∈ bytes.flatMap encodeByte) :
    ∃ n < 16, c = digit n := by
  obtain ⟨b, _, here⟩ := List.mem_flatMap.1 member
  have bound := b.toNat_lt
  simp only [encodeByte, List.mem_cons, List.not_mem_nil, or_false] at here
  rcases here with rfl | rfl
  · exact ⟨_, by omega, rfl⟩
  · exact ⟨_, by omega, rfl⟩

theorem map_toLower_encodeChars {l : List Char} (ascii : ∀ c ∈ l, c.toNat < 128) :
    (encodeChars l).map (fun b => (Char.ofNat b.toNat).toLower) = l.map Char.toLower := by
  induction l with
  | nil => rfl
  | cons c rest ih =>
    obtain ⟨first, others⟩ := List.forall_mem_cons.1 ascii
    rw [encodeChars_cons, encodeChar_of_ascii first, List.map_append, ih others]
    simp [toNat_byte_of_ascii first, Char.ofNat_toNat]

/-- A text is read as bytes just if in lower case it is what they are written as. -/
theorem decode_eq_ok_iff {text : String} {bytes : Bytes} :
    decode text = .ok bytes ↔ Text.lower text = encode bytes := by
  rw [decode, decodeBytes_eq_ok_iff, bytesOf_eq_encodeChars, Text.lower, encode, String.ofList_inj]
  constructor
  · intro written
    rw [← map_toLower_encodeChars, written]
    intro c inside
    have small (b : UInt8) (member : b ∈ encodeChars text.toList) : b.toNat < 128 := by
      have image := List.mem_map_of_mem (f := fun b : UInt8 => (Char.ofNat b.toNat).toLower) member
      rw [written] at image
      obtain ⟨n, few, lower⟩ := mem_flatMap_encodeByte image
      exact (digit_of_value? ((value?_eq_some_iff few).2 lower)).2.1
    rcases encodeChar_cases c with ⟨_, ascii⟩ | high
    · exact ascii
    · obtain ⟨b, member⟩ := List.exists_mem_of_ne_nil _ (String.utf8EncodeChar_ne_nil (c := c))
      have low := small b (List.mem_flatMap.2 ⟨c, inside, member⟩)
      have := high b member
      omega
  · intro written
    rw [map_toLower_encodeChars, written]
    intro c inside
    have image := List.mem_map_of_mem (f := Char.toLower) inside
    rw [written] at image
    obtain ⟨n, few, lower⟩ := mem_flatMap_encodeByte image
    exact Text.ascii_of_toLower (lower ▸ toNat_digit n few)

/-- Texts that are read are rows of digits, two for each byte. -/
theorem exists_decode_iff {text : String} (length : Nat) :
    (∃ bytes, decode text = .ok bytes ∧ bytes.length = length) ↔
      text.toList.length = 2 * length ∧ ∀ c ∈ text.toList, isDigit c = true := by
  simp only [decode_eq_ok_iff, Text.lower, encode, String.ofList_inj]
  generalize text.toList = l
  constructor
  · rintro ⟨bytes, written, rfl⟩
    refine ⟨?_, fun c inside => isDigit_iff.2 ?_⟩
    · rw [← length_flatMap_encodeByte, ← written, List.length_map]
    · have image := List.mem_map_of_mem (f := Char.toLower) inside
      rw [written] at image
      exact mem_flatMap_encodeByte image
  · rintro ⟨even, hex⟩
    induction length generalizing l with
    | zero => exact ⟨[], by simpa using even, rfl⟩
    | succ n ih =>
      obtain ⟨high, low, rest, rfl⟩ : ∃ high low rest, l = high :: low :: rest := by
        obtain ⟨high, tail, rfl⟩ := List.exists_cons_of_length_pos (l := l) (by omega)
        rw [List.length_cons] at even
        obtain ⟨low, rest, rfl⟩ := List.exists_cons_of_length_pos (l := tail) (by omega)
        exact ⟨high, low, rest, rfl⟩
      simp only [List.length_cons] at even
      simp only [List.forall_mem_cons] at hex
      obtain ⟨isHigh, isLow, others⟩ := hex
      obtain ⟨h, smallHigh, lowerHigh⟩ := isDigit_iff.1 isHigh
      obtain ⟨k, smallLow, lowerLow⟩ := isDigit_iff.1 isLow
      obtain ⟨bytes, written, rfl⟩ := ih rest (by omega) others
      refine ⟨UInt8.ofNat (16 * h + k) :: bytes, ?_, rfl⟩
      rw [List.map_cons, List.map_cons, List.flatMap_cons, encodeByte_ofNat smallHigh smallLow,
        lowerHigh, lowerLow, written]
      rfl

end Countersign.Hex
