import Countersign.Proofs.Loading
import Mathlib.Data.List.Induction

/-! Seeds of keys as text. A text is a number in hexadecimal, and the key is that number: how many zeros
stand in front, and in which case the letters are, does not count. -/
namespace Countersign

namespace Sha2

theorem ofBigEndian_append (bytes : Bytes) (b : UInt8) :
    ofBigEndian (bytes ++ [b]) = 256 * ofBigEndian bytes + b.toNat := by
  rw [ofBigEndian, List.foldl_append]
  rfl

/-- The last digit apart, a number is written as its quotient is. -/
theorem bigEndian_succ (count n : Nat) :
    bigEndian (count + 1) n = bigEndian count (n / 256) ++ [UInt8.ofNat n] := by
  have quotient (i : Nat) : n / Nat.pow 256 (i + 1) = n / 256 / Nat.pow 256 i := by
    rw [Nat.div_div_eq_div_mul, Nat.pow_eq, Nat.pow_eq, Nat.pow_succ']
  rw [bigEndian, List.range_succ_eq_map, List.reverse_cons, List.map_append, ← List.map_reverse,
    List.map_map, bigEndian]
  simp only [Function.comp_def, Nat.succ_eq_add_one, quotient]
  simp

/-- Bytes are written again as they were read. -/
theorem bigEndian_ofBigEndian (bytes : Bytes) :
    bigEndian bytes.length (ofBigEndian bytes) = bytes := by
  induction bytes using List.reverseRecOn with
  | nil => rfl
  | append_singleton bytes b ih =>
    have bound := b.toNat_lt
    have front : (256 * ofBigEndian bytes + b.toNat) / 256 = ofBigEndian bytes := by omega
    have last : UInt8.ofNat (256 * ofBigEndian bytes + b.toNat) = b := by
      rw [← UInt8.toNat_inj, UInt8.toNat_ofNat']
      omega
    rw [List.length_append, List.length_singleton, bigEndian_succ, ofBigEndian_append, front, ih, last]

end Sha2

namespace Hex

/-- What a digit counts, in either case. -/
def digitValue (c : Char) : Nat := "0123456789abcdef".toList.idxOf c.toLower

/-- The number that a row of digits writes; no digits write zero. -/
def number (digits : List Char) : Nat := digits.foldl (fun n c => 16 * n + digitValue c) 0

theorem digitValue_digit (n : Nat) (small : n < 16) : digitValue (digit n) = n := by
  revert n; decide

theorem number_map_toLower (l : List Char) : number (l.map Char.toLower) = number l := by
  rw [number, List.foldl_map]
  simp only [digitValue, Text.toLower_toLower, number]

theorem number_zeros (zeros : Nat) (l : List Char) :
    number (List.replicate zeros '0' ++ l) = number l := by
  have nothing : 16 * 0 + digitValue '0' = 0 := by decide
  induction zeros with
  | zero => rfl
  | succ more ih =>
    rw [List.replicate_succ, List.cons_append, number, List.foldl_cons, nothing]
    exact ih

example : number "00Af".toList = 175 := by decide

/-- Two digits count what their byte does. -/
theorem number_flatMap_encodeByte (bytes : Bytes) :
    number (bytes.flatMap encodeByte) = Sha2.ofBigEndian bytes := by
  induction bytes using List.reverseRecOn with
  | nil => rfl
  | append_singleton bytes b ih =>
    have bound := b.toNat_lt
    rw [List.flatMap_append, number, List.foldl_append, ← number, ih, Sha2.ofBigEndian_append]
    simp only [List.flatMap_cons, List.flatMap_nil, List.append_nil, encodeByte, List.foldl_cons,
      List.foldl_nil, digitValue_digit (b.toNat / 16) (by omega),
      digitValue_digit (b.toNat % 16) (by omega)]
    omega

theorem isBlank_of_isDigit {c : Char} (hex : isDigit c = true) : Text.isBlank c = false := by
  have ascii := isDigit_ascii hex
  revert hex
  exact forall_ascii c ascii (by decide +kernel)

end Hex

namespace SigningKey

/-- A seed as a text may write it: at most 64 digits between blanks, behind at most one `0x`. -/
structure Written (text : String) (digits : List Char) : Prop where
  shape : (Text.trim text).toList = digits ∨ (Text.trim text).toList = '0' :: 'x' :: digits
  hex : ∀ c ∈ digits, Hex.isDigit c = true
  length : digits.length ≤ 64

/-- The number that a text writes as a seed. -/
def Denotes (text : String) (n : Nat) : Prop := ∃ digits, Written text digits ∧ Hex.number digits = n

/-- A text that says the seed of a key in its own way: without some of the leading zeros, in either case
of the letters, behind at most one `0x` and between blanks. -/
structure Spells (text : String) (key : SigningKey) (front mark digits back : String) (zeros : Nat) :
    Prop where
  shape : text = front ++ (mark ++ digits) ++ back
  before : Text.allBlank front = true
  behind : Text.allBlank back = true
  marked : mark = "" ∨ mark = "0x"
  digits_eq : String.ofList (List.replicate zeros '0') ++ Text.lower digits = key.toHex

variable {text : String} {key : SigningKey} {digits : List Char}

theorem eq_of_seed_eq {other : SigningKey} (same : key.seed = other.seed) : key = other := by
  cases key
  cases other
  cases same
  rfl

theorem toList_toHex (key : SigningKey) : key.toHex.toList = key.seed.flatMap Hex.encodeByte :=
  String.toList_ofList

theorem written_iff : Written text digits ↔ (Key.digitsOf text).toList = digits ∧
    (∀ c ∈ digits, Hex.isDigit c = true) ∧ digits.length ≤ 64 := by
  constructor
  · rintro ⟨shape, hex, length⟩
    exact ⟨(Key.digitsOf_eq_iff hex).2 shape, hex, length⟩
  · rintro ⟨same, hex, length⟩
    exact ⟨(Key.digitsOf_eq_iff hex).1 same, hex, length⟩

/-- A text writes no more than one number. -/
theorem Denotes.unique {n m : Nat} (denotes : Denotes text n) (also : Denotes text m) : n = m := by
  obtain ⟨digits, written, rfl⟩ := denotes
  obtain ⟨digits', written', rfl⟩ := also
  rw [← (written_iff.1 written).1, (written_iff.1 written').1]

theorem toList_lower_padded (digits : String) : (Text.lower (padded digits)).toList =
    List.replicate (64 - digits.toList.length) '0' ++ digits.toList.map Char.toLower := by
  have zero : Char.toLower '0' = '0' := by decide
  rw [Text.lower, padded, String.toList_ofList, String.toList_ofList, List.map_append,
    List.map_replicate, zero]

theorem ofHex_eq_ok_iff_decode :
    ofHex text = .ok key ↔ Hex.decode (padded (Key.digitsOf text)) = .ok key.seed := by
  obtain ⟨seed, length⟩ := key
  unfold ofHex
  cases Hex.decode (padded (Key.digitsOf text)) with
  | error why => simp
  | ok read =>
    simp only [Outcome.dite_eq_ok_iff, Except.ok.injEq, mk.injEq]
    exact ⟨fun ⟨_, same⟩ => same, fun same => ⟨same ▸ length, same⟩⟩

/-- A text is read as a key just if its digits, filled up and in lower case, are those of the seed. -/
theorem ofHex_eq_ok_iff : ofHex text = .ok key ↔
    List.replicate (64 - (Key.digitsOf text).toList.length) '0' ++
      (Key.digitsOf text).toList.map Char.toLower = key.seed.flatMap Hex.encodeByte := by
  rw [ofHex_eq_ok_iff_decode, Hex.decode_eq_ok_iff, ← String.toList_inj, toList_lower_padded,
    ← toList_toHex, toHex]

theorem exists_ofHex_iff : (∃ key, ofHex text = .ok key) ↔ ∃ digits, Written text digits := by
  have decoded : (∃ key, ofHex text = .ok key) ↔
      ∃ bytes, Hex.decode (padded (Key.digitsOf text)) = .ok bytes ∧ bytes.length = 32 := by
    simp only [ofHex_eq_ok_iff_decode]
    exact ⟨fun ⟨key, read⟩ => ⟨key.seed, read, key.length_seed⟩,
      fun ⟨bytes, read, length⟩ => ⟨⟨bytes, length⟩, read⟩⟩
  have zero : Hex.isDigit '0' = true := by decide
  rw [decoded, Hex.exists_decode_iff, padded, String.toList_ofList, List.length_append,
    List.length_replicate, List.forall_mem_append]
  constructor
  · rintro ⟨length, _, hex⟩
    exact ⟨_, written_iff.2 ⟨rfl, hex, by omega⟩⟩
  · rintro ⟨digits, written⟩
    obtain ⟨rfl, hex, length⟩ := written_iff.1 written
    refine ⟨by omega, fun c member => ?_, hex⟩
    rwa [List.eq_of_mem_replicate member]

/-- The key that is read is the number that is written. -/
theorem denotes_of_ofHex (read : ofHex text = .ok key) :
    Denotes text (Sha2.ofBigEndian key.seed) := by
  obtain ⟨digits, written⟩ := exists_ofHex_iff.1 ⟨key, read⟩
  refine ⟨digits, written, ?_⟩
  have spelled := ofHex_eq_ok_iff.1 read
  rw [(written_iff.1 written).1] at spelled
  rw [← Hex.number_flatMap_encodeByte, ← spelled, Hex.number_zeros, Hex.number_map_toLower]

theorem seed_eq_bigEndian (key : SigningKey) :
    key.seed = Sha2.bigEndian 32 (Sha2.ofBigEndian key.seed) := by
  rw [← key.length_seed, Sha2.bigEndian_ofBigEndian]

theorem ofHex_eq_ok_iff_denotes :
    ofHex text = .ok key ↔ ∃ n, Denotes text n ∧ key.seed = Sha2.bigEndian 32 n := by
  constructor
  · intro read
    exact ⟨_, denotes_of_ofHex read, key.seed_eq_bigEndian⟩
  · rintro ⟨n, denotes, seed⟩
    -- Some key is read; its number is the one that is written, so that its seed is this one.
    obtain ⟨digits, written, _⟩ := id denotes
    obtain ⟨other, read⟩ := exists_ofHex_iff.2 ⟨digits, written⟩
    have number := (denotes_of_ofHex read).unique denotes
    have same : other.seed = key.seed := by rw [seed, ← number, ← other.seed_eq_bigEndian]
    rw [read, eq_of_seed_eq same]

section

variable {front mark digits back : String} {zeros : Nat}
  (spells : Spells text key front mark digits back zeros)
include spells

theorem Spells.seed_eq : List.replicate zeros '0' ++ digits.toList.map Char.toLower =
    key.seed.flatMap Hex.encodeByte := by
  rw [← toList_toHex, ← spells.digits_eq, String.toList_append, String.toList_ofList, Text.lower,
    String.toList_ofList]

theorem Spells.hex (c : Char) (member : c ∈ digits.toList) : Hex.isDigit c = true := by
  have lower := List.mem_append_right (List.replicate zeros '0')
    (List.mem_map_of_mem (f := Char.toLower) member)
  rw [spells.seed_eq] at lower
  exact Hex.isDigit_iff.2 (Hex.mem_flatMap_encodeByte lower)

theorem Spells.zeros_eq : 64 - digits.toList.length = zeros := by
  have length := congrArg List.length spells.seed_eq
  rw [Hex.length_flatMap_encodeByte, key.length_seed, List.length_append, List.length_replicate,
    List.length_map] at length
  omega

/-- What stands between the blanks is there in full. -/
theorem Spells.trim_eq : (Text.trim text).toList = mark.toList ++ digits.toList := by
  have solid (c : Char) (member : c ∈ mark.toList ++ digits.toList) : Text.isBlank c = false := by
    rcases List.mem_append.1 member with inMark | inDigits
    · rcases spells.marked with rfl | rfl
      · cases inMark
      · have letter : c = '0' ∨ c = 'x' := by simpa using inMark
        rcases letter with rfl | rfl <;> decide
    · exact Hex.isBlank_of_isDigit (spells.hex c inDigits)
  rw [spells.shape, Text.trim_around spells.before spells.behind, Text.toList_trim,
    String.toList_append, Text.dropEnds_eq_self solid]

/-- However the seed is spelled, it is the key that is read. -/
theorem Spells.ofHex_eq : ofHex text = .ok key := by
  have shown : (Key.digitsOf text).toList = digits.toList := by
    rw [Key.digitsOf_eq_iff spells.hex, spells.trim_eq]
    rcases spells.marked with rfl | rfl
    · exact .inl rfl
    · exact .inr (by simp)
  rw [ofHex_eq_ok_iff, shown, spells.zeros_eq, spells.seed_eq]

end

/-- Nothing else is read as the key. -/
theorem exists_spells (read : ofHex text = .ok key) :
    ∃ front mark digits back zeros, Spells text key front mark digits back zeros := by
  obtain ⟨digits, written⟩ := exists_ofHex_iff.1 ⟨key, read⟩
  have same := ofHex_eq_ok_iff.1 read
  rw [(written_iff.1 written).1] at same
  obtain ⟨front, back, before, behind, whole⟩ := Text.exists_trim_around text
  obtain ⟨mark, marked, core⟩ : ∃ mark, (mark = "" ∨ mark = "0x") ∧
      Text.trim text = mark ++ String.ofList digits := by
    simp only [← String.toList_inj, String.toList_append, String.toList_ofList]
    rcases written.shape with plain | behindMark
    · exact ⟨"", .inl rfl, plain⟩
    · exact ⟨"0x", .inr rfl, behindMark.trans (by simp)⟩
  refine ⟨front, mark, String.ofList digits, back, 64 - digits.length, ?_, before, behind, marked, ?_⟩
  · rw [← core, ← whole]
  · rw [← String.toList_inj, toList_toHex, ← same]
    simp [Text.lower]

theorem spells_toHex (key : SigningKey) : Spells key.toHex key "" "" key.toHex "" 0 := by
  have lower : Text.lower key.toHex = key.toHex := by
    have kept : ∀ n < 16, (Hex.digit n).toLower = Hex.digit n := by decide
    rw [Text.lower, ← String.toList_inj, String.toList_ofList, toList_toHex]
    refine (List.map_congr_left fun c member => ?_).trans (List.map_id _)
    obtain ⟨n, small, rfl⟩ := Hex.mem_flatMap_encodeByte member
    exact kept n small
  exact ⟨by simp, rfl, rfl, .inl rfl, by simp [lower]⟩

/-- A text is read as a key just if it writes a number of at most 64 digits, and the key is that number:
it is read from each spelling of its seed, and two texts are one key just if they are one number. -/
theorem ofHex_exact (text other : String) (key : SigningKey) :
    ((∃ read, ofHex text = .ok read) ↔ ∃ n, Denotes text n) ∧
    (ofHex text = .ok key ↔ ∃ n, Denotes text n ∧ key.seed = Sha2.bigEndian 32 n) ∧
    ofHex key.toHex = .ok key ∧
    (ofHex text = .ok key ↔
      ∃ front mark digits back zeros, Spells text key front mark digits back zeros) ∧
    ((∃ read, ofHex text = .ok read ∧ ofHex other = .ok read) ↔
      ∃ n, Denotes text n ∧ Denotes other n) := by
  refine ⟨?_, ofHex_eq_ok_iff_denotes, key.spells_toHex.ofHex_eq, ⟨exists_spells, ?_⟩, ?_⟩
  · rw [exists_ofHex_iff]
    constructor
    · rintro ⟨digits, written⟩
      exact ⟨_, digits, written, rfl⟩
    · rintro ⟨_, digits, written, _⟩
      exact ⟨digits, written⟩
  · rintro ⟨front, mark, digits, back, zeros, spells⟩
    exact spells.ofHex_eq
  · constructor
    · rintro ⟨key, read, readOther⟩
      exact ⟨_, denotes_of_ofHex read, denotes_of_ofHex readOther⟩
    · rintro ⟨n, denotes, also⟩
      exact ⟨⟨Sha2.bigEndian 32 n, Sha2.length_bigEndian 32 n⟩,
        ofHex_eq_ok_iff_denotes.2 ⟨n, denotes, rfl⟩, ofHex_eq_ok_iff_denotes.2 ⟨n, also, rfl⟩⟩

end SigningKey

end Countersign
