import Mathlib.Algebra.Group.Nat.Defs
import Countersign.Proofs.HeaderValue
import Countersign.Proofs.Outcome

/-! How bytes are spelled in header values. A row of bytes has one spelling in base64, and a value
reads just if it is a label, an equals sign and that spelling between colons. -/
namespace Countersign

namespace Base64

/-! ### The standard -/

/-- The digits in the order of their values. -/
def alphabet : List Char :=
  "ABCDEFGHIJKLMNOPQRSTUVWXYZabcdefghijklmnopqrstuvwxyz0123456789+/".toList

/-- The last binary digits of a number, the high ones first. -/
def bits : Nat → Nat → List Nat
  | 0, _ => []
  | width + 1, n => bits width (n / 2) ++ [n % 2]

/-- The bits of the bytes, filled up with zeros to a whole number of digits of six bits each. For each
two zeros stands one padding sign. -/
structure Standard (bytes : Bytes) (values : List Nat) (pads : Nat) (text : List Char) : Prop where
  filled : values.flatMap (bits 6) =
    bytes.flatMap (fun b => bits 8 b.toNat) ++ List.replicate (2 * pads) 0
  short : pads < 3
  written : ∃ front, values.map (alphabet[·]?) = front.map some ∧
    text = front ++ List.replicate pads '='

/-- The text spells the bytes as the standard has it. -/
def Spells (text : List Char) (bytes : Bytes) : Prop := ∃ values pads, Standard bytes values pads text

theorem getElem?_alphabet {n : Nat} (h : n < 64) : alphabet[n]? = some (digit n) := by
  revert n; decide

theorem length_bits (width n : Nat) : (bits width n).length = width := by
  induction width generalizing n with
  | zero => rfl
  | succ width ih => simp [bits, ih]

/-- Numbers below a power of two are told apart by their bits. -/
theorem bits_injective {width m n : Nat} (hm : m < 2 ^ width) (hn : n < 2 ^ width)
    (same : bits width m = bits width n) : m = n := by
  induction width generalizing m n with
  | zero => omega
  | succ width ih =>
    obtain ⟨front, last⟩ := List.append_inj same (by simp [length_bits])
    have halves := ih (by omega) (by omega) front
    simp at last
    omega

theorem length_flatMap_bits {α : Type} (width : Nat) (value : α → Nat) (l : List α) :
    (l.flatMap fun x => bits width (value x)).length = width * l.length := by
  induction l with
  | nil => rfl
  | cons x rest ih =>
    simp [length_bits, ih, Nat.mul_add, Nat.add_comm]

theorem flatMap_bits_injective {width : Nat} {values values' : List Nat}
    (small : ∀ v ∈ values, v < 2 ^ width) (small' : ∀ v ∈ values', v < 2 ^ width)
    (lengths : values.length = values'.length)
    (same : values.flatMap (bits width) = values'.flatMap (bits width)) : values = values' := by
  induction values generalizing values' with
  | nil => simpa [eq_comm] using lengths
  | cons v rest ih =>
    cases values' with
    | nil => simp at lengths
    | cons v' rest' =>
      simp only [List.flatMap_cons] at same
      obtain ⟨front, others⟩ := List.append_inj same (by simp [length_bits])
      simp only [List.mem_cons, forall_eq_or_imp] at small small'
      rw [bits_injective small.1 small'.1 front,
        ih small.2 small'.2 (by simpa using lengths) others]

namespace Standard

variable {bytes : Bytes} {values values' : List Nat} {pads pads' : Nat} {text text' : List Char}

theorem small (spelled : Standard bytes values pads text) : ∀ v ∈ values, v < 64 := by
  obtain ⟨front, shown, _⟩ := spelled.written
  intro v member
  have here : alphabet[v]? ∈ front.map some := shown ▸ List.mem_map_of_mem member
  obtain ⟨c, _, found⟩ := List.mem_map.1 here
  obtain ⟨inside, _⟩ := List.getElem?_eq_some_iff.1 found.symm
  exact inside

/-- The padding fills the last group of four signs. -/
theorem length (spelled : Standard bytes values pads text) :
    3 * values.length = 4 * bytes.length + pads ∧ text.length = values.length + pads := by
  obtain ⟨front, shown, rfl⟩ := spelled.written
  have count := congrArg List.length spelled.filled
  have shownCount := congrArg List.length shown
  rw [length_flatMap_bits 6 (fun v => v), List.length_append, length_flatMap_bits,
    List.length_replicate] at count
  simp at shownCount ⊢
  omega

/-- There is one standard spelling. -/
theorem unique (spelled : Standard bytes values pads text)
    (spelled' : Standard bytes values' pads' text') : text = text' := by
  have lengths := spelled.length.1
  have lengths' := spelled'.length.1
  have short := spelled.short
  have short' := spelled'.short
  obtain rfl : pads = pads' := by omega
  obtain rfl : values = values' := by
    have sameBits : values.flatMap (bits 6) = values'.flatMap (bits 6) := by
      rw [spelled.filled, spelled'.filled]
    exact flatMap_bits_injective spelled.small spelled'.small (by omega) sameBits
  obtain ⟨front, shown, rfl⟩ := spelled.written
  obtain ⟨front', shown', rfl⟩ := spelled'.written
  have fronts : front = front' := by
    rw [shown] at shown'
    exact List.map_injective_iff.2 (fun _ _ => Option.some.inj) shown'
  rw [fronts]

end Standard

/-! ### The codec meets it -/

/-- Three bytes and four digits hold the same bits. -/
theorem bits_group (a : Nat) {b c : Nat} (hb : b < 256) (hc : c < 256) :
    bits 6 (a / 4) ++ bits 6 (a % 4 * 16 + b / 16) ++ bits 6 (b % 16 * 4 + c / 64) ++
      bits 6 (c % 64) = bits 8 a ++ bits 8 b ++ bits 8 c := by
  simp only [bits, List.nil_append, List.cons_append, List.cons.injEq, and_true]
  omega

/-- What is written is the standard spelling. -/
theorem spells_digits (bytes : Bytes) : Spells (digits bytes) bytes := by
  have bound (b : UInt8) : b.toNat < 256 := b.toNat_lt
  induction bytes using digits.induct with
  | case1 => exact ⟨[], 0, rfl, by omega, [], rfl, rfl⟩
  | case2 a =>
    have := bound a
    have group := bits_group a.toNat (b := 0) (c := 0) (by omega) (by omega)
    refine ⟨[a.toNat / 4, a.toNat % 4 * 16], 2, by simpa [bits] using group, by omega,
      [digit (a.toNat / 4), digit (a.toNat % 4 * 16)], ?_, rfl⟩
    simp only [List.map_cons, List.map_nil]
    rw [getElem?_alphabet (by omega), getElem?_alphabet (by omega)]
  | case3 a b =>
    have := bound a
    have := bound b
    have group := bits_group a.toNat (c := 0) (bound b) (by omega)
    refine ⟨[a.toNat / 4, a.toNat % 4 * 16 + b.toNat / 16, b.toNat % 16 * 4], 1,
      by simpa [bits] using group, by omega,
      [digit (a.toNat / 4), digit (a.toNat % 4 * 16 + b.toNat / 16), digit (b.toNat % 16 * 4)], ?_,
      rfl⟩
    simp only [List.map_cons, List.map_nil]
    rw [getElem?_alphabet (by omega), getElem?_alphabet (by omega), getElem?_alphabet (by omega)]
  | case4 a b c rest ih =>
    have := bound a
    have := bound b
    have := bound c
    obtain ⟨values, pads, filled, short, front, shown, written⟩ := ih
    have group := bits_group a.toNat (bound b) (bound c)
    refine ⟨a.toNat / 4 :: (a.toNat % 4 * 16 + b.toNat / 16) ::
      (b.toNat % 16 * 4 + c.toNat / 64) :: (c.toNat % 64) :: values, pads, ?_, short,
      digit (a.toNat / 4) :: digit (a.toNat % 4 * 16 + b.toNat / 16) ::
        digit (b.toNat % 16 * 4 + c.toNat / 64) :: digit (c.toNat % 64) :: front, ?_, ?_⟩
    · simp only [List.flatMap_cons, filled]
      simp only [← List.append_assoc, group]
    · simp only [List.map_cons]
      rw [getElem?_alphabet (by omega), getElem?_alphabet (by omega), getElem?_alphabet (by omega),
        getElem?_alphabet (by omega), shown]
    · simp [digits, written]

/-- A text spells bytes as the standard has it just if it is what is written for them. -/
theorem spells_iff {text : List Char} {bytes : Bytes} : Spells text bytes ↔ text = digits bytes := by
  constructor
  · rintro ⟨values, pads, spelled⟩
    obtain ⟨values', pads', written⟩ := spells_digits bytes
    exact spelled.unique written
  · rintro rfl
    exact spells_digits bytes

/-- A digit has the value that is read off it. -/
theorem eq_digit_of_value? {c : Char} {n : Nat} (read : value? c = some n) : n < 64 ∧ c = digit n := by
  have back (code : Nat) (same : code = c.toNat) : c = Char.ofNat code := by
    rw [same, Char.ofNat_toNat]
  unfold value? at read
  simp only [Bool.and_eq_true, decide_eq_true_eq] at read
  unfold digit
  split at read
  · simp only [Option.some.injEq] at read
    exact ⟨by omega, back _ (by rw [if_pos (by omega)]; omega)⟩
  split at read
  · simp only [Option.some.injEq] at read
    exact ⟨by omega, back _ (by rw [if_neg (by omega), if_pos (by omega)]; omega)⟩
  split at read
  · simp only [Option.some.injEq] at read
    exact ⟨by omega, back _ (by
      rw [if_neg (by omega), if_neg (by omega), if_pos (by omega)]; omega)⟩
  split at read
  · simp only [Option.some.injEq] at read
    subst read
    exact ⟨by omega, back _ (by simp; omega)⟩
  split at read
  · simp only [Option.some.injEq] at read
    subst read
    exact ⟨by omega, back _ (by simp; omega)⟩
  cases read

theorem toNat_ofNat_of_lt {n : Nat} (h : n < 256) : (UInt8.ofNat n).toNat = n := by
  rw [UInt8.toNat_ofNat']
  omega

/-- Only what is written for some bytes is read, and as those. -/
theorem eq_digits_of_bytes? {text : List Char} {bytes : Bytes} (read : bytes? text = some bytes) :
    text = digits bytes := by
  induction text using bytes?.induct generalizing bytes with
  | case1 =>
    rw [bytes?.eq_1, Option.some.injEq] at read
    rw [← read, digits]
  | case2 a b =>
    rw [bytes?.eq_2] at read
    simp only [Option.bind_eq_bind, Option.bind_eq_some_iff, Option.ite_none_right_eq_some] at read
    obtain ⟨m, first, n, second, zeros, whole⟩ := read
    obtain ⟨hm, rfl⟩ := eq_digit_of_value? first
    obtain ⟨hn, rfl⟩ := eq_digit_of_value? second
    obtain rfl := Option.some.inj whole
    have first' : (m * 4 + n / 16) / 4 = m := by omega
    have second' : (m * 4 + n / 16) % 4 * 16 = n := by omega
    rw [digits, toNat_ofNat_of_lt (by omega), first', second']
  | case3 a b c other =>
    rw [bytes?.eq_3 _ _ _ other] at read
    simp only [Option.bind_eq_bind, Option.bind_eq_some_iff, Option.ite_none_right_eq_some] at read
    obtain ⟨m, first, n, second, k, third, zeros, whole⟩ := read
    obtain ⟨hm, rfl⟩ := eq_digit_of_value? first
    obtain ⟨hn, rfl⟩ := eq_digit_of_value? second
    obtain ⟨hk, rfl⟩ := eq_digit_of_value? third
    obtain rfl := Option.some.inj whole
    have first' : (m * 4 + n / 16) / 4 = m := by omega
    have second' : (m * 4 + n / 16) % 4 * 16 + (n % 16 * 16 + k / 4) / 16 = n := by omega
    have third' : (n % 16 * 16 + k / 4) % 16 * 4 = k := by omega
    rw [digits, toNat_ofNat_of_lt (by omega), toNat_ofNat_of_lt (by omega), first', second', third']
  | case4 a b c d rest noTwo noOne ih =>
    rw [bytes?.eq_4 _ _ _ _ _ noTwo noOne] at read
    simp only [Option.bind_eq_bind, Option.bind_eq_some_iff] at read
    obtain ⟨m, first, n, second, k, third, l, fourth, later, others, whole⟩ := read
    obtain ⟨hm, rfl⟩ := eq_digit_of_value? first
    obtain ⟨hn, rfl⟩ := eq_digit_of_value? second
    obtain ⟨hk, rfl⟩ := eq_digit_of_value? third
    obtain ⟨hl, rfl⟩ := eq_digit_of_value? fourth
    obtain rfl := Option.some.inj whole
    have first' : (m * 4 + n / 16) / 4 = m := by omega
    have second' : (m * 4 + n / 16) % 4 * 16 + (n % 16 * 16 + k / 4) / 16 = n := by omega
    have third' : (n % 16 * 16 + k / 4) % 16 * 4 + (k % 4 * 64 + l) / 64 = k := by omega
    have fourth' : (k % 4 * 64 + l) % 64 = l := by omega
    rw [digits, toNat_ofNat_of_lt (by omega), toNat_ofNat_of_lt (by omega),
      toNat_ofNat_of_lt (by omega), first', second', third', fourth', ih others]
  | case5 text empty two one group =>
    rw [bytes?.eq_5 _ empty two one group] at read
    cases read

end Base64

namespace Text

/-- What is dropped at the ends are marks. -/
theorem exists_eq_surrounded (mark : Char) (l : List Char) :
    ∃ i j, l = List.replicate i mark ++ dropEnds (· == mark) l ++ List.replicate j mark := by
  obtain ⟨front, back, before, behind, whole⟩ := exists_around (· == mark) l
  have marks {l : List Char} (all : ∀ c ∈ l, (c == mark) = true) :
      l = List.replicate l.length mark :=
    List.eq_replicate_of_mem fun c member => beq_iff_eq.1 (all c member)
  exact ⟨front.length, back.length, by rwa [← marks before, ← marks behind]⟩

/-- The same text but for how many marks stand around its core. -/
def SameWithin (mark : Char) (s t : String) : Prop :=
  ∃ front core i j i' j', mark ∉ core ∧
    s.toList = front ++ (List.replicate i mark ++ core ++ List.replicate j mark) ∧
    t.toList = front ++ (List.replicate i' mark ++ core ++ List.replicate j' mark)

end Text

namespace Signature.Labelled

/-- The label, an equals sign, and the bytes in base64 with `i` colons before and `j` behind. -/
def surrounded (l : Labelled) (i j : Nat) : String :=
  l.label ++ "=" ++ String.ofList (List.replicate i ':') ++ Base64.encode l.bytes ++
    String.ofList (List.replicate j ':')

theorem toList_surrounded (l : Labelled) (i j : Nat) :
    (l.surrounded i j).toList = l.label.toList ++
      '=' :: (List.replicate i ':' ++ Base64.digits l.bytes ++ List.replicate j ':') := by
  simp [surrounded, Base64.encode, String.toList_append]

theorem render_eq_surrounded (l : Labelled) : l.render = l.surrounded 1 1 := by
  apply String.toList_inj.1
  simp [toList_render, toList_surrounded]

theorem read_eq_ok_iff {value : String} {l : Labelled} :
    read value = .ok l ↔ '=' ∉ l.label.toList ∧ ∃ i j, value = l.surrounded i j := by
  constructor
  · intro found
    have plain := (label_of_read found).1
    unfold read at found
    split at found
    · cases found
    rename_i label encoded cut
    split at found
    · cases found
    rename_i bytes decoded
    cases found
    obtain ⟨i, j, whole⟩ := Text.exists_eq_surrounded ':' encoded
    rw [Base64.eq_digits_of_bytes? decoded] at whole
    refine ⟨plain, i, j, String.toList_inj.1 ?_⟩
    rw [toList_surrounded, (Text.cut_eq_some_iff.1 cut).1, whole]
    simp
  · rintro ⟨plain, i, j, rfl⟩
    have cut := Text.cut_eq_some_iff.2 ⟨toList_surrounded l i j, plain⟩
    have digits := Text.dropEnds_surrounded (Base64.not_mem_digits (.inl rfl) l.bytes) i j
    rw [read, cut]
    dsimp only
    rw [digits, Base64.bytes?_digits]
    simp

/-- A value without an equals sign has no label; whatever else does not read is no base64. -/
theorem read_eq_error_iff {value : String} {why : Malformation} :
    read value = .error why ↔
      ('=' ∉ value.toList ∧ why = .missingEquals) ∨
        ('=' ∈ value.toList ∧ (∀ l, read value ≠ .ok l) ∧ why = .badBase64) := by
  rcases shape : read value with fault | l
  · have equals : read value = .error .missingEquals ↔ '=' ∉ value.toList :=
      read_eq_missingEquals_iff
    have kind : fault = .missingEquals ∨ fault = .badBase64 := by
      unfold read at shape
      split at shape
      · cases shape
        exact .inl rfl
      split at shape
      · cases shape
        exact .inr rfl
      · cases shape
    rw [shape, Except.error.injEq] at equals
    rcases kind with rfl | rfl
    · simp [equals.1 rfl, eq_comm]
    · simp [Decidable.not_not.1 (mt equals.2 (by simp)), eq_comm]
  · have given : '=' ∈ value.toList := by
      apply Decidable.not_not.1
      intro absent
      rw [read_eq_missingEquals_iff.2 absent] at shape
      cases shape
    simp [given]

/-- The codec of digests and signatures accepts just its grammar. A value reads as a label and bytes if
it is the label, an equals sign and the standard base64 of the bytes between any number of colons; what
is written reads back, and values that read alike differ in those colons only. -/
theorem parse_exact (name : String) :
    (∀ value l, parse name value = .ok l ↔
      '=' ∉ l.label.toList ∧ ∃ i j, value = l.surrounded i j) ∧
    (∀ l, '=' ∉ l.label.toList → parse name l.render = .ok l) ∧
    (∀ value value' l, parse name value = .ok l → parse name value' = .ok l →
      Text.SameWithin ':' value value') ∧
    (∀ value fault, parse name value = .error fault ↔
      ('=' ∉ value.toList ∧ fault = .malformedHeader name .missingEquals) ∨
        ('=' ∈ value.toList ∧
          (∀ (l : Labelled) i j, '=' ∉ l.label.toList → value ≠ l.surrounded i j) ∧
          fault = .malformedHeader name .badBase64)) ∧
    ∀ bytes text, Base64.Spells text bytes ↔ text = (Base64.encode bytes).toList := by
  have grammar (value : String) (l : Labelled) : parse name value = .ok l ↔
      '=' ∉ l.label.toList ∧ ∃ i j, value = l.surrounded i j := by
    rw [parse, Outcome.mapError_eq_ok_iff, read_eq_ok_iff]
  refine ⟨grammar, ?_, ?_, ?_, ?_⟩
  · intro l plain
    exact (grammar _ l).2 ⟨plain, 1, 1, render_eq_surrounded l⟩
  · intro value value' l found found'
    obtain ⟨_, i, j, rfl⟩ := (grammar value l).1 found
    obtain ⟨_, i', j', rfl⟩ := (grammar value' l).1 found'
    refine ⟨l.label.toList ++ ['='], Base64.digits l.bytes, i, j, i', j',
      Base64.not_mem_digits (.inl rfl) _, ?_, ?_⟩
    · simp [toList_surrounded]
    · simp [toList_surrounded]
  · intro value fault
    have unread : (∀ l, read value ≠ .ok l) ↔
        ∀ (l : Labelled) i j, '=' ∉ l.label.toList → value ≠ l.surrounded i j := by
      simp only [ne_eq, read_eq_ok_iff, not_and, not_exists]
      exact ⟨fun none l i j plain => none l plain i j, fun none l plain i j => none l i j plain⟩
    rw [parse, Outcome.mapError_eq_error_iff]
    simp only [read_eq_error_iff, unread]
    constructor
    · rintro ⟨why, ⟨absent, rfl⟩ | ⟨given, none, rfl⟩, rfl⟩
      · exact .inl ⟨absent, rfl⟩
      · exact .inr ⟨given, none, rfl⟩
    · rintro (⟨absent, rfl⟩ | ⟨given, none, rfl⟩)
      · exact ⟨_, .inl ⟨absent, rfl⟩, rfl⟩
      · exact ⟨_, .inr ⟨given, none, rfl⟩, rfl⟩
  · intro bytes text
    rw [Base64.spells_iff, Base64.encode, String.toList_ofList]

/-- Any number of colons may stand around the base64. -/
theorem parse_exact_colons :
    parse signatureName "iam=:::AQI=:" = .ok ⟨"iam", [1, 2]⟩ ∧
      parse signatureName "iam=AQI=" = .ok ⟨"iam", [1, 2]⟩ ∧
      Text.SameWithin ':' "iam=:::AQI=:" "iam=AQI=" := by
  have many : parse signatureName "iam=:::AQI=:" = .ok ⟨"iam", [1, 2]⟩ :=
    ((parse_exact signatureName).1 _ _).2 ⟨by decide, 3, 1, by decide⟩
  have none : parse signatureName "iam=AQI=" = .ok ⟨"iam", [1, 2]⟩ :=
    ((parse_exact signatureName).1 _ _).2 ⟨by decide, 0, 0, by decide⟩
  exact ⟨many, none, (parse_exact signatureName).2.2.1 _ _ _ many none⟩

/-- Padding is not left out, and the bits that it leaves over are zero. -/
example : parse signatureName "iam=:AQI:" = .error (.malformedHeader signatureName .badBase64) ∧
    parse signatureName "iam=:AQJ=:" = .error (.malformedHeader signatureName .badBase64) := by
  decide

end Signature.Labelled

end Countersign
