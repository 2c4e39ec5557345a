import Countersign.Proofs.HeaderValue

/-! Texts that headers show as they are: printable ASCII goes into a value and comes out again. Digests,
signatures and numbers are such texts. -/
namespace Countersign

namespace Headers

/-- A character of a value that is text: a tab, or printable ASCII. -/
def isTextChar (c : Char) : Bool := c == '\t' || (0x20 ≤ c.toNat && c.toNat < 0x7f)

/-- A text that a header shows as it is. -/
def IsText (s : String) : Prop := ∀ c ∈ s.toList, isTextChar c = true

instance (s : String) : Decidable (IsText s) :=
  decidable_of_iff (s.toList.all isTextChar = true) List.all_eq_true

/-- A character that a value may hold: a tab, or any that is no control of ASCII. -/
def isValueChar (c : Char) : Bool := c == '\t' || (0x20 ≤ c.toNat && c.toNat != 0x7f)

/-- A text that a header takes. -/
def IsValue (s : String) : Prop := ∀ c ∈ s.toList, isValueChar c = true

instance (s : String) : Decidable (IsValue s) :=
  decidable_of_iff (s.toList.all isValueChar = true) List.all_eq_true

theorem ascii_of_isTextChar {c : Char} (text : isTextChar c = true) : c.toNat < 128 := by
  rw [isTextChar, Bool.or_eq_true, beq_iff_eq, Bool.and_eq_true, decide_eq_true_eq,
    decide_eq_true_eq] at text
  rcases text with rfl | ⟨_, below⟩
  · decide
  · omega

theorem byte_of_isTextChar {c : Char} (text : isTextChar c = true) :
    isTextByte (UInt8.ofNat c.toNat) = true ∧ isValueChar c = true := by
  have ascii := ascii_of_isTextChar text
  revert text
  exact forall_ascii c ascii (by decide +kernel)

theorem IsText.isValue {s : String} (text : IsText s) : IsValue s :=
  fun c member => (byte_of_isTextChar (text c member)).2

/-- Beyond ASCII any byte will do. -/
theorem all_isValueByte_encodeChar (c : Char) :
    (String.utf8EncodeChar c).all isValueByte = isValueChar c := by
  by_cases ascii : c.toNat < 128
  · have byte : isValueByte (UInt8.ofNat c.toNat) = isValueChar c :=
      forall_ascii c ascii (by decide +kernel)
    rw [encodeChar_of_ascii ascii, List.all_cons, List.all_nil, Bool.and_true, byte]
  · have high := (encodeChar_cases c).resolve_left fun single => ascii single.2
    have bytes : (String.utf8EncodeChar c).all isValueByte = true := by
      rw [List.all_eq_true]
      intro b member
      have least := high b member
      revert least
      exact forall_byte b (by decide +kernel)
    have value : isValueChar c = true := by
      rw [isValueChar, Bool.or_eq_true, Bool.and_eq_true, decide_eq_true_eq, bne_iff_ne]
      exact .inr ⟨by omega, by omega⟩
    rw [bytes, value]

theorem valueOf?_eq_some_iff {s : String} {value : Bytes} :
    valueOf? s = some value ↔ IsValue s ∧ value = bytesOf s := by
  have all : (bytesOf s).all isValueByte = true ↔ IsValue s := by
    rw [bytesOf_eq_encodeChars, encodeChars, List.all_flatMap, IsValue, ← List.all_eq_true]
    simp only [all_isValueByte_encodeChar]
  rw [valueOf?, Option.ite_none_right_eq_some, Option.some.injEq, all, eq_comm]

theorem bytesOf_of_isText {s : String} (text : IsText s) :
    bytesOf s = s.toList.map fun c => UInt8.ofNat c.toNat := by
  have chars (l : List Char) (text : ∀ c ∈ l, isTextChar c = true) :
      encodeChars l = l.map fun c => UInt8.ofNat c.toNat := by
    induction l with
    | nil => rfl
    | cons c rest ih =>
      have first := ascii_of_isTextChar (text c List.mem_cons_self)
      have others := ih fun d member => text d (List.mem_cons_of_mem _ member)
      rw [encodeChars, List.flatMap_cons, encodeChar_of_ascii first, List.map_cons, ← others]
      rfl
  rw [bytesOf_eq_encodeChars, chars _ text]

theorem textOf?_of_isText {s : String} (text : IsText s) : textOf? (bytesOf s) = some s := by
  have all : (bytesOf s).all isTextByte = true := by
    rw [bytesOf_of_isText text, List.all_map, List.all_eq_true]
    intro c member
    exact (byte_of_isTextChar (text c member)).1
  have back : (bytesOf s).map (fun b => Char.ofNat b.toNat) = s.toList := by
    rw [bytesOf_of_isText text, List.map_map]
    refine (List.map_congr_left fun c member => ?_).trans (List.map_id _)
    have small := ascii_of_isTextChar (text c member)
    rw [Function.comp_apply, toNat_byte_of_ascii small, Char.ofNat_toNat]
    rfl
  rw [textOf?, if_pos all, back, String.ofList_toList]

theorem char_of_isTextByte {b : UInt8} : isTextByte b = true →
    isTextChar (Char.ofNat b.toNat) = true ∧ UInt8.ofNat (Char.ofNat b.toNat).toNat = b :=
  forall_byte b (by decide +kernel)

theorem isText_of_textOf? {value : Bytes} {t : String} (read : textOf? value = some t) : IsText t := by
  rw [textOf?, Option.ite_none_right_eq_some, Option.some.injEq] at read
  obtain ⟨all, rfl⟩ := read
  intro c member
  rw [String.toList_ofList, List.mem_map] at member
  obtain ⟨b, inside, rfl⟩ := member
  exact (char_of_isTextByte (List.all_eq_true.1 all b inside)).1

/-- If the bytes of a text are read as text, it is that text. -/
theorem eq_of_textOf?_bytesOf {s t : String} (read : textOf? (bytesOf s) = some t) : t = s := by
  have text := isText_of_textOf? read
  rw [textOf?, Option.ite_none_right_eq_some, Option.some.injEq] at read
  obtain ⟨all, rfl⟩ := read
  apply bytesOf_injective
  rw [bytesOf_of_isText text, String.toList_ofList, List.map_map]
  exact (List.map_congr_left fun b inside =>
    (char_of_isTextByte (List.all_eq_true.1 all b inside)).2).trans (List.map_id _)

theorem textOf?_bytesOf_eq_some_iff {s t : String} :
    textOf? (bytesOf s) = some t ↔ IsText s ∧ t = s := by
  constructor
  · intro read
    obtain rfl := eq_of_textOf?_bytesOf read
    exact ⟨isText_of_textOf? read, rfl⟩
  · rintro ⟨text, rfl⟩
    exact textOf?_of_isText text

end Headers

namespace Text

/-- A whole number reads back as it was written, whatever its sign. -/
theorem integer?_ofInt (n : Int) : integer? (ofInt n).toList = some n := by
  rw [ofInt, String.toList_ofList]
  split
  · rename_i negative
    have value : -Int.ofNat n.natAbs = n := by
      rw [Int.ofNat_eq_natCast]
      omega
    rw [integer?, natural?_decimal, Option.map_some, value]
  · rename_i positive
    have value : Int.ofNat n.natAbs = n := by
      rw [Int.ofNat_eq_natCast]
      omega
    have read := natural?_decimal n.natAbs
    have digits := List.all_eq_true.1 (all_isDigit_decimal n.natAbs)
    generalize decimal n.natAbs = l at read digits
    -- The first character is a digit, so neither sign is taken off.
    unfold integer?
    split
    · exact absurd (digits _ List.mem_cons_self) (by decide)
    · exact absurd (digits _ List.mem_cons_self) (by decide)
    · rw [read, Option.map_some, value]

theorem int64?_ofInt {n : Int} (low : int64Min ≤ n) (high : n ≤ int64Max) :
    int64? (ofInt n) = some n := by
  rw [int64?, integer?_ofInt]
  simp [low, high]

theorem isTextChar_of_isDigit {c : Char} (digit : isDigit c = true) :
    Headers.isTextChar c = true ∧ c ≠ '"' := by
  rw [isDigit, Bool.and_eq_true, decide_eq_true_eq, decide_eq_true_eq] at digit
  have low : 48 ≤ c.toNat := digit.1
  have high : c.toNat ≤ 57 := digit.2
  constructor
  · rw [Headers.isTextChar, Bool.or_eq_true, Bool.and_eq_true, decide_eq_true_eq, decide_eq_true_eq]
    exact .inr ⟨by omega, by omega⟩
  · rintro rfl
    exact absurd low (by decide)

theorem mem_ofInt {n : Int} {c : Char} (member : c ∈ (ofInt n).toList) :
    c = '-' ∨ isDigit c = true := by
  have digits := List.all_eq_true.1 (all_isDigit_decimal n.natAbs)
  rw [ofInt, String.toList_ofList] at member
  split at member
  · rcases List.mem_cons.1 member with sign | digit
    · exact .inl sign
    · exact .inr (digits c digit)
  · exact .inr (digits c member)

end Text

namespace Base64

theorem isTextChar_of_mem_digits {bytes : Bytes} {c : Char} (member : c ∈ digits bytes) :
    Headers.isTextChar c = true := by
  have all : ∀ n < 64, Headers.isTextChar (digit n) = true := by decide
  rcases mem_digits member with rfl | ⟨n, bound, rfl⟩
  · decide
  · exact all n bound

end Base64

namespace Signature

theorem Labelled.isText_render {l : Labelled} (label : Headers.IsText l.label) :
    Headers.IsText l.render := by
  intro c member
  rw [toList_render] at member
  simp only [List.mem_append, List.mem_cons, List.not_mem_nil, or_false] at member
  rcases member with inLabel | rfl | (rfl | digit) | rfl
  · exact label c inLabel
  · decide
  · decide
  · exact Base64.isTextChar_of_mem_digits digit
  · decide

end Signature

end Countersign
