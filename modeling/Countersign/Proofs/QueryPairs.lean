import Countersign.Proofs.Encoding
import Countersign.Url.Form

/-! Queries read piece by piece. A pair is found under the key that its piece decodes to, and a key
without an escape is what it decodes to. -/
namespace Countersign

theorem marks_plus : Marks '+' 0x2b := .of_single rfl (by decide)

theorem marks_percent : Marks '%' 0x25 := .of_single rfl (by decide)

theorem encodeChars_eq_nil_iff {l : List Char} : encodeChars l = [] ↔ l = [] := by
  cases l with
  | nil => simp [encodeChars]
  | cons c rest => simp [encodeChars]

theorem Marks.mem_encodeChars_iff {sep : Char} {mark : UInt8} (marks : Marks sep mark)
    {l : List Char} : mark ∈ encodeChars l ↔ sep ∈ l := by
  constructor
  · intro member
    obtain ⟨c, inside, here⟩ := List.mem_flatMap.1 member
    by_cases same : c = sep
    · exact same ▸ inside
    · exact absurd here (marks.fresh c same)
  · intro inside
    exact List.mem_flatMap.2 ⟨sep, inside, by simp [marks.single]⟩

theorem Percent.decode_cons {b : UInt8} (plain : b ≠ 0x25) (rest : Bytes) :
    Percent.decode (b :: rest) = b :: Percent.decode rest := by
  rw [Percent.decode.eq_2]
  rintro high low others rfl
  exact absurd rfl plain

theorem Percent.decode_eq_self {bytes : Bytes} (plain : 0x25 ∉ bytes) :
    Percent.decode bytes = bytes := by
  induction bytes with
  | nil => rfl
  | cons b rest ih =>
    simp only [List.mem_cons, not_or] at plain
    rw [Percent.decode_cons (Ne.symm plain.1), ih plain.2]

namespace Form

/-- The key that a piece of a query decodes to. -/
def keyOf (piece : List Char) : String := decodePart (encodeChars (piece.takeWhile (· != '=')))

def valueOf (piece : List Char) : String :=
  decodePart (encodeChars ((piece.dropWhile (· != '=')).drop 1))

theorem decodePair_encodeChars (piece : List Char) :
    decodePair (encodeChars piece) = (keyOf piece, valueOf piece) := by
  have behind : (encodeChars (piece.dropWhile (· != '='))).drop 1 =
      encodeChars ((piece.dropWhile (· != '=')).drop 1) := by
    cases shape : piece.dropWhile (· != '=') with
    | nil => rfl
    | cons c rest =>
      have front : c = '=' := by
        have stop := List.head?_dropWhile_not (· != '=') piece
        rw [shape] at stop
        simpa using stop
      simp [front, encodeChars, marks_equals.single]
  rw [decodePair, marks_equals.takeWhile_encodeChars, marks_equals.dropWhile_encodeChars, behind]
  rfl

theorem decode_bytesOf (query : String) :
    decode (bytesOf query) =
      ((query.toList.splitOn '&').filter (!·.isEmpty)).map fun piece =>
        (keyOf piece, valueOf piece) := by
  have kept (piece : List Char) : (!(encodeChars piece).isEmpty) = !piece.isEmpty := by
    congr 1
    rw [Bool.eq_iff_iff, List.isEmpty_iff, List.isEmpty_iff]
    exact encodeChars_eq_nil_iff
  rw [decode, bytesOf_eq_encodeChars, marks_ampersand.splitOn_encodeChars, List.filter_map,
    List.map_map]
  simp only [Function.comp_def, kept, decodePair_encodeChars]

/-- The last piece under a key. -/
def last? (query key : String) : Option (List Char) :=
  (query.toList.splitOn '&').reverse.find? (keyOf · == key)

theorem get?_decode {query key : String} (named : key ≠ "") :
    get? (decode (bytesOf query)) key = (last? query key).map valueOf := by
  have folded (pieces : List (List Char)) :
      ((pieces.filter (!·.isEmpty)).map fun piece => (keyOf piece, valueOf piece)).lookup key =
        (pieces.find? (keyOf · == key)).map valueOf := by
    induction pieces with
    | nil => rfl
    | cons piece rest ih =>
      by_cases here : keyOf piece = key
      · have notEmpty : piece ≠ [] := by
          rintro rfl
          exact named here.symm
        simp [notEmpty, here]
      · have other : (key == keyOf piece) = false := by simpa using Ne.symm here
        rw [List.find?_cons_of_neg (by simpa using here), ← ih]
        cases piece with
        | nil => rfl
        | cons c more => simp [List.lookup_cons, other]
  rw [get?, decode_bytesOf, ← List.map_reverse, ← List.filter_reverse, folded]
  rfl

/-- A plus sign stands for a blank. -/
def blankOfPlus (c : Char) : Char := if c = '+' then ' ' else c

theorem map_plusAsBlank (l : List Char) :
    (encodeChars l).map plusAsBlank = encodeChars (l.map blankOfPlus) := by
  induction l with
  | nil => rfl
  | cons c rest ih =>
    have split (d : Char) (more : List Char) :
        encodeChars (d :: more) = String.utf8EncodeChar d ++ encodeChars more := rfl
    rw [split, List.map_append, ih, List.map_cons, split]
    congr 1
    by_cases plus : c = '+'
    · subst plus
      decide
    · rw [blankOfPlus, if_neg plus]
      refine (List.map_congr_left fun b member => ?_).trans (List.map_id _)
      have other : b ≠ 0x2b := fun same => marks_plus.fresh c plus (same ▸ member)
      simp [plusAsBlank, other]

/-- Without an escape only plus signs are read as anything else. -/
theorem decodePart_plain {l : List Char} (plain : '%' ∉ l) :
    decodePart (encodeChars l) = String.ofList (l.map blankOfPlus) := by
  have unescaped : 0x25 ∉ encodeChars (l.map blankOfPlus) := by
    rw [marks_percent.mem_encodeChars_iff, List.mem_map]
    rintro ⟨c, member, percent⟩
    rw [blankOfPlus] at percent
    split at percent
    · cases percent
    · exact plain (percent ▸ member)
  rw [decodePart, map_plusAsBlank, Percent.decode_eq_self unescaped, ← bytesOf_ofList]
  exact Utf8.decodeLossy_encode _

/-- A key that was not escaped and has no blank stands in the query as it is. -/
theorem takeWhile_eq_of_keyOf_eq {piece : List Char} {key : String}
    (plain : '%' ∉ piece.takeWhile (· != '=')) (noBlank : ' ' ∉ key.toList)
    (read : keyOf piece = key) : piece.takeWhile (· != '=') = key.toList := by
  rw [keyOf, decodePart_plain plain] at read
  rw [← read, String.toList_ofList] at noBlank ⊢
  symm
  refine (List.map_congr_left fun c member => ?_).trans (List.map_id _)
  rw [blankOfPlus]
  split
  · rename_i plus
    exact absurd (List.mem_map.2 ⟨c, member, by rw [blankOfPlus, if_pos plus]⟩) noBlank
  · rfl

end Form

end Countersign
