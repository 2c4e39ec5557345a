import Countersign.Proofs.QueryPairs

/-! Pairs that are written into a query are read from it again, whatever characters they hold. -/
namespace Countersign

/-- An escape stands for the byte that its digits write. -/
theorem Percent.decode_escape {high low b : UInt8} (h : Hex.value? high = some (b.toNat / 16))
    (l : Hex.value? low = some (b.toNat % 16)) (rest : Bytes) :
    Percent.decode (0x25 :: high :: low :: rest) = b :: Percent.decode rest := by
  have whole : 16 * (b.toNat / 16) + b.toNat % 16 = b.toNat := by omega
  rw [Percent.decode.eq_1, h, l]
  dsimp only
  rw [whole, UInt8.ofNat_toNat]

namespace Form

/-- What a byte is written as never holds a mark that queries are cut at. -/
theorem mem_encodeByte {b : UInt8} : ∀ c ∈ encodeByte b, c ≠ '&' ∧ c ≠ '=' := by
  have plain : (encodeByte b).all (fun c => c ∉ ['&', '=']) = true :=
    forall_byte b (by decide +kernel)
  intro c member
  simpa using List.all_eq_true.1 plain c member

theorem mem_encodePart {part : String} {c : Char} (member : c ∈ encodePart part) :
    c ≠ '&' ∧ c ≠ '=' := by
  obtain ⟨b, _, here⟩ := List.mem_flatMap.1 member
  exact mem_encodeByte c here

/-- A byte that needs no escape, and the blank that is written as a plus sign. -/
theorem encodeByte_plain {b : UInt8} : isKept b = true ∨ b = 0x20 →
    (encodeChars (encodeByte b)).map plusAsBlank = [b] ∧ b ≠ 0x25 :=
  forall_byte b (by decide +kernel)

theorem encodeByte_escaped {b : UInt8} : isKept b = false → b ≠ 0x20 →
    (encodeChars (encodeByte b)).map plusAsBlank =
        [0x25, UInt8.ofNat (Hex.digit (b.toNat / 16)).toUpper.toNat,
          UInt8.ofNat (Hex.digit (b.toNat % 16)).toUpper.toNat] ∧
      Hex.value? (UInt8.ofNat (Hex.digit (b.toNat / 16)).toUpper.toNat) = some (b.toNat / 16) ∧
      Hex.value? (UInt8.ofNat (Hex.digit (b.toNat % 16)).toUpper.toNat) = some (b.toNat % 16) :=
  forall_byte b (by decide +kernel)

theorem decode_encodeByte (b : UInt8) (rest : Bytes) :
    Percent.decode ((encodeChars (encodeByte b)).map plusAsBlank ++ rest) =
      b :: Percent.decode rest := by
  by_cases plain : isKept b = true ∨ b = 0x20
  · obtain ⟨shape, noEscape⟩ := encodeByte_plain plain
    rw [shape, List.singleton_append, Percent.decode_cons noEscape]
  · rw [not_or, Bool.not_eq_true] at plain
    obtain ⟨shape, high, low⟩ := encodeByte_escaped plain.1 plain.2
    rw [shape]
    exact Percent.decode_escape high low rest

/-- Every text reads back from what it is written as in a query. -/
theorem decodePart_encodePart (part : String) :
    decodePart (encodeChars (encodePart part)) = part := by
  have bytes (l : Bytes) :
      Percent.decode ((encodeChars (l.flatMap encodeByte)).map plusAsBlank) = l := by
    induction l with
    | nil => rfl
    | cons b rest ih =>
      rw [List.flatMap_cons, encodeChars_append, List.map_append, decode_encodeByte, ih]
  rw [decodePart, encodePart, bytes]
  exact Utf8.decodeLossy_encode part

theorem unmarked_encodePart (part : String) : ∀ c ∈ encodePart part, (c != '=') = true := by
  intro c member
  simpa using (mem_encodePart member).2

theorem keyOf_encodePair (pair : String × String) : keyOf (encodePair pair) = pair.1 := by
  have stop : ('=' != '=') = false := by decide
  rw [keyOf, encodePair, takeWhile_append_cons (unmarked_encodePart pair.1) stop,
    decodePart_encodePart]

theorem valueOf_encodePair (pair : String × String) : valueOf (encodePair pair) = pair.2 := by
  have stop : ('=' != '=') = false := by decide
  rw [valueOf, encodePair, dropWhile_append_cons (unmarked_encodePart pair.1) stop, List.drop_one,
    List.tail_cons, decodePart_encodePart]

theorem encodePair_ne_nil (pair : String × String) : encodePair pair ≠ [] := by
  simp [encodePair]

/-- Behind what is there, pairs stand like further pieces. -/
theorem extend_of_ne_nil {query : List Char} (given : query ≠ []) (pairs : List (String × String)) :
    extend query pairs = List.intercalate ['&'] (query :: pairs.map encodePair) := by
  induction pairs generalizing query with
  | nil => simp [extend]
  | cons pair rest ih =>
    have step : extend query (pair :: rest) = extend (query ++ '&' :: encodePair pair) rest := by
      simp [extend, given]
    rw [step, ih (by simp), List.map_cons]
    cases rest with
    | nil => simp
    | cons other more => simp [List.intercalate_cons_cons]

/-- What a query is that holds these pairs and nothing else. -/
theorem extend_eq_intercalate (pairs : List (String × String)) :
    extend [] pairs = List.intercalate ['&'] (pairs.map encodePair) := by
  cases pairs with
  | nil => rfl
  | cons pair rest => exact extend_of_ne_nil (encodePair_ne_nil pair) rest

theorem splitOn_extend {pairs : List (String × String)} (some : pairs ≠ []) :
    (extend [] pairs).splitOn '&' = pairs.map encodePair := by
  rw [extend_eq_intercalate]
  apply List.splitOn_intercalate
  · intro piece written
    obtain ⟨pair, _, rfl⟩ := List.mem_map.1 written
    rw [encodePair, List.mem_append, List.mem_cons]
    rintro (key | equals | value)
    · exact (mem_encodePart key).1 rfl
    · cases equals
    · exact (mem_encodePart value).1 rfl
  · simpa using some

/-- Pairs are read from a query as they were written into it. -/
theorem decode_extend (pairs : List (String × String)) :
    decode (bytesOf (String.ofList (extend [] pairs))) = pairs := by
  by_cases none : pairs = []
  · subst none
    rfl
  have kept : (pairs.map encodePair).filter (!·.isEmpty) = pairs.map encodePair := by
    rw [List.filter_eq_self]
    intro piece written
    obtain ⟨pair, _, rfl⟩ := List.mem_map.1 written
    simpa using encodePair_ne_nil pair
  rw [decode_bytesOf, String.toList_ofList, splitOn_extend none, kept, List.map_map]
  refine (List.map_congr_left fun pair _ => ?_).trans (List.map_id _)
  rw [Function.comp_apply, keyOf_encodePair, valueOf_encodePair]
  rfl

/-- Pairs that are added are read behind those that were there. -/
theorem decode_extend_append (query : List Char) (pairs : List (String × String)) :
    decode (bytesOf (String.ofList (extend query pairs))) =
      decode (bytesOf (String.ofList query)) ++ pairs := by
  by_cases given : query = []
  · subst given
    exact decode_extend pairs
  cases pairs with
  | nil => simp [extend]
  | cons pair rest =>
    have cut : (extend query (pair :: rest)).splitOn '&' =
        query.splitOn '&' ++ (extend [] (pair :: rest)).splitOn '&' := by
      rw [extend_of_ne_nil given, extend_eq_intercalate, List.map_cons, List.intercalate_cons_cons,
        List.append_assoc, List.singleton_append, List.splitOn_append_cons_self]
    have read := decode_extend (pair :: rest)
    rw [decode_bytesOf, String.toList_ofList] at read ⊢
    rw [decode_bytesOf, String.toList_ofList, cut, List.filter_append, List.map_append, read]

/-- Where nothing but ampersands stands, no pair is read, and nowhere else. -/
theorem eq_ampersand_of_decode {query : List Char}
    (none : decode (bytesOf (String.ofList query)) = []) : ∀ c ∈ query, c = '&' := by
  rw [decode_bytesOf, String.toList_ofList, List.map_eq_nil_iff, List.filter_eq_nil_iff] at none
  intro c member
  have whole : List.intercalate ['&'] (query.splitOn '&') = query := List.intercalate_splitOn '&'
  rw [← whole] at member
  rcases mem_of_mem_intercalate member with same | ⟨piece, listed, inside⟩
  · exact same
  · obtain rfl : piece = [] := by simpa using none piece listed
    cases inside

end Form

end Countersign
