import Countersign.Proofs.Escapes
import Countersign.Proofs.HexText
import Countersign.Proofs.Prepared

/-! Segments on their way through an address: what is escaped in them, which of them are resolved, and
which of them the gateway finds in its path. -/
namespace Countersign

namespace Percent

theorem mem_encode_inPath {l : List Char} {c : Char} (member : c ∈ encode inPath l) :
    (c.toNat < 128 ∧ Target.isPathByte (UInt8.ofNat c.toNat) = true) ∧ (c = '/' → '/' ∈ l) := by
  rw [encode, bytesOf_ofList] at member
  obtain ⟨b, inside, here⟩ := List.mem_flatMap.1 member
  have all : Target.Fits Target.isPathByte (if inPath b then escapeByte b else [Char.ofNat b.toNat]) ∧
      ('/' ∈ (if inPath b then escapeByte b else [Char.ofNat b.toNat]) → b = 0x2f) :=
    forall_byte b (by decide +kernel)
  refine ⟨all.1 c here, ?_⟩
  rintro rfl
  rw [all.2 here] at inside
  exact marks_slash.mem_encodeChars_iff.1 inside

theorem fits_encode_inSpecialQuery (l : List Char) :
    Target.Fits Target.isQueryByte (encode inSpecialQuery l) := by
  intro c member
  obtain ⟨b, _, here⟩ := List.mem_flatMap.1 member
  have all : Target.Fits Target.isQueryByte
      (if inSpecialQuery b then escapeByte b else [Char.ofNat b.toNat]) :=
    forall_byte b (by decide +kernel)
  exact all c here

/-- Slashes stay as they are in a query. -/
theorem slash_mem_encode_inSpecialQuery {l : List Char} (member : '/' ∈ l) :
    '/' ∈ encode inSpecialQuery l := by
  rw [encode, bytesOf_ofList]
  exact List.mem_flatMap.2 ⟨0x2f, marks_slash.mem_encodeChars_iff.2 member, by decide⟩

end Percent

namespace Url

/-- A dot is read where a dot stands. -/
theorem decode_of_dot {l rest : List Char} (front : l.map Char.toLower = '.' :: rest) :
    ∃ tail, tail.map Char.toLower = rest ∧
      Percent.decode (encodeChars l) = 0x2e :: Percent.decode (encodeChars tail) := by
  have spelled (c : Char) (ascii : c.toLower.toNat < 128) : c.toLower = '.' → c = '.' :=
    forall_ascii c (Text.ascii_of_toLower ascii) (by decide +kernel)
  obtain ⟨c, tail, rfl, isDot, behind⟩ := List.map_eq_cons_iff.1 front
  obtain rfl := spelled c (by rw [isDot]; decide) isDot
  have single : String.utf8EncodeChar '.' = [0x2e] := by decide
  refine ⟨tail, behind, ?_⟩
  rw [encodeChars_cons, single, List.singleton_append, Percent.decode_cons (by decide)]

/-- A dot is read where an escape of it stands. -/
theorem decode_of_escapedDot {l rest : List Char}
    (front : l.map Char.toLower = '%' :: '2' :: 'e' :: rest) :
    ∃ tail, tail.map Char.toLower = rest ∧
      Percent.decode (encodeChars l) = 0x2e :: Percent.decode (encodeChars tail) := by
  have spelled (c : Char) (ascii : c.toLower.toNat < 128) :
      (c.toLower = '%' → c = '%') ∧ (c.toLower = '2' → c = '2') ∧
        (c.toLower = 'e' → Hex.value? (UInt8.ofNat c.toNat) = some 14) :=
    forall_ascii c (Text.ascii_of_toLower ascii) (by decide +kernel)
  obtain ⟨c, _, rfl, isPercent, back⟩ := List.map_eq_cons_iff.1 front
  obtain ⟨d, _, rfl, isTwo, back'⟩ := List.map_eq_cons_iff.1 back
  obtain ⟨e, tail, rfl, isLetter, behind⟩ := List.map_eq_cons_iff.1 back'
  obtain rfl := (spelled c (by rw [isPercent]; decide)).1 isPercent
  obtain rfl := (spelled d (by rw [isTwo]; decide)).2.1 isTwo
  have small : e.toLower.toNat < 128 := by
    rw [isLetter]
    decide
  refine ⟨tail, behind, ?_⟩
  rw [encodeChars_cons, encodeChars_cons, encodeChars_cons,
    encodeChar_of_ascii (Text.ascii_of_toLower small)]
  exact Percent.decode_escape (by decide) ((spelled e small).2.2 isLetter) _

/-- Dot segments are one or two dots, escaped or not. -/
theorem decode_of_dots {segment : List Char} {n : Nat} (isDots : dots segment = some n) :
    (n = 1 ∨ n = 2) ∧ Percent.decode (encodeChars segment) = List.replicate n 0x2e := by
  have none {tail : List Char} (shape : tail.map Char.toLower = []) :
      Percent.decode (encodeChars tail) = [] := by
    rw [List.map_eq_nil_iff.1 shape]
    rfl
  unfold dots at isDots
  split at isDots
  case h_7 => cases isDots
  all_goals
    rename_i shape
    cases isDots
  case h_1 =>
    obtain ⟨tail, behind, read⟩ := decode_of_dot shape
    exact ⟨.inl rfl, by rw [read, none behind]; rfl⟩
  case h_2 =>
    obtain ⟨tail, behind, read⟩ := decode_of_escapedDot shape
    exact ⟨.inl rfl, by rw [read, none behind]; rfl⟩
  case h_3 =>
    obtain ⟨tail, behind, read⟩ := decode_of_dot shape
    obtain ⟨tail', behind', read'⟩ := decode_of_dot behind
    exact ⟨.inr rfl, by rw [read, read', none behind']; rfl⟩
  case h_4 =>
    obtain ⟨tail, behind, read⟩ := decode_of_dot shape
    obtain ⟨tail', behind', read'⟩ := decode_of_escapedDot behind
    exact ⟨.inr rfl, by rw [read, read', none behind']; rfl⟩
  case h_5 =>
    obtain ⟨tail, behind, read⟩ := decode_of_escapedDot shape
    obtain ⟨tail', behind', read'⟩ := decode_of_dot behind
    exact ⟨.inr rfl, by rw [read, read', none behind']; rfl⟩
  case h_6 =>
    obtain ⟨tail, behind, read⟩ := decode_of_escapedDot shape
    obtain ⟨tail', behind', read'⟩ := decode_of_escapedDot behind
    exact ⟨.inr rfl, by rw [read, read', none behind']; rfl⟩

/-- Nothing but an empty segment at the end comes in addition. -/
theorem resolve_sublist (done segments : List (List Char)) :
    (resolve done segments).Sublist (done.reverse ++ segments ++ [[]]) := by
  induction segments generalizing done with
  | nil => simp [resolve]
  | cons segment rest ih =>
    rw [resolve]
    split
    · simpa using ih (segment :: done)
    · rename_i n _
      have fewer : (if n = 2 then up done else done).Sublist done := by
        split
        · unfold up
          split
          · exact List.Sublist.refl _
          · split
            · exact List.Sublist.refl _
            · exact List.sublist_cons_self _ _
        · exact List.Sublist.refl _
      dsimp only
      generalize (if n = 2 then up done else done) = left at fewer
      have shorter (back : List (List Char)) :
          (left.reverse ++ back).Sublist (done.reverse ++ segment :: back) :=
        fewer.reverse.append (List.sublist_cons_self _ _)
      split
      · rename_i last
        rw [List.isEmpty_iff.1 last]
        simpa using shorter [[]]
      · refine (ih left).trans ?_
        simpa using shorter (rest ++ [[]])

theorem resolve_ne_nil (done : List (List Char)) {segments : List (List Char)} (some : segments ≠ []) :
    resolve done segments ≠ [] := by
  induction segments generalizing done with
  | nil => exact absurd rfl some
  | cons segment rest ih =>
    rw [resolve]
    by_cases last : rest = []
    · subst last
      split <;> simp [resolve]
    · split
      · exact ih _ last
      · simpa [last] using ih _ last

end Url

namespace Gateway

theorem Place.ofPath?_eq_some_iff {path segment : String} {route : Route} :
    Place.ofPath? path = some (.exchange segment route) ↔
      Text.fields '/' path = ["", "v1", "exchanges", segment, route.resource] := by
  constructor
  · intro found
    unfold Place.ofPath? at found
    split at found
    · cases found
    · rename_i named resource pieces
      obtain ⟨other, known, same⟩ := Option.map_eq_some_iff.1 found
      cases same
      have resource : route.resource = resource := by simpa using List.find?_some known
      rw [pieces, resource]
    · cases found
  · intro pieces
    rw [Place.ofPath?, pieces]
    show (Route.ofResource? route.resource).map _ = _
    rw [ofResource?_resource]
    rfl

/-- A path leads to a place of an exchange just if it is made of these four segments. -/
theorem Place.ofPath?_intercalate_iff {segments : List (List Char)} (some : segments ≠ [])
    (noSlash : ∀ l ∈ segments, '/' ∉ l) {segment : String} {route : Route} :
    Place.ofPath? (String.ofList ('/' :: List.intercalate ['/'] segments)) =
        Option.some (.exchange segment route) ↔ segments = Client.segments segment route := by
  have fields : Text.fields '/' (String.ofList ('/' :: List.intercalate ['/'] segments)) =
      "" :: segments.map String.ofList := by
    rw [Text.fields, String.toList_ofList, List.splitOn_cons_eq_if_modifyHead,
      if_pos (beq_self_eq_true _),
      List.splitOn_intercalate _ noSlash some]
    rfl
  rw [ofPath?_eq_some_iff, fields]
  constructor
  · intro same
    have lists := congrArg (List.map String.toList) (List.cons.inj same).2
    simpa [Client.segments, Function.comp_def] using lists
  · rintro rfl
    simp [Client.segments]

end Gateway

end Countersign
