import Countersign.Http.Headers

/-! Texts as bytes and in pieces. UTF-8 keeps a separator apart from all other characters, so that
cutting the bytes of a text is cutting the text. -/
namespace Countersign

/-- The bytes of a row of characters. -/
def encodeChars (l : List Char) : Bytes := l.flatMap String.utf8EncodeChar

@[simp] theorem encodeChars_nil : encodeChars [] = [] := rfl

theorem encodeChars_cons (c : Char) (l : List Char) :
    encodeChars (c :: l) = String.utf8EncodeChar c ++ encodeChars l := rfl

@[simp] theorem encodeChars_append (l m : List Char) :
    encodeChars (l ++ m) = encodeChars l ++ encodeChars m :=
  List.flatMap_append

theorem toByteArray_loop_data (l : List UInt8) (r : ByteArray) :
    (List.toByteArray.loop l r).data.toList = r.data.toList ++ l := by
  induction l generalizing r with
  | nil => exact (List.append_nil _).symm
  | cons b rest ih =>
    have step : List.toByteArray.loop (b :: rest) r = List.toByteArray.loop rest (r.push b) := rfl
    have pushed : (r.push b).data = r.data.push b := rfl
    rw [step, ih, pushed, Array.toList_push, List.append_assoc, List.singleton_append]

theorem bytesOf_ofList (l : List Char) : bytesOf (String.ofList l) = encodeChars l := by
  have bytes : (String.ofList l).toUTF8 = l.utf8Encode := by
    rw [String.toUTF8_eq_toByteArray]; rfl
  rw [bytesOf, Utf8.encode, bytes, List.utf8Encode, List.toByteArray, toByteArray_loop_data]
  rfl

theorem bytesOf_eq_encodeChars (s : String) : bytesOf s = encodeChars s.toList := by
  rw [← bytesOf_ofList, String.ofList_toList]

theorem decode?_encodeChars (l : List Char) :
    Utf8.decode? (encodeChars l) = some (String.ofList l) := by
  rw [← bytesOf_ofList]
  exact Utf8.decode?_encode _

theorem bytesOf_injective {s t : String} (same : bytesOf s = bytesOf t) : s = t := by
  have decoded : Utf8.decode? (bytesOf s) = Utf8.decode? (bytesOf t) := congrArg _ same
  simpa [bytesOf, Utf8.decode?_encode] using decoded

/-- What can be seen of the first 128 characters one by one holds of all ASCII. -/
@[elab_as_elim]
theorem forall_ascii {P : Char → Prop} (c : Char) (ascii : c.toNat < 128)
    (all : ∀ n < 128, P (Char.ofNat n)) : P c := by
  have here := all c.toNat ascii
  rwa [Char.ofNat_toNat] at here

@[elab_as_elim]
theorem forall_byte {P : UInt8 → Prop} (b : UInt8) (all : ∀ n < 256, P (UInt8.ofNat n)) : P b := by
  have here := all b.toNat b.toNat_lt
  rwa [UInt8.ofNat_toNat] at here

/-- A character is one byte below 128, or a row of bytes that are all 128 or more. -/
theorem encodeChar_cases (c : Char) :
    (String.utf8EncodeChar c = [UInt8.ofNat c.toNat] ∧ c.toNat < 128) ∨
      ∀ b ∈ String.utf8EncodeChar c, 128 ≤ b.toNat := by
  have high (n : Nat) (h : 128 ≤ n % 256) : 128 ≤ (UInt8.ofNat n).toNat := by simpa using h
  have code : c.toNat = c.val.toNat := rfl
  unfold String.utf8EncodeChar
  dsimp only
  split
  · exact .inl ⟨rfl, by omega⟩
  right
  split
  · simp only [List.forall_mem_cons, List.not_mem_nil, false_implies, implies_true, and_true]
    exact ⟨high _ (by omega), high _ (by omega)⟩
  split <;>
    simp only [List.forall_mem_cons, List.not_mem_nil, false_implies, implies_true, and_true]
  · exact ⟨high _ (by omega), high _ (by omega), high _ (by omega)⟩
  · exact ⟨high _ (by omega), high _ (by omega), high _ (by omega), high _ (by omega)⟩

theorem encodeChar_of_ascii {c : Char} (ascii : c.toNat < 128) :
    String.utf8EncodeChar c = [UInt8.ofNat c.toNat] := by
  have code : c.val.toNat ≤ 127 := Nat.le_of_lt_succ ascii
  unfold String.utf8EncodeChar
  dsimp only
  rw [if_pos code]
  rfl

/-- The code of an ASCII character fits into a byte. -/
theorem toNat_byte_of_ascii {c : Char} (ascii : c.toNat < 128) :
    (UInt8.ofNat c.toNat).toNat = c.toNat := by
  rw [UInt8.toNat_ofNat']
  omega

/-- A byte below 128 is the whole of a character. -/
theorem toNat_eq_of_mem_encodeChar {c : Char} {b : UInt8} (member : b ∈ String.utf8EncodeChar c)
    (ascii : b.toNat < 128) : c.toNat = b.toNat := by
  rcases encodeChar_cases c with ⟨single, small⟩ | high
  · rw [single, List.mem_singleton] at member
    rw [member, toNat_byte_of_ascii small]
  · have := high b member
    omega

/-- A separator that does not occur in the front stays in the back. -/
theorem splitOn_append_of_not_mem {α : Type} [BEq α] [LawfulBEq α] {sep : α} {front : List α}
    (fresh : sep ∉ front) (back : List α) :
    (front ++ back).splitOn sep = (back.splitOn sep).modifyHead (front ++ ·) := by
  induction front with
  | nil =>
    cases pieces : back.splitOn sep with
    | nil => simp [pieces]
    | cons piece more => simp [pieces]
  | cons x rest ih =>
    simp only [List.mem_cons, not_or] at fresh
    have other : (x == sep) = false := by simpa using Ne.symm fresh.1
    rw [List.cons_append, List.splitOn_cons_eq_if_modifyHead, ih fresh.2]
    cases back.splitOn sep <;> simp [other]

theorem not_mem_of_mem_splitOn {α : Type} [BEq α] [LawfulBEq α] {sep : α} {l piece : List α}
    (member : piece ∈ l.splitOn sep) : sep ∉ piece := by
  induction l generalizing piece with
  | nil => simp_all
  | cons x rest ih =>
    rw [List.splitOn_cons_eq_if_modifyHead] at member
    cases pieces : rest.splitOn sep with
    | nil => exact absurd pieces (List.splitOn_ne_nil sep rest)
    | cons first more =>
      rw [pieces] at member ih
      split at member
      · rcases List.mem_cons.1 member with rfl | later
        · simp
        · exact ih later
      · rename_i other
        rcases List.mem_cons.1 member with rfl | later
        · simp only [List.mem_cons, not_or]
          exact ⟨fun same => other (by simp [same]), ih List.mem_cons_self⟩
        · exact ih (List.mem_cons_of_mem _ later)

theorem sublist_intercalate {α : Type} {sep : α} {piece : List α} {pieces : List (List α)}
    (member : piece ∈ pieces) : piece.Sublist (List.intercalate [sep] pieces) := by
  induction pieces with
  | nil => cases member
  | cons first more ih =>
    cases more with
    | nil =>
      obtain rfl := List.mem_singleton.1 member
      simp
    | cons second others =>
      rw [List.intercalate_cons_cons]
      rcases List.mem_cons.1 member with rfl | later
      · simp [List.append_assoc]
      · exact (ih later).trans (List.sublist_append_right _ _)

theorem sublist_of_mem_splitOn {α : Type} [BEq α] [LawfulBEq α] {sep : α} {l piece : List α}
    (member : piece ∈ l.splitOn sep) : piece.Sublist l := by
  have whole : List.intercalate [sep] (l.splitOn sep) = l := List.intercalate_splitOn sep
  rw [← whole]
  exact sublist_intercalate member

theorem mem_of_mem_splitOn {α : Type} [BEq α] [LawfulBEq α] {sep : α} {l piece : List α}
    (member : piece ∈ l.splitOn sep) {x : α} (inside : x ∈ piece) : x ∈ l :=
  (sublist_of_mem_splitOn member).subset inside

theorem mem_of_mem_intercalate {α : Type} {sep x : α} {pieces : List (List α)}
    (member : x ∈ List.intercalate [sep] pieces) : x = sep ∨ ∃ piece ∈ pieces, x ∈ piece := by
  induction pieces with
  | nil => cases member
  | cons first more ih =>
    cases more with
    | nil => exact .inr ⟨first, List.mem_cons_self, by simpa using member⟩
    | cons second others =>
      rw [List.intercalate_cons_cons, List.mem_append, List.mem_append, List.mem_singleton]
        at member
      rcases member with (here | between) | behind
      · exact .inr ⟨first, List.mem_cons_self, here⟩
      · exact .inl between
      · rcases ih behind with between | ⟨piece, later, inside⟩
        · exact .inl between
        · exact .inr ⟨piece, List.mem_cons_of_mem _ later, inside⟩

section

variable {α : Type} {p : α → Bool} {l : List α} (kept : ∀ y ∈ l, p y = true) {x : α}
  (stop : p x = false) (back : List α)
include kept stop

theorem takeWhile_append_cons : (l ++ x :: back).takeWhile p = l := by
  rw [List.takeWhile_append_of_pos kept, List.takeWhile_cons, stop]
  simp

theorem dropWhile_append_cons : (l ++ x :: back).dropWhile p = x :: back := by
  rw [List.dropWhile_append_of_pos kept, List.dropWhile_cons, stop]
  simp

end

/-- What stands before the first separator is the same in equal texts, and so is what follows. -/
theorem fronts_eq_of_append_eq {sep : Char} {front front' back back' : List Char}
    (fresh : sep ∉ front) (fresh' : sep ∉ front')
    (same : front ++ sep :: back = front' ++ sep :: back') : front = front' ∧ back = back' := by
  have cut : Text.cut sep (front ++ sep :: back) = some (front, back) :=
    Text.cut_eq_some_iff.2 ⟨rfl, fresh⟩
  have cut' : Text.cut sep (front' ++ sep :: back') = some (front', back') :=
    Text.cut_eq_some_iff.2 ⟨rfl, fresh'⟩
  rw [same, cut'] at cut
  cases cut
  exact ⟨rfl, rfl⟩

/-- `mark` is the one byte of `sep` and of no other character. -/
structure Marks (sep : Char) (mark : UInt8) : Prop where
  single : String.utf8EncodeChar sep = [mark]
  fresh : ∀ c, c ≠ sep → mark ∉ String.utf8EncodeChar c

theorem Marks.of_single {sep : Char} {mark : UInt8} (single : String.utf8EncodeChar sep = [mark])
    (ascii : mark.toNat < 128) : Marks sep mark := by
  refine ⟨single, fun c other member => other ?_⟩
  have here : sep.toNat = mark.toNat := toNat_eq_of_mem_encodeChar (by simp [single]) ascii
  exact Char.toNat_inj.1 ((toNat_eq_of_mem_encodeChar member ascii).trans here.symm)

section

variable {sep : Char} {mark : UInt8} (marks : Marks sep mark)
include marks

theorem Marks.takeWhile_append (c : Char) (other : c ≠ sep) (rest : Bytes) :
    (String.utf8EncodeChar c ++ rest).takeWhile (· != mark) =
      String.utf8EncodeChar c ++ rest.takeWhile (· != mark) := by
  rw [List.takeWhile_append_of_pos]
  intro b member
  simpa using fun same : b = mark => marks.fresh c other (same ▸ member)

theorem Marks.dropWhile_append (c : Char) (other : c ≠ sep) (rest : Bytes) :
    (String.utf8EncodeChar c ++ rest).dropWhile (· != mark) = rest.dropWhile (· != mark) := by
  rw [List.dropWhile_append_of_pos]
  intro b member
  simpa using fun same : b = mark => marks.fresh c other (same ▸ member)

theorem Marks.takeWhile_encodeChars (l : List Char) :
    (encodeChars l).takeWhile (· != mark) = encodeChars (l.takeWhile (· != sep)) := by
  induction l with
  | nil => rfl
  | cons c rest ih =>
    by_cases same : c = sep
    · subst same
      simp [encodeChars, marks.single]
    · rw [encodeChars, List.flatMap_cons, marks.takeWhile_append c same]
      simpa [encodeChars, same] using ih

theorem Marks.dropWhile_encodeChars (l : List Char) :
    (encodeChars l).dropWhile (· != mark) = encodeChars (l.dropWhile (· != sep)) := by
  induction l with
  | nil => rfl
  | cons c rest ih =>
    by_cases same : c = sep
    · subst same
      simp [encodeChars, marks.single]
    · rw [encodeChars, List.flatMap_cons, marks.dropWhile_append c same]
      simpa [encodeChars, same] using ih

/-- Cutting the bytes is cutting the text. -/
theorem Marks.splitOn_encodeChars (l : List Char) :
    (encodeChars l).splitOn mark = (l.splitOn sep).map encodeChars := by
  induction l with
  | nil => simp [encodeChars]
  | cons c rest ih =>
    by_cases same : c = sep
    · subst same
      have here : encodeChars (c :: rest) = [] ++ mark :: encodeChars rest := by
        simp [encodeChars, marks.single]
      rw [here, List.splitOn_append_cons_self_of_not_mem (by simp), ih,
        List.splitOn_cons_eq_if_modifyHead]
      simp [encodeChars]
    · rw [encodeChars, List.flatMap_cons, splitOn_append_of_not_mem (marks.fresh c same)]
      change ((encodeChars rest).splitOn mark).modifyHead _ = _
      rw [ih, List.splitOn_cons_eq_if_modifyHead]
      cases rest.splitOn sep <;> simp [same, encodeChars]

end

theorem marks_ampersand : Marks '&' 0x26 := .of_single rfl (by decide)

theorem marks_equals : Marks '=' 0x3d := .of_single rfl (by decide)

end Countersign
