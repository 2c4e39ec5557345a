import Countersign.Signature.Params
import Countersign.Proofs.Encoding

/-! What header values carry: labelled bytes read back as they were written, and a value that is
text holds no line break, nor do the parts that are cut out of it. -/
namespace Countersign

namespace Base64

theorem digit_ne_pad (n : Nat) (h : n < 64) : digit n ≠ '=' := by
  revert n; decide

theorem bytes?_group {a b c d : Nat} (ha : a < 64) (hb : b < 64) (hc : c < 64) (hd : d < 64)
    (rest : List Char) :
    bytes? (digit a :: digit b :: digit c :: digit d :: rest) =
      (bytes? rest).map fun bytes =>
        UInt8.ofNat (a * 4 + b / 16) :: UInt8.ofNat (b % 16 * 16 + c / 4) ::
          UInt8.ofNat (c % 4 * 64 + d) :: bytes := by
  rw [bytes?.eq_4]
  · simp only [value?_digit a ha, value?_digit b hb, value?_digit c hc, value?_digit d hd]
    cases bytes? rest <;> rfl
  · intro _ last _
    exact digit_ne_pad d hd last
  · intro last _
    exact digit_ne_pad d hd last

/-- The bits that a padded group leaves over are zero. -/
theorem bytes?_one {a b : Nat} (ha : a < 64) (hb : b < 64) (zeros : b % 16 = 0) :
    bytes? [digit a, digit b, '=', '='] = some [UInt8.ofNat (a * 4 + b / 16)] := by
  rw [bytes?.eq_2]
  simp only [value?_digit a ha, value?_digit b hb, Option.bind_eq_bind, Option.bind_some,
    if_pos zeros]
  rfl

theorem bytes?_two {a b c : Nat} (ha : a < 64) (hb : b < 64) (hc : c < 64) (zeros : c % 4 = 0) :
    bytes? [digit a, digit b, digit c, '='] =
      some [UInt8.ofNat (a * 4 + b / 16), UInt8.ofNat (b % 16 * 16 + c / 4)] := by
  rw [bytes?.eq_3]
  · simp only [value?_digit a ha, value?_digit b hb, value?_digit c hc, Option.bind_eq_bind,
      Option.bind_some, if_pos zeros]
    rfl
  · exact digit_ne_pad c hc

theorem ofNat_eq {b : UInt8} {n : Nat} (h : n = b.toNat) : UInt8.ofNat n = b := by
  rw [h, UInt8.ofNat_toNat]

/-- Every row of bytes reads back, whatever its length. -/
theorem bytes?_digits (bytes : Bytes) : bytes? (digits bytes) = some bytes := by
  have bound (b : UInt8) : b.toNat < 256 := b.toNat_lt
  induction bytes using digits.induct with
  | case1 => rfl
  | case2 a =>
    have := bound a
    rw [digits, bytes?_one (by omega) (by omega) (by omega), ofNat_eq (b := a) (by omega)]
  | case3 a b =>
    have := bound a
    have := bound b
    rw [digits, bytes?_two (by omega) (by omega) (by omega) (by omega), ofNat_eq (b := a) (by omega),
      ofNat_eq (b := b) (by omega)]
  | case4 a b c rest ih =>
    have := bound a
    have := bound b
    have := bound c
    rw [digits, bytes?_group (by omega) (by omega) (by omega) (by omega), ih, Option.map_some,
      ofNat_eq (b := a) (by omega), ofNat_eq (b := b) (by omega), ofNat_eq (b := c) (by omega)]

theorem mem_digits {x : Char} {bytes : Bytes} (member : x ∈ digits bytes) :
    x = '=' ∨ ∃ n < 64, x = digit n := by
  have bound (b : UInt8) : b.toNat < 256 := b.toNat_lt
  induction bytes using digits.induct with
  | case1 => cases member
  | case2 a =>
    have := bound a
    simp only [digits, List.mem_cons, List.not_mem_nil, or_false] at member
    rcases member with rfl | rfl | pad | pad
    · exact .inr ⟨_, by omega, rfl⟩
    · exact .inr ⟨_, by omega, rfl⟩
    all_goals exact .inl pad
  | case3 a b =>
    have := bound a
    have := bound b
    simp only [digits, List.mem_cons, List.not_mem_nil, or_false] at member
    rcases member with rfl | rfl | rfl | pad
    · exact .inr ⟨_, by omega, rfl⟩
    · exact .inr ⟨_, by omega, rfl⟩
    · exact .inr ⟨_, by omega, rfl⟩
    · exact .inl pad
  | case4 a b c rest ih =>
    have := bound a
    have := bound b
    have := bound c
    simp only [digits, List.mem_cons] at member
    rcases member with rfl | rfl | rfl | rfl | later
    · exact .inr ⟨_, by omega, rfl⟩
    · exact .inr ⟨_, by omega, rfl⟩
    · exact .inr ⟨_, by omega, rfl⟩
    · exact .inr ⟨_, by omega, rfl⟩
    · exact ih later

/-- Base64 is free of what sets it apart: colons around it and line breaks behind it. -/
theorem not_mem_digits {x : Char} (colonOrBreak : x = ':' ∨ x = '\n') (bytes : Bytes) :
    x ∉ digits bytes := by
  have apart : ∀ n < 64, digit n ≠ ':' ∧ digit n ≠ '\n' := by decide
  intro member
  rcases mem_digits member with rfl | ⟨n, bound, rfl⟩
  · rcases colonOrBreak with same | same <;> cases same
  · exact colonOrBreak.elim (apart n bound).1 (apart n bound).2

end Base64

/-- Without a line break. -/
def Text.OneLine (s : String) : Prop := '\n' ∉ s.toList

instance (s : String) : Decidable (Text.OneLine s) :=
  inferInstanceAs (Decidable ('\n' ∉ s.toList))

namespace Text

section

variable {α : Type} {p : α → Bool} {l : List α} {x : α}

theorem not_of_head?_dropEnds (first : (dropEnds p l).head? = some x) : p x = false := by
  have front : dropEnds p l <+: l.dropWhile p := by
    rw [dropEnds, ← List.reverse_suffix, List.reverse_reverse]
    exact List.dropWhile_suffix p
  obtain ⟨back, whole⟩ := front
  have here : (l.dropWhile p).head? = some x := by
    rw [← whole, List.head?_append, first]
    rfl
  have stops := List.head?_dropWhile_not p l
  rw [here] at stops
  exact stops

theorem not_of_getLast?_dropEnds (last : (dropEnds p l).getLast? = some x) : p x = false := by
  rw [dropEnds, List.getLast?_reverse] at last
  have stops := List.head?_dropWhile_not p (l.dropWhile p).reverse
  rw [last] at stops
  exact stops

end

theorem dropEnds_eq_self_iff {α : Type} {p : α → Bool} {l : List α} :
    dropEnds p l = l ↔ ∀ x, l.head? = some x ∨ l.getLast? = some x → p x = false := by
  constructor
  · rintro same x (first | last)
    · rw [← same] at first
      exact not_of_head?_dropEnds first
    · rw [← same] at last
      exact not_of_getLast?_dropEnds last
  · intro stops
    have front : l.dropWhile p = l := by
      cases l with
      | nil => rfl
      | cons x rest => rw [List.dropWhile_cons, stops x (.inl rfl), if_neg Bool.false_ne_true]
    have back : l.reverse.dropWhile p = l.reverse := by
      cases reversed : l.reverse with
      | nil => rfl
      | cons x rest =>
        have last : l.getLast? = some x := by rw [← List.head?_reverse, reversed, List.head?_cons]
        rw [List.dropWhile_cons, stops x (.inr last), if_neg Bool.false_ne_true]
    rw [dropEnds, front, back, List.reverse_reverse]

theorem dropEnds_eq_self {α : Type} {p : α → Bool} {l : List α} (none : ∀ x ∈ l, p x = false) :
    dropEnds p l = l := by
  rw [dropEnds_eq_self_iff]
  rintro x (first | last)
  · exact none x (List.mem_of_head? first)
  · exact none x (List.mem_of_getLast? last)

/-- What is dropped at the ends may as well not have been there. -/
theorem dropEnds_around {α : Type} {p : α → Bool} {front back : List α}
    (before : ∀ x ∈ front, p x = true) (behind : ∀ x ∈ back, p x = true) (l : List α) :
    dropEnds p (front ++ l ++ back) = dropEnds p l := by
  have none : back.dropWhile p = [] := by
    have dropped : (back ++ []).dropWhile p = [].dropWhile p := List.dropWhile_append_of_pos behind
    rwa [List.append_nil] at dropped
  have reversed : ∀ x ∈ back.reverse, p x = true := by simpa using behind
  rw [dropEnds, dropEnds, List.append_assoc, List.dropWhile_append_of_pos before,
    List.dropWhile_append]
  split
  · rename_i empty
    rw [none, List.isEmpty_iff.1 empty]
  · rw [List.reverse_append, List.dropWhile_append_of_pos reversed]

/-- Nothing else is taken off the ends. -/
theorem exists_around {α : Type} (p : α → Bool) (l : List α) : ∃ front back,
    (∀ x ∈ front, p x = true) ∧ (∀ x ∈ back, p x = true) ∧ l = front ++ dropEnds p l ++ back := by
  have front := l.takeWhile_append_dropWhile (p := p)
  have back := (l.dropWhile p).reverse.takeWhile_append_dropWhile (p := p)
  refine ⟨l.takeWhile p, ((l.dropWhile p).reverse.takeWhile p).reverse,
    List.all_eq_true.1 List.all_takeWhile, ?_, ?_⟩
  · intro x member
    exact List.all_eq_true.1 List.all_takeWhile x (List.mem_reverse.1 member)
  · rw [dropEnds, List.append_assoc, ← List.reverse_append, back, List.reverse_reverse, front]

/-- Taking marks off the ends of a text that has none of its own. -/
theorem dropEnds_surrounded {mark : Char} {l : List Char} (fresh : mark ∉ l) (i j : Nat) :
    dropEnds (· == mark) (List.replicate i mark ++ l ++ List.replicate j mark) = l := by
  rw [dropEnds_around (by simp) (by simp)]
  apply dropEnds_eq_self
  intro c member
  simpa using fun same : c = mark => fresh (same ▸ member)

theorem dropEnds_between {mark : Char} {l : List Char} (fresh : mark ∉ l) :
    dropEnds (· == mark) (mark :: l ++ [mark]) = l :=
  dropEnds_surrounded fresh 1 1

theorem trim_eq_self_iff {s : String} : trim s = s ↔ dropEnds isBlank s.toList = s.toList := by
  rw [← String.toList_inj, toList_trim]

theorem trim_trim (s : String) : trim (trim s) = trim s := by
  rw [trim_eq_self_iff, toList_trim, dropEnds_eq_self_iff]
  rintro x (first | last)
  · exact not_of_head?_dropEnds first
  · exact not_of_getLast?_dropEnds last

theorem trim_around {front back : String} (before : allBlank front = true)
    (behind : allBlank back = true) (s : String) : trim (front ++ s ++ back) = trim s := by
  rw [← String.toList_inj, toList_trim, toList_trim, String.toList_append, String.toList_append,
    dropEnds_around (List.all_eq_true.1 before) (List.all_eq_true.1 behind)]

/-- What trimming takes off are blanks. -/
theorem exists_trim_around (s : String) : ∃ front back, allBlank front = true ∧
    allBlank back = true ∧ s = front ++ trim s ++ back := by
  obtain ⟨front, back, before, behind, whole⟩ := exists_around isBlank s.toList
  refine ⟨String.ofList front, String.ofList back, ?_, ?_, ?_⟩
  · rwa [allBlank, String.toList_ofList, List.all_eq_true]
  · rwa [allBlank, String.toList_ofList, List.all_eq_true]
  · rw [← String.toList_inj, whole, ← toList_trim]
    simp

end Text

namespace Signature.Labelled

theorem toList_render (l : Labelled) :
    l.render.toList = l.label.toList ++ '=' :: (':' :: Base64.digits l.bytes ++ [':']) := by
  simp [render, Base64.encode, String.toList_append]

theorem read_render {l : Labelled} (plain : '=' ∉ l.label.toList) : read l.render = .ok l := by
  have cut : Text.cut '=' l.render.toList =
      some (l.label.toList, ':' :: Base64.digits l.bytes ++ [':']) :=
    Text.cut_eq_some_iff.2 ⟨toList_render l, plain⟩
  rw [read, cut]
  dsimp only
  rw [Text.dropEnds_between (Base64.not_mem_digits (.inl rfl) _), Base64.bytes?_digits]
  simp

theorem render_injective {l m : Labelled} (hl : '=' ∉ l.label.toList) (hm : '=' ∉ m.label.toList)
    (same : l.render = m.render) : l = m := by
  have read := read_render hl
  rw [same, read_render hm] at read
  exact (Except.ok.inj read).symm

/-- A label that was read ends before the first equals sign, and is a part of the value. -/
theorem label_of_read {value : String} {l : Labelled} (found : read value = .ok l) :
    '=' ∉ l.label.toList ∧ ∀ c ∈ l.label.toList, c ∈ value.toList := by
  unfold read at found
  split at found
  · cases found
  · rename_i label encoded cut
    obtain ⟨shape, fresh⟩ := Text.cut_eq_some_iff.1 cut
    split at found
    · cases found
    · cases found
      rw [String.toList_ofList]
      exact ⟨fresh, fun c member => shape ▸ List.mem_append_left _ member⟩

theorem oneLine_render {l : Labelled} (label : Text.OneLine l.label) : Text.OneLine l.render := by
  have digits := Base64.not_mem_digits (.inr rfl) l.bytes
  rw [Text.OneLine] at label
  rw [Text.OneLine, toList_render]
  simp [label, digits]

@[simp] theorem label_ofBody (body : Bytes) : '=' ∉ (ofBody body).label.toList := by
  show '=' ∉ "sha-256".toList
  decide

theorem oneLine_label_ofBody (body : Bytes) : Text.OneLine (ofBody body).label := by
  show '\n' ∉ "sha-256".toList
  decide

end Signature.Labelled

namespace Headers

theorem ofNat_ne_newline {b : UInt8} (text : isTextByte b = true) : Char.ofNat b.toNat ≠ '\n' := by
  revert text
  exact forall_byte b (by decide +kernel)

theorem oneLine_of_textOf? {value : Bytes} {s : String} (text : textOf? value = some s) :
    Text.OneLine s := by
  unfold textOf? at text
  split at text
  · rename_i all
    cases text
    intro member
    rw [String.toList_ofList, List.mem_map] at member
    obtain ⟨b, inside, same⟩ := member
    exact ofNat_ne_newline (List.all_eq_true.1 all b inside) same
  · cases text

theorem oneLine_of_text? {h : Headers} {name s : String} (text : h.text? name = some s) :
    Text.OneLine s := by
  obtain ⟨value, _, text⟩ := Option.bind_eq_some_iff.1 text
  exact oneLine_of_textOf? text

theorem oneLine_getD_text? (h : Headers) (name : String) :
    Text.OneLine ((h.text? name).getD "") := by
  cases text : h.text? name with
  | none => simp [Text.OneLine]
  | some s => exact oneLine_of_text? text

end Headers

namespace Signature.Params

theorem mem_readPairs {segments : List (List Char)} {attributes : List (String × String)}
    (found : readPairs segments = .ok attributes) {pair : String × String}
    (member : pair ∈ attributes) :
    ∃ segment ∈ segments, segment.splitOn '=' = [pair.1.toList, pair.2.toList] := by
  induction segments generalizing attributes with
  | nil => cases found; cases member
  | cons segment rest ih =>
    rw [readPairs] at found
    split at found
    · obtain ⟨s, inside, shape⟩ := ih found member
      exact ⟨s, List.mem_cons_of_mem _ inside, shape⟩
    · split at found
      · rename_i key value shape
        cases more : readPairs rest with
        | error why => rw [more] at found; cases found
        | ok others =>
          rw [more] at found
          cases found
          rcases List.mem_cons.1 member with rfl | other
          · exact ⟨segment, List.mem_cons_self, by simpa using shape⟩
          · obtain ⟨s, inside, shape⟩ := ih more other
            exact ⟨s, List.mem_cons_of_mem _ inside, shape⟩
      · cases found

/-- Components that a list between parentheses can hold: at least one, each without a blank and
without the closing parenthesis. -/
structure Listed (components : List String) : Prop where
  nonempty : components ≠ []
  noBlank : ∀ c ∈ components, ' ' ∉ c.toList
  noClose : ∀ c ∈ components, ')' ∉ c.toList

/-- What a value is cut into when it reads: each mark is the first of its kind. -/
theorem read_eq_ok {value : String} {p : Params} (found : read value = .ok p) :
    ∃ before inside after : List Char,
      value.toList = p.label.toList ++ '=' :: (before ++ '(' :: (inside ++ ')' :: after)) ∧
      ('=' ∉ p.label.toList ∧ '(' ∉ before ∧ ')' ∉ inside) ∧
      p.components = (inside.splitOn ' ').map String.ofList ∧
      readPairs (after.splitOn ';') = .ok p.attributes := by
  unfold read at found
  split at found
  · cases found
  rename_i label rest cutLabel
  split at found
  · cases found
  rename_i before behind cutOpen
  split at found
  · cases found
  rename_i inside after cutClose
  split at found
  · cases found
  obtain ⟨shape, freshLabel⟩ := Text.cut_eq_some_iff.1 cutLabel
  obtain ⟨shapeOpen, freshOpen⟩ := Text.cut_eq_some_iff.1 cutOpen
  obtain ⟨shapeClose, freshClose⟩ := Text.cut_eq_some_iff.1 cutClose
  cases pairs : readPairs (after.splitOn ';') with
  | error why => rw [pairs] at found; cases found
  | ok attributes =>
    rw [pairs] at found
    cases found
    refine ⟨before, inside, after, by simp [shape, shapeOpen, shapeClose], ?_, rfl, pairs⟩
    rw [String.toList_ofList]
    exact ⟨freshLabel, freshOpen, freshClose⟩

theorem listed_of_read {value : String} {p : Params} (found : read value = .ok p) :
    Listed p.components := by
  obtain ⟨before, inside, after, _, ⟨_, _, fresh⟩, components, _⟩ := read_eq_ok found
  rw [components]
  refine ⟨by simp, ?_, ?_⟩
  · intro c member
    obtain ⟨piece, inPieces, rfl⟩ := List.mem_map.1 member
    rw [String.toList_ofList]
    exact not_mem_of_mem_splitOn inPieces
  · intro c member close
    obtain ⟨piece, inPieces, rfl⟩ := List.mem_map.1 member
    rw [String.toList_ofList] at close
    exact fresh (mem_of_mem_splitOn inPieces close)

/-- Nothing is read that the value does not hold. -/
theorem mem_of_read {value : String} {p : Params} (found : read value = .ok p) :
    (∀ c ∈ p.components, ∀ x ∈ c.toList, x ∈ value.toList) ∧
      ∀ pair ∈ p.attributes, (∀ x ∈ pair.1.toList, x ∈ value.toList) ∧
        ∀ x ∈ pair.2.toList, x ∈ value.toList := by
  obtain ⟨before, inside, after, shape, _, components, pairs⟩ := read_eq_ok found
  rw [components, shape]
  constructor
  · intro c member x inName
    obtain ⟨piece, inPieces, rfl⟩ := List.mem_map.1 member
    rw [String.toList_ofList] at inName
    simp [mem_of_mem_splitOn inPieces inName]
  · intro pair member
    obtain ⟨segment, inSegments, split⟩ := mem_readPairs pairs member
    have within (part : List Char) (isPart : part ∈ segment.splitOn '=') (x : Char)
        (inPart : x ∈ part) : x ∈ after :=
      mem_of_mem_splitOn inSegments (mem_of_mem_splitOn isPart inPart)
    rw [split] at within
    exact ⟨fun x inKey => by simp [within _ (by simp) x inKey],
      fun x inValue => by simp [within _ (by simp) x inValue]⟩

end Signature.Params

end Countersign
