import Countersign.Client.Prepare
import Countersign.Proofs.Declared
import Countersign.Proofs.FormText
import Mathlib.Data.List.TakeWhile

/-! Addresses under the address of a server. Plain segments and pairs that are put behind it are those
that the request is for, whatever the server is called. -/
namespace Countersign

namespace Url

/-- A character of a plain segment: an ASCII letter, a digit, a hyphen or an underscore. -/
def isWordChar (c : Char) : Bool := c.isAlphanum || c == '-' || c == '_'

def IsWord (l : List Char) : Prop := ∀ c ∈ l, isWordChar c = true

instance (l : List Char) : Decidable (IsWord l) :=
  decidable_of_iff (l.all isWordChar = true) List.all_eq_true

/-- A character of what stands between the scheme and the path: no blank, and no mark that would end
it or stand for a user. -/
def isNameChar (c : Char) : Bool := !isPadding c && !"/\\?#@".toList.contains c

/-- The address of a server and nothing else, with any number of slashes behind it. -/
def IsOrigin (base : String) : Prop :=
  ∃ name slashes, base.toList = "http://".toList ++ name ++ List.replicate slashes '/' ∧
    name ≠ [] ∧ ∀ c ∈ name, isNameChar c = true

theorem isWordChar_ascii {c : Char} (word : isWordChar c = true) : c.toNat < 128 := by
  apply Headers.isTokenChar_ascii
  rw [isWordChar, Bool.or_eq_true, Bool.or_eq_true, beq_iff_eq, beq_iff_eq] at word
  rcases word with (alphanumeric | rfl) | rfl
  · rw [Headers.isTokenChar, alphanumeric, Bool.true_or]
  · decide
  · decide

theorem isWordChar_plain {c : Char} (word : isWordChar c = true) :
    isPadding c = false ∧ c ∉ ['/', '\\', '?', '#', '%', '.'] ∧
      c.toLower ∉ ['%', '.'] ∧ Percent.inPath (UInt8.ofNat c.toNat) = false := by
  have ascii := isWordChar_ascii word
  revert word
  exact forall_ascii c ascii (by decide +kernel)

theorem isNameChar_iff {c : Char} :
    isNameChar c = true ↔ isPadding c = false ∧ c ∉ ['/', '\\', '?', '#', '@'] := by
  have marks : "/\\?#@".toList = ['/', '\\', '?', '#', '@'] := rfl
  simp [isNameChar, marks]

/-- A plain segment stays as it is. -/
theorem encode_word {l : List Char} (word : IsWord l) : Percent.encode Percent.inPath l = l := by
  rw [Percent.encode, bytesOf_ofList, Percent.encodeBytes]
  induction l with
  | nil => rfl
  | cons c rest ih =>
    have isWord := word c List.mem_cons_self
    have small := isWordChar_ascii isWord
    rw [encodeChars_cons, encodeChar_of_ascii small, List.singleton_append, List.flatMap_cons,
      (isWordChar_plain isWord).2.2.2, if_neg (by decide), toNat_byte_of_ascii small, Char.ofNat_toNat,
      ih fun d member => word d (List.mem_cons_of_mem _ member)]
    rfl

theorem dots_word {l : List Char} (word : IsWord l) : dots l = none := by
  have noMark : ∀ c ∈ l.map Char.toLower, c ∉ ['%', '.'] := by
    intro c member
    obtain ⟨d, inside, rfl⟩ := List.mem_map.1 member
    exact (isWordChar_plain (word d inside)).2.2.1
  unfold dots
  split
  all_goals first
    | rfl
    | (rename_i shape; rw [shape] at noMark; exact absurd (by decide) (noMark _ List.mem_cons_self))

theorem resolve_eq_append {segments : List (List Char)} (plain : ∀ l ∈ segments, dots l = none)
    (done : List (List Char)) : resolve done segments = done.reverse ++ segments := by
  induction segments generalizing done with
  | nil => simp [resolve]
  | cons l rest ih =>
    rw [resolve, plain l List.mem_cons_self]
    dsimp only
    rw [ih fun m member => plain m (List.mem_cons_of_mem _ member)]
    simp

/-- A path of plain segments is cut into these. -/
theorem parsePath_words {segments : List (List Char)} (some : segments ≠ [])
    (words : ∀ l ∈ segments, IsWord l) :
    parsePath true (List.intercalate ['/'] segments) = .segments segments := by
  have apart (mark : Char) (isMark : mark ∈ ['/', '\\', '?', '#', '%', '.']) :
      ∀ l ∈ segments, mark ∉ l := fun l member inside =>
    (isWordChar_plain (words l member mark inside)).2.1 isMark
  have slashes : (List.intercalate ['/'] segments).map
      (fun c => if isSlash true c then '/' else c) = List.intercalate ['/'] segments := by
    refine (List.map_congr_left fun c member => ?_).trans (List.map_id _)
    rcases mem_of_mem_intercalate member with rfl | ⟨l, listed, inside⟩
    · rfl
    · have noSlash : c ≠ '/' := fun same => apart '/' (by decide) l listed (same ▸ inside)
      have noBack : c ≠ '\\' := fun same => apart '\\' (by decide) l listed (same ▸ inside)
      simp [isSlash, noSlash, noBack]
  have kept : segments.map (Percent.encode Percent.inPath) = segments := by
    refine (List.map_congr_left fun l listed => ?_).trans (List.map_id _)
    exact encode_word (words l listed)
  rw [parsePath, splitSegments, slashes,
    List.splitOn_intercalate _ (apart '/' (by decide)) some, kept,
    resolve_eq_append fun l listed => dots_word (words l listed)]
  rfl

theorem isNameChar_ne {c : Char} (plain : isNameChar c = true) :
    isPadding c = false ∧ c ≠ '/' ∧ c ≠ '\\' ∧ c ≠ '?' ∧ c ≠ '#' ∧ c ≠ '@' := by
  simpa using isNameChar_iff.1 plain

theorem isIgnored_eq_false {c : Char} (solid : isPadding c = false) : isIgnored c = false := by
  by_contra ignored
  rw [Bool.not_eq_false, isIgnored, Bool.or_eq_true, Bool.or_eq_true, beq_iff_eq, beq_iff_eq,
    beq_iff_eq] at ignored
  rcases ignored with (rfl | rfl) | rfl
  all_goals cases solid

theorem filter_isIgnored {l : List Char} (solid : ∀ c ∈ l, isPadding c = false) :
    l.filter (!isIgnored ·) = l := by
  rw [List.filter_eq_self]
  intro c member
  rw [isIgnored_eq_false (solid c member)]
  rfl

theorem splitMark_eq_none_iff {mark : Char} {l front : List Char} :
    splitMark mark l = (front, none) ↔ front = l ∧ mark ∉ l := by
  rw [← Text.cut_eq_none_iff, splitMark]
  cases Text.cut mark l <;> simp [eq_comm]

theorem splitMark_eq_some_iff {mark : Char} {l front back : List Char} :
    splitMark mark l = (front, some back) ↔ l = front ++ mark :: back ∧ mark ∉ front := by
  rw [← Text.cut_eq_some_iff, splitMark]
  cases Text.cut mark l <;> simp [Prod.ext_iff]

theorem splitMark_of_not_mem {mark : Char} {l : List Char} (absent : mark ∉ l) :
    splitMark mark l = (l, none) :=
  splitMark_eq_none_iff.2 ⟨rfl, absent⟩

/-- What stands in front of all marks stays in front. -/
theorem splitMark_append {mark : Char} {front : List Char} (fresh : mark ∉ front)
    (back : List Char) :
    splitMark mark (front ++ back) = (front ++ (splitMark mark back).1, (splitMark mark back).2) := by
  cases cut : Text.cut mark back with
  | none =>
    have absent : mark ∉ front ++ back := by
      rw [List.mem_append, not_or]
      exact ⟨fresh, Text.cut_eq_none_iff.1 cut⟩
    rw [splitMark_of_not_mem absent, splitMark_of_not_mem (Text.cut_eq_none_iff.1 cut)]
  | some pieces =>
    obtain ⟨before, after⟩ := pieces
    obtain ⟨rfl, notBefore⟩ := Text.cut_eq_some_iff.1 cut
    have whole : Text.cut mark (front ++ (before ++ mark :: after)) =
        some (front ++ before, after) := by
      refine Text.cut_eq_some_iff.2 ⟨(List.append_assoc _ _ _).symm, ?_⟩
      rw [List.mem_append, not_or]
      exact ⟨fresh, notBefore⟩
    rw [splitMark, splitMark, whole, cut]

/-- The schemes that a client speaks. -/
def IsWeb (scheme : List Char) : Prop := scheme = "http".toList ∨ scheme = "https".toList

theorem IsWeb.isSpecial {scheme : List Char} (web : IsWeb scheme) :
    isSpecial scheme = true ∧ isFile scheme = false := by
  rcases web with rfl | rfl
  all_goals decide

theorem IsWeb.map_toLower {scheme : List Char} (web : IsWeb scheme) :
    scheme.map Char.toLower = scheme := by
  rcases web with rfl | rfl
  all_goals decide

/-- A scheme is written in letters, capital or small. -/
theorem IsWeb.isAlpha {written : List Char} (web : IsWeb (written.map Char.toLower)) :
    written ≠ [] ∧ ∀ c ∈ written, c.isAlpha = true := by
  have letter (c : Char) (ascii : c.toLower.toNat < 128) :
      c.toLower.isAlpha = true → c.isAlpha = true :=
    forall_ascii c (Text.ascii_of_toLower ascii) (by decide +kernel)
  have lowered : (written.map Char.toLower).all (fun c => decide (c.toNat < 128) && c.isAlpha) =
      true := by
    rcases web with same | same
    all_goals
      rw [same]
      decide
  constructor
  · rintro rfl
    rcases web with same | same
    all_goals cases same
  · intro c member
    have small := List.all_eq_true.1 lowered c.toLower (List.mem_map.2 ⟨c, member, rfl⟩)
    rw [Bool.and_eq_true, decide_eq_true_eq] at small
    exact letter c small.1 small.2

theorem IsWeb.solid {written : List Char} (web : IsWeb (written.map Char.toLower)) :
    ∀ c ∈ written ++ "://".toList, isPadding c = false := by
  have marks : ∀ c ∈ "://".toList, (!isPadding c) = true := List.all_eq_true.1 (by decide)
  have none : ∀ n < 33, (Char.ofNat n).isAlpha = false := by decide
  intro c member
  rcases List.mem_append.1 member with inside | mark
  · rw [isPadding, decide_eq_false_iff_not]
    intro small
    have here := none c.toNat (by omega)
    rw [Char.ofNat_toNat, web.isAlpha.2 c inside] at here
    cases here
  · simpa using marks c mark

theorem IsWeb.splitScheme {written : List Char} (web : IsWeb (written.map Char.toLower))
    (rest : List Char) :
    splitScheme (written ++ ':' :: rest) = some (written.map Char.toLower, rest) := by
  obtain ⟨some, alpha⟩ := web.isAlpha
  have kept : ∀ c ∈ written, isSchemeChar c = true := by
    intro c member
    simp [isSchemeChar, Char.isAlphanum, alpha c member]
  have colon : isSchemeChar ':' = false := by decide
  rw [Url.splitScheme, takeWhile_append_cons kept colon, dropWhile_append_cons kept colon]
  obtain ⟨c, more, rfl⟩ := List.exists_cons_of_ne_nil some
  exact if_pos (alpha c List.mem_cons_self)

/-- No mark cuts what stands in front of the path. -/
theorem splitMark_server {name : List Char} (plain : ∀ c ∈ name, isNameChar c = true) {mark : Char}
    (isMark : mark = '#' ∨ mark = '?') (back : List Char) :
    splitMark mark ('/' :: '/' :: (name ++ '/' :: back)) =
      ('/' :: '/' :: (name ++ '/' :: (splitMark mark back).1), (splitMark mark back).2) := by
  have fresh : mark ∉ '/' :: '/' :: (name ++ ['/']) := by
    have notInName : mark ∉ name := by
      intro member
      obtain ⟨_, _, _, noQuery, noFragment, _⟩ := isNameChar_ne (plain mark member)
      exact isMark.elim noFragment noQuery
    rcases isMark with rfl | rfl
    all_goals simpa using notInName
  simpa using splitMark_append fresh back

/-- Nothing is taken off the ends of an address that begins with a scheme. -/
theorem dropEnds_server {written : List Char} (web : IsWeb (written.map Char.toLower))
    (name : List Char) {rest : List Char} (ends : ∀ c ∈ rest.getLast?, isPadding c = false) :
    Text.dropEnds isPadding (written ++ "://".toList ++ name ++ '/' :: rest) =
      written ++ "://".toList ++ name ++ '/' :: rest := by
  rw [Text.dropEnds_eq_self_iff]
  rintro c (first | last)
  · obtain ⟨b, behind, shape⟩ := List.exists_cons_of_ne_nil
      (show written ++ "://".toList ≠ [] by simp)
    rw [List.append_assoc, shape] at first
    cases first
    exact web.solid c (shape ▸ List.mem_cons_self)
  · rw [List.getLast?_append_cons, List.getLast?_cons] at last
    cases none : rest.getLast? with
    | none =>
      rw [none] at last
      cases last
      decide
    | some d =>
      rw [none] at last
      cases last
      exact ends d none

section

variable {scheme name : List Char} (web : IsWeb scheme) (named : name ≠ [])
  (plain : ∀ c ∈ name, isNameChar c = true)
include web named plain

/-- Behind the scheme, everything up to the first slash is the name. -/
theorem parseTarget_server (path : List Char) :
    parseTarget scheme ('/' :: '/' :: (name ++ '/' :: path)) =
      (parseAuthority scheme name).map fun a => (some a, parsePath true path) := by
  obtain ⟨special, noFile⟩ := web.isSpecial
  have slash : isSlash true '/' = true := by decide
  have noSlash : ∀ c ∈ name, isSlash true c = false := by
    intro c member
    obtain ⟨_, noSlash, noBack, _⟩ := isNameChar_ne (plain c member)
    simp [isSlash, noSlash, noBack]
  have front : ('/' :: '/' :: (name ++ '/' :: path)).dropWhile (isSlash true) =
      name ++ '/' :: path := by
    obtain ⟨c, rest, rfl⟩ := List.exists_cons_of_ne_nil named
    have first := noSlash c List.mem_cons_self
    simp [slash, first]
  have kept : ∀ c ∈ name, (!isSlash true c) = true := by
    intro c member
    rw [noSlash c member]
    rfl
  have stop : (!isSlash true '/') = false := by decide
  simp only [parseTarget, special, noFile, Bool.not_false, Bool.and_self, if_true, front, parseSlashed,
    takeWhile_append_cons kept stop, dropWhile_append_cons kept stop, Bool.false_and,
    Bool.false_eq_true, if_false]
  cases parseAuthority scheme name <;> rfl

/-- What stands behind the name of a server is cut at its marks, once tabs and line ends are gone. -/
theorem parse_server {written : List Char} (spelled : written.map Char.toLower = scheme)
    {rest : List Char} (ends : ∀ c ∈ rest.getLast?, isPadding c = false)
    {front path : List Char} {query fragment : Option (List Char)}
    (cut : splitMark '#' (rest.filter (!isIgnored ·)) = (front, fragment))
    (cut' : splitMark '?' front = (path, query)) :
    parse (String.ofList (written ++ "://".toList ++ name ++ '/' :: rest)) =
      (parseAuthority scheme name).map fun a =>
        ⟨scheme, some a, parsePath true path, query.map (Percent.encode Percent.inSpecialQuery),
          fragment.map (Percent.encode Percent.inFragment)⟩ := by
  have web' : IsWeb (written.map Char.toLower) := spelled.symm ▸ web
  have filtered : (written ++ "://".toList ++ name ++ '/' :: rest).filter (!isIgnored ·) =
      written ++ ':' :: '/' :: '/' :: (name ++ '/' :: rest.filter (!isIgnored ·)) := by
    have slash : (!isIgnored '/') = true := by decide
    rw [List.filter_append, List.filter_append, filter_isIgnored web'.solid,
      filter_isIgnored fun c member => (isNameChar_ne (plain c member)).1]
    simp [slash]
  rw [parse, String.toList_ofList, dropEnds_server web' name ends]
  dsimp only
  rw [filtered, web'.splitScheme, spelled]
  dsimp only
  rw [splitMark_server plain (.inl rfl), cut]
  dsimp only
  rw [splitMark_server plain (.inr rfl), cut']
  dsimp only
  rw [parseTarget_server web named plain, web.isSpecial.1]
  cases parseAuthority scheme name <;> rfl

end

/-- Behind the name of a server, plain segments are the path. -/
theorem parse_words {scheme name : List Char} (web : IsWeb scheme) (named : name ≠ [])
    (plain : ∀ c ∈ name, isNameChar c = true) {segments : List (List Char)} (some : segments ≠ [])
    (words : ∀ l ∈ segments, IsWord l) :
    parse (String.ofList
        (scheme ++ "://".toList ++ name ++ '/' :: List.intercalate ['/'] segments)) =
      (parseAuthority scheme name).map fun a =>
        ⟨scheme, Option.some a, .segments segments, none, none⟩ := by
  have solid : ∀ c ∈ List.intercalate ['/'] segments, isPadding c = false ∧ c ≠ '#' ∧ c ≠ '?' := by
    intro c member
    rcases mem_of_mem_intercalate member with rfl | ⟨l, listed, inside⟩
    · decide
    · obtain ⟨solid, noMark, _⟩ := isWordChar_plain (words l listed c inside)
      simp only [List.mem_cons, List.not_mem_nil, or_false, not_or] at noMark
      exact ⟨solid, noMark.2.2.2.1, noMark.2.2.1⟩
  have kept := filter_isIgnored fun c member => (solid c member).1
  have noFragment : splitMark '#' (List.intercalate ['/'] segments) = (_, none) :=
    splitMark_of_not_mem fun member => (solid '#' member).2.1 rfl
  have noQuery : splitMark '?' (List.intercalate ['/'] segments) = (_, none) :=
    splitMark_of_not_mem fun member => (solid '?' member).2.2 rfl
  rw [← kept] at noFragment
  have ends := fun c last => (solid c (List.mem_of_getLast? last)).1
  rw [parse_server web named plain web.map_toLower ends noFragment (kept.symm ▸ noQuery), kept,
    parsePath_words some words]
  rfl

/-! ### What names a server is free of the marks behind it -/

/-- Marks that end the name of a server. -/
def endMarks : List Char := ['/', '?', '#']

theorem digit_not_endMark {c : Char} (digit : Text.isDigit c = true) : c ∉ endMarks := by
  intro mark
  simp only [endMarks, List.mem_cons, List.not_mem_nil, or_false] at mark
  rcases mark with rfl | rfl | rfl
  all_goals revert digit; decide

theorem decimal_not_endMark {n : Nat} : ∀ c ∈ Text.decimal n, c ∉ endMarks := fun c member =>
  digit_not_endMark (List.all_eq_true.1 (Text.all_isDigit_decimal n) c member)

theorem hexText_not_endMark {n : Nat} : ∀ c ∈ Address.hexText n, c ∉ endMarks := by
  have digits : ∀ d < 16, Nat.digitChar d ∉ endMarks := by decide
  unfold Address.hexText
  induction n using Nat.strongRecOn with
  | _ n ih =>
    rw [Nat.toDigits_eq_if (by decide)]
    split
    · rename_i small
      simpa using digits n small
    · intro c member
      rcases List.mem_append.1 member with front | last
      · exact ih (n / 16) (by omega) c front
      · rw [List.mem_singleton.1 last]
        exact digits (n % 16) (Nat.mod_lt n (by decide))

theorem intercalate_not_endMark {sep : Char} (noMark : sep ∉ endMarks) {pieces : List (List Char)}
    (plain : ∀ l ∈ pieces, ∀ c ∈ l, c ∉ endMarks) :
    ∀ c ∈ List.intercalate [sep] pieces, c ∉ endMarks := by
  intro c member
  rcases mem_of_mem_intercalate member with rfl | ⟨l, listed, inside⟩
  · exact noMark
  · exact plain l listed c inside

theorem renderFour_not_endMark {n : Nat} : ∀ c ∈ Address.renderFour n, c ∉ endMarks := by
  refine intercalate_not_endMark (by decide) ?_
  intro l listed
  simp only [List.mem_cons, List.not_mem_nil, or_false] at listed
  rcases listed with rfl | rfl | rfl | rfl
  all_goals exact decimal_not_endMark

theorem renderEight_not_endMark {groups : List Nat} :
    ∀ c ∈ Address.renderEight groups, c ∉ endMarks := by
  have written : ∀ l ∈ groups.map Address.hexText, ∀ c ∈ l, c ∉ endMarks := by
    intro l listed
    obtain ⟨n, _, rfl⟩ := List.mem_map.1 listed
    exact hexText_not_endMark
  have colon : ':' ∉ endMarks := by decide
  unfold Address.renderEight
  dsimp only
  split
  · exact intercalate_not_endMark colon written
  · intro c member
    rw [List.mem_append, List.mem_append] at member
    rcases member with (front | colons) | back
    · exact intercalate_not_endMark colon
        (fun l listed => written l (List.mem_of_mem_take listed)) c front
    · obtain rfl : c = ':' := by simpa using colons
      exact colon
    · exact intercalate_not_endMark colon
        (fun l listed => written l (List.mem_of_mem_drop listed)) c back

theorem parseHost_not_endMark {text host : List Char} (parsed : parseHost true text = .ok host) :
    ∀ c ∈ host, c ∉ endMarks := by
  unfold parseHost at parsed
  split at parsed
  · unfold bracketed at parsed
    split at parsed
    · split at parsed
      · cases parsed
        intro c member
        simp only [List.mem_append, List.mem_cons, List.not_mem_nil, or_false] at member
        rcases member with (rfl | digits) | rfl
        · decide
        · exact renderEight_not_endMark c digits
        · decide
      · cases parsed
    · cases parsed
  · cases parsed
  · rw [if_pos rfl] at parsed
    unfold namedHost at parsed
    split at parsed
    · cases parsed
    · dsimp only at parsed
      split at parsed
      · cases parsed
      · rename_i allowed
        split at parsed
        · cases parsed
        · split at parsed
          · split at parsed
            · cases parsed
              exact renderFour_not_endMark
            · cases parsed
          · cases parsed
            intro c member mark
            have forbidden : endMarks.all isForbidden = true := by decide
            exact allowed (List.any_eq_true.2 ⟨c, member, List.all_eq_true.1 forbidden c mark⟩)

/-- Who is asked is written without a mark that would end it, if no user is named. -/
theorem render_not_endMark {scheme name : List Char} {a : Authority} (web : IsWeb scheme)
    (noUser : '@' ∉ name) (parsed : parseAuthority scheme name = .ok a) :
    ∀ c ∈ a.render, c ∉ endMarks := by
  have whole : (Text.cutLast '@' name).getD ([], name) = ([], name) := by
    rw [Text.cutLast, Text.cut_eq_none_iff.2 (by simpa using noUser)]
    rfl
  have nobody : userInfo [] = [] := rfl
  unfold parseAuthority at parsed
  rw [whole] at parsed
  simp only [web.isSpecial.1, nobody] at parsed
  obtain ⟨host, found, rest⟩ := Outcome.bind_eq_ok_iff.1 parsed
  have written : a.user = [] ∧ a.host = host := by
    obtain ⟨_, fine⟩ := Outcome.guard_eq_ok_iff.1 rest
    obtain ⟨port, _, same⟩ := Outcome.bind_eq_ok_iff.1 fine
    cases same
    exact ⟨rfl, rfl⟩
  intro c member
  rw [Authority.render, written.1, written.2, List.nil_append, List.mem_append] at member
  rcases member with inHost | inPort
  · exact parseHost_not_endMark found c inHost
  · split at inPort
    · cases inPort
    · rcases List.mem_cons.1 inPort with rfl | digit
      · decide
      · exact decimal_not_endMark c digit

end Url

/-! ### The request target -/

theorem exists_mem_of_mem_encodeChars {l : List Char} {b : UInt8} (member : b ∈ encodeChars l)
    (ascii : b.toNat < 128) : ∃ c ∈ l, c.toNat = b.toNat := by
  obtain ⟨c, inside, here⟩ := List.mem_flatMap.1 member
  exact ⟨c, inside, toNat_eq_of_mem_encodeChar here ascii⟩

theorem marks_slash : Marks '/' 0x2f := .of_single rfl (by decide)

theorem marks_question : Marks '?' 0x3f := .of_single rfl (by decide)

namespace Target

open Url (endMarks)

/-- Bytes of characters that are no marks are no marks either. -/
theorem endsAuthority_false {l : List Char} (plain : ∀ c ∈ l, c ∉ endMarks) :
    ∀ b ∈ encodeChars l, endsAuthority b = false := by
  intro b member
  by_contra mark
  rw [Bool.not_eq_false, endsAuthority, Bool.or_eq_true, Bool.or_eq_true, beq_iff_eq, beq_iff_eq,
    beq_iff_eq] at mark
  have found (c : Char) (isMark : c ∈ endMarks) (same : b.toNat = c.toNat) (ascii : b.toNat < 128) :
      False := by
    obtain ⟨d, inside, code⟩ := exists_mem_of_mem_encodeChars member ascii
    exact plain d inside (Char.toNat_inj.1 (code.trans same) ▸ isMark)
  rcases mark with (rfl | rfl) | rfl
  · exact found '/' (by decide) rfl (by decide)
  · exact found '?' (by decide) rfl (by decide)
  · exact found '#' (by decide) rfl (by decide)

/-- Only what stands before the first slash is looked at as an authority. -/
theorem splitAuthority_append {name : List Char} (plain : ∀ c ∈ name, c ∉ endMarks)
    (behind : Bytes) : splitAuthority (encodeChars name ++ 0x2f :: behind) =
      (splitAuthority (encodeChars name)).map fun _ => (encodeChars name, 0x2f :: behind) := by
  have kept : ∀ b ∈ encodeChars name, (!endsAuthority b) = true := by
    intro b member
    rw [endsAuthority_false plain b member]
    rfl
  have slash : (!endsAuthority 0x2f) = false := by decide
  rw [splitAuthority, splitAuthority, takeWhile_append_cons kept slash,
    dropWhile_append_cons kept slash, List.takeWhile_eq_self_iff.2 kept]
  cases (encodeChars name).foldlM Seen.step {} with
  | error why => rfl
  | ok seen => cases checked : seen.check <;> simp [checked] <;> rfl

/-- Characters that are one byte each, and of those that are allowed. -/
def Fits (allowed : UInt8 → Bool) (l : List Char) : Prop :=
  ∀ c ∈ l, c.toNat < 128 ∧ allowed (UInt8.ofNat c.toNat) = true

instance (allowed : UInt8 → Bool) (l : List Char) : Decidable (Fits allowed l) :=
  decidable_of_iff (l.all fun c => decide (c.toNat < 128) && allowed (UInt8.ofNat c.toNat)) (by
    simp [Fits])

theorem Fits.encodeChars {allowed : UInt8 → Bool} {l : List Char} (fits : Fits allowed l) :
    ∀ b ∈ encodeChars l, allowed b = true := by
  intro b member
  obtain ⟨c, inside, here⟩ := List.mem_flatMap.1 member
  obtain ⟨ascii, fine⟩ := fits c inside
  rw [encodeChar_of_ascii ascii, List.mem_singleton] at here
  rw [here]
  exact fine

theorem fits_word {l : List Char} (word : Url.IsWord l) : Fits isPathByte l := by
  have both (c : Char) (ascii : c.toNat < 128) :
      Url.isWordChar c = true → isPathByte (UInt8.ofNat c.toNat) = true :=
    forall_ascii c ascii (by decide +kernel)
  exact fun c member => ⟨Url.isWordChar_ascii (word c member),
    both c (Url.isWordChar_ascii (word c member)) (word c member)⟩

/-- A query behind its question mark, if there is one. -/
def queryBytes : Option (List Char) → Bytes
  | none => []
  | some query => 0x3f :: encodeChars query

def fragmentBytes : Option (List Char) → Bytes
  | none => []
  | some fragment => 0x23 :: encodeChars fragment

section

variable {path : List Char} {query fragment : Option (List Char)}
  (fitsPath : Fits isPathByte path) (fitsQuery : ∀ text ∈ query, Fits isQueryByte text)
include fitsPath fitsQuery

/-- A fragment is not looked at. -/
theorem pathAndQuery_eq_ok (some : path ≠ []) :
    pathAndQuery (encodeChars path ++ (queryBytes query ++ fragmentBytes fragment)) =
      .ok (encodeChars path, query.map encodeChars) := by
  have marks : isPathByte 0x3f = false ∧ isPathByte 0x23 = false ∧ isQueryByte 0x23 = false := by
    decide
  have kept : ∀ b ∈ encodeChars path, (!(b == 0x3f || b == 0x23)) = true := by
    intro b member
    have fine := fitsPath.encodeChars b member
    rw [Bool.not_eq_true', Bool.or_eq_false_iff, beq_eq_false_iff_ne, beq_eq_false_iff_ne]
    constructor
    · rintro rfl
      exact absurd fine (by simp [marks])
    · rintro rfl
      exact absurd fine (by simp [marks])
  have whole := List.all_eq_true.2 fitsPath.encodeChars
  have notEmpty : (encodeChars path).isEmpty = false := by
    rwa [List.isEmpty_eq_false_iff, ne_eq, encodeChars_eq_nil_iff]
  have stop : (queryBytes query ++ fragmentBytes fragment).takeWhile
        (fun b => !(b == 0x3f || b == 0x23)) = [] ∧
      (queryBytes query ++ fragmentBytes fragment).dropWhile (fun b => !(b == 0x3f || b == 0x23)) =
        queryBytes query ++ fragmentBytes fragment := by
    cases query <;> cases fragment <;> simp [queryBytes, fragmentBytes]
  have before : (encodeChars path ++ (queryBytes query ++ fragmentBytes fragment)).takeWhile
      (fun b => !(b == 0x3f || b == 0x23)) = encodeChars path := by
    rw [List.takeWhile_append_of_pos kept, stop.1, List.append_nil]
  have after : (encodeChars path ++ (queryBytes query ++ fragmentBytes fragment)).dropWhile
      (fun b => !(b == 0x3f || b == 0x23)) = queryBytes query ++ fragmentBytes fragment := by
    rw [List.dropWhile_append_of_pos kept, stop.2]
  simp only [pathAndQuery, before, after, whole, notEmpty]
  cases query with
  | none => cases fragment <;> simp [queryBytes, fragmentBytes, decode?_encodeChars]
  | some query =>
    have fine := fitsQuery query rfl
    have fresh : ∀ b ∈ encodeChars query, (b != 0x23) = true := by
      intro b member
      rw [bne_iff_ne]
      rintro rfl
      exact absurd (fine.encodeChars _ member) (by simp [marks])
    have front : (encodeChars query ++ fragmentBytes fragment).takeWhile (· != 0x23) =
        encodeChars query := by
      rw [List.takeWhile_append_of_pos fresh]
      cases fragment <;> simp [fragmentBytes]
    have joined := decode?_encodeChars (path ++ '?' :: query)
    rw [encodeChars_append, encodeChars_cons, marks_question.single, List.singleton_append] at joined
    simp [queryBytes, front, List.all_eq_true.2 fine.encodeChars, joined]

end

/-- The name of a server can be asked. -/
def Opens (name : List Char) : Prop := name ≠ [] ∧ ∃ out, splitAuthority (encodeChars name) = .ok out

/-- An address is cut behind its scheme. -/
theorem parse_web {scheme : List Char} (web : Url.IsWeb scheme) {rest : Bytes}
    (short : (encodeChars (scheme ++ "://".toList) ++ rest).length ≤ maxLength) :
    parse (encodeChars (scheme ++ "://".toList) ++ rest) = (do
      let (authority, rest) ← splitAuthority rest
      if authority.isEmpty then throw .badFormat
      let (path, query) ← pathAndQuery rest
      return ⟨some (encodeChars scheme), authority, path, query⟩) := by
  unfold parse
  rw [if_neg (Nat.not_lt_of_le short)]
  rcases web with rfl | rfl
  all_goals rfl

/-- What is asked for at a server is the path and the query that were put behind its name. -/
theorem parse_eq_ok_iff {scheme name path : List Char} {query fragment : Option (List Char)}
    {target : Uri} (web : Url.IsWeb scheme) (plain : ∀ c ∈ name, c ∉ endMarks)
    (fitsPath : Fits isPathByte path) (fitsQuery : ∀ text ∈ query, Fits isQueryByte text)
    {bytes : Bytes} (shape : bytes = encodeChars (scheme ++ "://".toList ++ name ++ '/' :: path) ++
      (queryBytes query ++ fragmentBytes fragment)) :
    parse bytes = .ok target ↔ bytes.length ≤ maxLength ∧ Opens name ∧
      target = ⟨some (encodeChars scheme), encodeChars name, encodeChars ('/' :: path),
        query.map encodeChars⟩ := by
  have slashed : Fits isPathByte ('/' :: path) := by
    intro c member
    rcases List.mem_cons.1 member with rfl | behind
    · decide
    · exact fitsPath c behind
  have cut : pathAndQuery (_ ++ (_ ++ fragmentBytes fragment)) = _ :=
    pathAndQuery_eq_ok slashed fitsQuery (List.cons_ne_nil '/' path)
  have whole : bytes = encodeChars (scheme ++ "://".toList) ++ (encodeChars name ++
      0x2f :: (encodeChars path ++ (queryBytes query ++ fragmentBytes fragment))) := by
    rw [shape, encodeChars_append, encodeChars_append _ name]
    simp [encodeChars_cons, marks_slash.single]
  rw [encodeChars_cons, marks_slash.single, List.singleton_append, List.cons_append] at cut
  by_cases short : bytes.length ≤ maxLength
  · have step := parse_web web (whole ▸ short)
    rw [← whole, splitAuthority_append plain] at step
    rw [step]
    cases authority : splitAuthority (encodeChars name) with
    | error why =>
      constructor
      · exact nofun
      · rintro ⟨_, ⟨_, out, opens⟩, _⟩
        rw [authority] at opens
        cases opens
    | ok out =>
      by_cases named : name = []
      · subst named
        exact ⟨nofun, fun ⟨_, opens, _⟩ => absurd rfl opens.1⟩
      · have notEmpty : encodeChars name ≠ [] := by rwa [ne_eq, encodeChars_eq_nil_iff]
        simp [Except.map, notEmpty, cut, short, Opens, named, authority, encodeChars_cons,
          marks_slash.single, eq_comm (a := target)]
  · constructor
    · intro parsed
      unfold parse at parsed
      rw [if_pos (Nat.lt_of_not_le short)] at parsed
      cases parsed
    · exact fun fits => absurd fits.1 short

end Target

end Countersign
