import Countersign.Proofs.Delivery
import Mathlib.Data.List.Flatten

/-! Which exchanges a client can ask for by their names. A name is put into the address as it is, and is
found there again just if it has no mark, no escape and no dots that mean something else in a path. -/
namespace Countersign

/-- Characters that make as many bytes as those that they were taken from are all of them. -/
theorem eq_of_sublist_of_length {kept l : List Char} (fewer : kept.Sublist l)
    (long : (encodeChars l).length ≤ (encodeChars kept).length) : kept = l := by
  have same : encodeChars kept = encodeChars l :=
    (fewer.flatMap String.utf8EncodeChar).eq_of_length_le long
  rw [← bytesOf_ofList, ← bytesOf_ofList] at same
  simpa using congrArg String.toList (bytesOf_injective same)

namespace Url

/-- The address of a server and nothing else, under any scheme that is spoken, in capital or small
letters. -/
def IsServer (base : String) : Prop :=
  ∃ scheme name slashes, IsWeb (scheme.map Char.toLower) ∧
    base.toList = scheme ++ "://".toList ++ name ++ List.replicate slashes '/' ∧ name ≠ [] ∧
      ∀ c ∈ name, isNameChar c = true

/-! ### The segments of a path -/

/-- The segments that a path is resolved to. -/
def pathSegments (path : List Char) : List (List Char) :=
  resolve [] ((splitSegments true path).map (Percent.encode Percent.inPath))

theorem pathSegments_ne_nil (path : List Char) : pathSegments path ≠ [] :=
  resolve_ne_nil [] (by simp [splitSegments, List.splitOn_ne_nil])

theorem mem_pathSegments {path l : List Char} (member : l ∈ pathSegments path) :
    Target.Fits Target.isPathByte l ∧ '/' ∉ l := by
  have front := (resolve_sublist _ _).subset member
  simp only [List.reverse_nil, List.nil_append, List.mem_append, List.mem_map,
    List.mem_singleton] at front
  obtain ⟨piece, listed, rfl⟩ | rfl := front
  · refine ⟨fun c inside => (Percent.mem_encode_inPath inside).1, fun slash => ?_⟩
    exact not_mem_of_mem_splitOn listed ((Percent.mem_encode_inPath slash).2 rfl)
  · exact ⟨fun _ inside => absurd inside List.not_mem_nil, List.not_mem_nil⟩

/-- Backslashes count as slashes. -/
def slashed (c : Char) : Char := if isSlash true c then '/' else c

theorem splitSegments_eq (text : List Char) :
    splitSegments true text = (text.map slashed).splitOn '/' := rfl

theorem slashed_slash : slashed '/' = '/' := by decide

theorem slashed_eq_self {c : Char} (other : c ≠ '\\') : slashed c = c := by
  unfold slashed
  split
  · rename_i slash
    have same : c = '/' := by simpa [isSlash, other] using slash
    exact same.symm
  · rfl

theorem map_slashed_eq_self {l : List Char} (others : ∀ c ∈ l, c ≠ '\\') : l.map slashed = l :=
  (List.map_congr_left fun c member => slashed_eq_self (others c member)).trans (List.map_id _)

/-- A backslash is one byte, as a slash is. -/
theorem length_encodeChars_slashed (l : List Char) :
    (encodeChars (l.map slashed)).length = (encodeChars l).length := by
  induction l with
  | nil => rfl
  | cons c rest ih =>
    have one : (String.utf8EncodeChar (slashed c)).length = (String.utf8EncodeChar c).length := by
      by_cases back : c = '\\'
      · rw [back]
        decide
      · rw [slashed_eq_self back]
    rw [List.map_cons, encodeChars_cons, encodeChars_cons, List.length_append, List.length_append,
      one, ih]

theorem slashed_word {l : List Char} (word : IsWord l) : l.map slashed = l ∧ '/' ∉ l := by
  have noMark (c : Char) (member : c ∈ l) := (isWordChar_plain (word c member)).2.1
  refine ⟨map_slashed_eq_self fun c member same => ?_, fun slash => ?_⟩
  · subst same
    exact noMark '\\' member (by decide)
  · exact noMark '/' slash (by decide)

/-- A piece stands for a whole name only if it is the whole of it: from the name to what is read of the
piece, bytes are only left out. -/
theorem eq_of_piece {l kept piece : List Char} (fewer : kept.Sublist l)
    (member : piece ∈ (kept.map slashed).splitOn '/')
    (read : Percent.decode (encodeChars piece) = encodeChars l) :
    kept = l ∧ piece = l ∧ Percent.Unescaped (encodeChars l) ∧ ∀ c ∈ l, c ≠ '/' ∧ c ≠ '\\' := by
  have inside := sublist_of_mem_splitOn member
  have fewerBytes : (encodeChars kept).length ≤ (encodeChars l).length :=
    (fewer.flatMap String.utf8EncodeChar).length_le
  have insideBytes : (encodeChars piece).length ≤ (encodeChars (kept.map slashed)).length :=
    (inside.flatMap String.utf8EncodeChar).length_le
  have readBytes := Percent.length_decode_le (encodeChars piece)
  rw [length_encodeChars_slashed] at insideBytes
  rw [read] at readBytes
  obtain rfl : kept = l := eq_of_sublist_of_length fewer (readBytes.trans insideBytes)
  have whole : piece = kept.map slashed :=
    eq_of_sublist_of_length inside (by rwa [length_encodeChars_slashed])
  have plain : ∀ c ∈ kept, c ≠ '/' ∧ c ≠ '\\' := by
    intro c listed
    have noSlash : slashed c ≠ '/' := by
      intro same
      exact not_mem_of_mem_splitOn member (whole ▸ List.mem_map.2 ⟨c, listed, same⟩)
    constructor
    all_goals
      rintro rfl
      exact noSlash (by decide)
  have same : piece = kept := whole.trans (map_slashed_eq_self fun c listed => (plain c listed).2)
  subst same
  exact ⟨rfl, rfl, Percent.unescaped_of_length_decode (by rw [read]), plain⟩

/-! ### Plain names -/

/-- A name that stays what it is as a segment of a path. -/
structure PlainName (text : String) : Prop where
  marks : ∀ c ∈ text.toList, c ∉ ['/', '\\', '?', '#', '\t', '\n', '\r']
  dots : text ≠ "." ∧ text ≠ ".."
  unescaped : Percent.Unescaped (bytesOf text)

namespace PlainName

variable {text : String} (plain : PlainName text)
include plain

theorem ne_of_mem {c : Char} (listed : c ∈ text.toList) :
    c ≠ '/' ∧ c ≠ '\\' ∧ c ≠ '?' ∧ c ≠ '#' ∧ isIgnored c = false := by
  have marks := plain.marks c listed
  simp only [List.mem_cons, List.not_mem_nil, or_false, not_or] at marks
  simp [isIgnored, marks]

theorem filter_eq_self : text.toList.filter (!isIgnored ·) = text.toList := by
  rw [List.filter_eq_self]
  intro c listed
  simp [plain.ne_of_mem listed]

theorem splitOn_slashed : (text.toList.map slashed).splitOn '/' = [text.toList] := by
  rw [map_slashed_eq_self fun c listed => (plain.ne_of_mem listed).2.1,
    List.splitOn_eq_singleton fun listed => (plain.ne_of_mem listed).1 rfl]

theorem decode_encode :
    Percent.decode (encodeChars (Percent.encode Percent.inPath text.toList)) = bytesOf text := by
  rw [Percent.decode_encode, ← bytesOf_eq_encodeChars, Percent.decode_of_unescaped plain.unescaped]

theorem dots_encode : Url.dots (Percent.encode Percent.inPath text.toList) = none := by
  cases resolved : Url.dots (Percent.encode Percent.inPath text.toList) with
  | none => rfl
  | some n =>
    obtain ⟨oneOrTwo, same⟩ := decode_of_dots resolved
    rw [plain.decode_encode] at same
    rcases oneOrTwo with rfl | rfl
    · exact absurd (bytesOf_injective (same.trans (by decide))) plain.dots.1
    · exact absurd (bytesOf_injective (same.trans (by decide))) plain.dots.2

end PlainName

end Url

namespace Client

open Url (pathSegments slashed)

/-! ### What stands behind the server -/

section

variable (exchange : String) (route : Gateway.Route)

/-- What stands behind the server in the address of a resource. -/
theorem intercalate_segments : List.intercalate ['/'] (segments exchange route) =
    "v1/exchanges/".toList ++ (exchange.toList ++ '/' :: route.resource.toList) := by
  have front : "v1/exchanges/".toList = "v1".toList ++ '/' :: ("exchanges".toList ++ ['/']) := by
    decide
  rw [front, segments]
  simp [List.intercalate_cons_cons]

theorem isWord_fixed : Url.IsWord "v1".toList ∧ Url.IsWord "exchanges".toList ∧
    Url.IsWord route.resource.toList := by
  have empty : Url.IsWord "".toList := by decide
  have words := isWord_segments empty route
  exact ⟨words _ (by simp [segments]), words _ (by simp [segments]), words _ (by simp [segments])⟩

theorem resource_solid {c : Char} (member : c ∈ '/' :: route.resource.toList) :
    Url.isPadding c = false ∧ c ≠ '#' ∧ c ≠ '?' := by
  rcases List.mem_cons.1 member with rfl | inside
  · decide
  · obtain ⟨solid, noMark, _⟩ := Url.isWordChar_plain ((isWord_fixed route).2.2 c inside)
    simp only [List.mem_cons, List.not_mem_nil, or_false, not_or] at noMark
    exact ⟨solid, noMark.2.2.2.1, noMark.2.2.1⟩

/-- The same once tabs and line ends are gone. -/
def behind : List Char :=
  "v1/exchanges/".toList ++
    (exchange.toList.filter (!Url.isIgnored ·) ++ '/' :: route.resource.toList)

theorem filter_eq_behind :
    ("v1/exchanges/".toList ++ (exchange.toList ++ '/' :: route.resource.toList)).filter
      (!Url.isIgnored ·) = behind exchange route := by
  have front : ∀ c ∈ "v1/exchanges/".toList, (!Url.isPadding c) = true :=
    List.all_eq_true.1 (by decide)
  rw [List.filter_append, List.filter_append,
    Url.filter_isIgnored fun c member => by simpa using front c member,
    Url.filter_isIgnored fun c member => (resource_solid route member).1]
  rfl

variable {exchange route}

/-- A mark leaves the resource behind it. -/
theorem slash_mem_of_cut {path text : List Char}
    (cut : behind exchange route = path ++ '?' :: text) : '/' ∈ text := by
  unfold behind at cut
  rw [← List.append_assoc] at cut
  rcases List.append_eq_append_iff.1 cut with ⟨more, _, back⟩ | ⟨more, _, back⟩
  · have early : '?' ∈ '/' :: route.resource.toList := by simp [back]
    exact absurd rfl (resource_solid route early).2.2
  · have late : '/' ∈ '?' :: text := by simp [back]
    simpa using late

/-- The pieces of the path of a resource. -/
theorem pathSegments_eq (l : List Char) (route : Gateway.Route) :
    pathSegments ("v1/exchanges/".toList ++ (l ++ '/' :: route.resource.toList)) =
      Url.resolve [] ("v1".toList :: "exchanges".toList ::
        (((l.map slashed).splitOn '/').map (Percent.encode Percent.inPath) ++
          [route.resource.toList])) := by
  obtain ⟨version, exchanges, resource⟩ := isWord_fixed route
  have front : "v1/exchanges/".toList.map slashed =
      "v1".toList ++ '/' :: ("exchanges".toList ++ ['/']) := by
    decide
  have shape : ("v1/exchanges/".toList ++ (l ++ '/' :: route.resource.toList)).map slashed =
      "v1".toList ++ '/' :: ("exchanges".toList ++ '/' ::
        (l.map slashed ++ '/' :: route.resource.toList)) := by
    rw [List.map_append, List.map_append, List.map_cons, (Url.slashed_word resource).1, front]
    simp [Url.slashed_slash]
  rw [pathSegments, Url.splitSegments_eq, shape,
    List.splitOn_append_cons_self_of_not_mem (Url.slashed_word version).2,
    List.splitOn_append_cons_self_of_not_mem (Url.slashed_word exchanges).2,
    List.splitOn_append_cons_self, List.splitOn_eq_singleton (Url.slashed_word resource).2]
  simp only [List.map_cons, List.map_append, List.map_nil, Url.encode_word version,
    Url.encode_word exchanges, Url.encode_word resource]

/-- Dots take a segment out of the path. -/
theorem length_pathSegments_of_dots (route : Gateway.Route) : ∀ name ∈ [".", ".."],
    (pathSegments ("v1/exchanges/".toList ++ (name.toList ++ '/' :: route.resource.toList))).length ≠
      4 := by
  cases route
  all_goals decide

/-- The segment of the exchange is written by a piece of its name. -/
theorem exists_piece {l : List Char} {segment : String}
    (resolved : pathSegments ("v1/exchanges/".toList ++ (l ++ '/' :: route.resource.toList)) =
      segments segment route) :
    ∃ piece ∈ (l.map slashed).splitOn '/', Percent.encode Percent.inPath piece = segment.toList := by
  have some : route.resource.toList ≠ [] := by
    cases route
    all_goals decide
  have sub := Url.resolve_sublist [] ("v1".toList :: "exchanges".toList ::
    (((l.map slashed).splitOn '/').map (Percent.encode Percent.inPath) ++ [route.resource.toList]))
  rw [← pathSegments_eq, resolved, segments] at sub
  -- The resource is no empty segment, so it takes up the last piece.
  obtain ⟨front, back, shape, inFront, inBack⟩ := List.sublist_append_iff.1 sub.tail.tail
  have none : back = [] := by
    rcases List.sublist_cons_iff.1 inBack with shorter | ⟨rest, rfl, shorter⟩
    · exact List.sublist_nil.1 shorter
    · obtain rfl := List.sublist_nil.1 shorter
      have last := congrArg List.getLast? shape
      simp only [List.tail_cons, List.getLast?_append_cons] at last
      exact absurd (Option.some.inj last) some
  rw [none, List.append_nil] at shape
  rw [← shape] at inFront
  have inside : List.Sublist ([segment.toList] ++ [route.resource.toList])
      (((l.map slashed).splitOn '/').map (Percent.encode Percent.inPath) ++
        [route.resource.toList]) := inFront
  rw [List.append_sublist_append_right, List.singleton_sublist, List.mem_map] at inside
  exact inside

section

variable (plain : Url.PlainName exchange) (route)
include plain

theorem mark_not_mem_behind : '#' ∉ behind exchange route ∧ '?' ∉ behind exchange route := by
  have front : '#' ∉ "v1/exchanges/".toList ∧ '?' ∉ "v1/exchanges/".toList := by decide
  unfold behind
  rw [plain.filter_eq_self]
  simp only [List.mem_append, not_or]
  refine ⟨⟨front.1, fun listed => ?_, fun back => ?_⟩, front.2, fun listed => ?_, fun back => ?_⟩
  · exact (plain.ne_of_mem listed).2.2.2.1 rfl
  · exact (resource_solid route back).2.1 rfl
  · exact (plain.ne_of_mem listed).2.2.1 rfl
  · exact (resource_solid route back).2.2 rfl

theorem pathSegments_behind : pathSegments (behind exchange route) =
    segments (String.ofList (Percent.encode Percent.inPath exchange.toList)) route := by
  obtain ⟨version, exchanges, resource⟩ := isWord_fixed route
  unfold behind
  rw [plain.filter_eq_self, pathSegments_eq, plain.splitOn_slashed, Url.resolve_eq_append]
  · simp [segments]
  · refine List.forall_mem_cons.2 ⟨Url.dots_word version,
      List.forall_mem_cons.2 ⟨Url.dots_word exchanges, ?_⟩⟩
    simp [Url.dots_word resource, plain.dots_encode]

end

end

/-! ### What an address leads to -/

/-- The server is understood, and it can be asked. -/
def HasServer (client : Client) : Prop :=
  ∃ url target, Url.parse (client.base ++ "/") = .ok url ∧ targetOf url = .ok target

/-- What is sent leads the gateway to the resource that is asked for, at the exchange that is meant,
with the pairs that are asked and nothing else. -/
structure Addressed (client : Client) (exchange : String) (ask : Ask) (url : Url)
    (target : Target.Uri) : Prop where
  place : ∃ segment, Gateway.Place.ofPath? (Utf8.decodeLossy target.path) =
      some (.exchange segment ask.route) ∧
    (Gateway.Place.exchange segment ask.route).allows ask.method = true ∧
      Gateway.exchangeId? segment = some exchange
  query : Form.decode (bytesOf (Utf8.decodeLossy (target.query.getD []))) = client.pairs ask
  fragment : url.fragment = none

/-- An address and the request for it, as they come from what stands before, between and behind the
marks. -/
structure Cut (client : Client) (exchange : String) (ask : Ask) (url : Url) (target : Target.Uri)
    (path : List Char) (query fragment : Option (List Char)) : Prop where
  marks : ∃ front, Url.splitMark '#' (behind exchange ask.route) = (front, fragment) ∧
    Url.splitMark '?' front = (path, query)
  path : target.path = encodeChars ('/' :: List.intercalate ['/'] (pathSegments path))
  query : target.query = (Url.queryWith (query.map (Percent.encode Percent.inSpecialQuery))
    (client.pairs ask)).map encodeChars
  fragment : url.fragment = fragment.map (Percent.encode Percent.inFragment)

section

variable {client : Client} {scheme name : List Char} (web : Url.IsWeb (scheme.map Char.toLower))
  (base : client.base.toList = scheme ++ "://".toList ++ name) (named : name ≠ [])
  (plain : ∀ c ∈ name, Url.isNameChar c = true) (asked : client.HasServer)
include web base named plain asked

theorem exists_authority : ∃ a, Url.parseAuthority (scheme.map Char.toLower) name = .ok a ∧
    (∀ c ∈ a.render, c ∉ Url.endMarks) ∧ Target.Opens a.render := by
  obtain ⟨url, target, parsed, found⟩ := asked
  have noUser : '@' ∉ name := fun member => (Url.isNameChar_ne (plain '@' member)).2.2.2.2.2 rfl
  have text : client.base ++ "/" =
      String.ofList (scheme ++ "://".toList ++ name ++ '/' :: []) := by
    rw [← String.toList_inj, String.toList_append, base]
    simp
  have root : Url.parsePath true [] = .segments [[]] :=
    Url.parsePath_words (List.cons_ne_nil [] []) (by decide)
  have noMark (mark : Char) : Url.splitMark mark (List.filter (!Url.isIgnored ·) []) = ([], none) :=
    rfl
  rw [text, Url.parse_server web named plain rfl (fun _ last => by cases last) (noMark '#')
    (noMark '?'), root] at parsed
  cases authority : Url.parseAuthority (scheme.map Char.toLower) name with
  | error why =>
    rw [authority] at parsed
    cases parsed
  | ok a =>
    have noMark := Url.render_not_endMark web noUser authority
    rw [authority] at parsed
    cases parsed
    have fitsPath : ∀ l ∈ [[]], Target.Fits Target.isPathByte l := by decide
    have opens := (targetOf_eq_ok_iff web noMark (List.cons_ne_nil [] []) fitsPath
      (fun _ absent => by cases absent) rfl).1 found
    exact ⟨a, rfl, noMark, opens.2.1⟩

/-- At a server that can be asked every exchange has an address, and a request that is sent unless the
address is too long. -/
theorem exists_address (exchange : String) (ask : Ask) : ∃ url uri path query fragment,
    client.addressOf exchange ask = .ok url ∧ client.Cut exchange ask url uri path query fragment ∧
      ∀ target, targetOf url = .ok target ↔
        (bytesOf url.render).length ≤ Target.maxLength ∧ target = uri := by
  obtain ⟨a, authority, noMark, opens⟩ := exists_authority web base named plain asked
  obtain ⟨⟨front, fragment⟩, cut⟩ : ∃ out, Url.splitMark '#' (behind exchange ask.route) = out :=
    ⟨_, rfl⟩
  obtain ⟨⟨path, query⟩, cut'⟩ : ∃ out, Url.splitMark '?' front = out := ⟨_, rfl⟩
  have ends : ∀ c ∈ ("v1/exchanges/".toList ++
      (exchange.toList ++ '/' :: ask.route.resource.toList)).getLast?, Url.isPadding c = false := by
    intro c last
    rw [← List.append_assoc, List.getLast?_append_cons] at last
    exact (resource_solid _ (List.mem_of_getLast? last)).1
  have address := Url.parse_server web named plain rfl ends
    (filter_eq_behind exchange ask.route ▸ cut) cut'
  rw [authority, ← intercalate_segments, ← base_append_exchangePath base] at address
  have fitsQuery : ∀ text ∈ query.map (Percent.encode Percent.inSpecialQuery),
      Target.Fits Target.isQueryByte text := by
    intro text written
    obtain ⟨l, _, rfl⟩ := Option.map_eq_some_iff.1 written
    exact Percent.fits_encode_inSpecialQuery l
  obtain ⟨url, shape⟩ : ∃ url : Url, url = ⟨scheme.map Char.toLower, some a,
      .segments (pathSegments path),
      Url.queryWith (query.map (Percent.encode Percent.inSpecialQuery)) (client.pairs ask),
      fragment.map (Percent.encode Percent.inFragment)⟩ := ⟨_, rfl⟩
  refine ⟨url, ⟨some (encodeChars (scheme.map Char.toLower)), encodeChars a.render, _, _⟩, path, query,
    fragment, ?_, ⟨⟨front, cut, cut'⟩, rfl, rfl, by rw [shape]⟩, fun target => ?_⟩
  · rw [addressOf, address, shape]
    exact congrArg Except.ok (Url.addPairs_eq _ _)
  · rw [targetOf_eq_ok_iff web noMark (Url.pathSegments_ne_nil path)
      (fun l listed => (Url.mem_pathSegments listed).1)
      (Target.fits_queryWith fitsQuery (client.pairs ask)) shape]
    exact and_congr_right fun _ => and_iff_right opens

end

namespace Cut

variable {client : Client} {exchange : String} {ask : Ask} {url : Url} {target : Target.Uri}
  {path : List Char} {query fragment : Option (List Char)}
  (cut : client.Cut exchange ask url target path query fragment)
include cut

/-- Where the path leads is seen from its segments. -/
theorem ofPath?_eq_some_iff {segment : String} {route : Gateway.Route} :
    Gateway.Place.ofPath? (Utf8.decodeLossy target.path) = some (.exchange segment route) ↔
      pathSegments path = segments segment route := by
  rw [cut.path, decodeLossy_encodeChars, Gateway.Place.ofPath?_intercalate_iff
    (Url.pathSegments_ne_nil path) fun l listed => (Url.mem_pathSegments listed).2]

/-- What reaches its exchange is cut at no mark. -/
theorem path_eq_behind (addressed : client.Addressed exchange ask url target) :
    path = behind exchange ask.route ∧ '#' ∉ path ∧ '?' ∉ path := by
  obtain ⟨⟨front, fragmentCut, queryCut⟩, _, sameQuery, sameFragment⟩ := cut
  have noFragment := addressed.fragment
  rw [sameFragment, Option.map_eq_none_iff] at noFragment
  subst noFragment
  obtain ⟨rfl, noHash⟩ := Url.splitMark_eq_none_iff.1 fragmentCut
  cases query with
  | none =>
    obtain ⟨rfl, noQuestion⟩ := Url.splitMark_eq_none_iff.1 queryCut
    exact ⟨rfl, noHash, noQuestion⟩
  | some text =>
    -- The resource stands behind the mark, and the slash in front of it is read as part of a pair.
    have slash := slash_mem_of_cut (Url.splitMark_eq_some_iff.1 queryCut).1
    have read := addressed.query
    rw [sameQuery, decodeLossy_queryWith, Form.decode_extend_append] at read
    have mark := Form.eq_ampersand_of_decode (List.append_left_eq_self.1 read) '/'
      (Percent.slash_mem_encode_inSpecialQuery slash)
    cases mark

/-- Only a plain name reaches its exchange. -/
theorem plainName_of_addressed (addressed : client.Addressed exchange ask url target) :
    Url.PlainName exchange := by
  obtain ⟨rfl, noHash, noQuestion⟩ := cut.path_eq_behind addressed
  obtain ⟨segment, place, _, named⟩ := addressed.place
  have placed := cut.ofPath?_eq_some_iff.1 place
  obtain ⟨piece, member, written⟩ := exists_piece placed
  have read : Percent.decode (encodeChars piece) = encodeChars exchange.toList := by
    have bytes := Utf8.decode?_eq_some_iff.1 named
    rwa [bytesOf_eq_encodeChars, ← written, Percent.decode_encode, bytesOf_eq_encodeChars] at bytes
  obtain ⟨solid, _, unescaped, noSlash⟩ := Url.eq_of_piece List.filter_sublist member read
  unfold behind at placed noHash noQuestion
  rw [solid] at placed noHash noQuestion
  refine ⟨fun c listed mark => ?_, ?_, by rwa [bytesOf_eq_encodeChars]⟩
  · have kept : (!Url.isIgnored c) = true := List.filter_eq_self.1 solid c listed
    have inside : c ∈ "v1/exchanges/".toList ++
        (exchange.toList ++ '/' :: ask.route.resource.toList) := by
      simp [listed]
    simp only [List.mem_cons, List.not_mem_nil, or_false] at mark
    rcases mark with rfl | rfl | rfl | rfl | ignored
    · exact (noSlash _ listed).1 rfl
    · exact (noSlash _ listed).2 rfl
    · exact noQuestion inside
    · exact noHash inside
    · rcases ignored with rfl | rfl | rfl
      all_goals cases kept
  · have dots : exchange ∉ [".", ".."] := fun listed =>
      length_pathSegments_of_dots ask.route exchange listed (by rw [placed]; rfl)
    simpa using dots

/-- A plain name reaches its exchange. -/
theorem addressed_of_plainName (plain : Url.PlainName exchange) :
    client.Addressed exchange ask url target := by
  obtain ⟨front, fragmentCut, queryCut⟩ := cut.marks
  obtain ⟨noHash, noQuestion⟩ := mark_not_mem_behind ask.route plain
  rw [Url.splitMark_of_not_mem noHash] at fragmentCut
  cases fragmentCut
  rw [Url.splitMark_of_not_mem noQuestion] at queryCut
  cases queryCut
  refine ⟨⟨String.ofList (Percent.encode Percent.inPath exchange.toList), ?_, ask.allows_method _, ?_⟩,
    ?_, cut.fragment⟩
  · exact cut.ofPath?_eq_some_iff.2 (pathSegments_behind ask.route plain)
  · rw [Gateway.exchangeId?, bytesOf_ofList, plain.decode_encode, Utf8.decode?_eq_some_iff]
  · rw [cut.query, decodeLossy_queryWith]
    exact Form.decode_extend (client.pairs ask)

end Cut

/-- The exchanges that a client can reach under their own names are those with plain names, as far as
the address is not too long. -/
theorem reaches_iff {base : String} (server : Url.IsServer base) (token : Option String)
    (signer : Option Signer) (option : Option String)
    (asked : (new base token signer option).HasServer) (exchange : String) (ask : Ask) :
    ∃ url, (new base token signer option).addressOf exchange ask = .ok url ∧
      ((∃ target, targetOf url = .ok target ∧
          (new base token signer option).Addressed exchange ask url target) ↔
        Url.PlainName exchange ∧ (bytesOf url.render).length ≤ Target.maxLength) := by
  obtain ⟨scheme, name, slashes, web, shape, named, plain⟩ := server
  obtain ⟨url, uri, path, query, fragment, address, cut, found⟩ :=
    exists_address web (toList_base_new shape named plain token signer option) named plain asked
      exchange ask
  refine ⟨url, address, ?_⟩
  constructor
  · rintro ⟨target, sent, addressed⟩
    obtain ⟨short, rfl⟩ := (found target).1 sent
    exact ⟨cut.plainName_of_addressed addressed, short⟩
  · rintro ⟨isPlain, short⟩
    exact ⟨uri, (found uri).2 ⟨short, rfl⟩, cut.addressed_of_plainName isPlain⟩

/-- A blank is escaped, and a percent sign without digits stands for itself. -/
theorem reaches_spaced : ∃ url target,
    deskClient.addressOf "okx 100%" .assets = .ok url ∧ targetOf url = .ok target ∧
      deskClient.Addressed "okx 100%" .assets url target := by
  have server : Url.IsServer "http://127.0.0.1:6333/" :=
    ⟨"http".toList, "127.0.0.1:6333".toList, 1, .inl (by decide), by decide, by decide,
      List.all_eq_true.1 (by decide)⟩
  have asked : deskClient.HasServer := by
    refine ⟨⟨"http".toList, some ⟨[], "127.0.0.1".toList, some 6333⟩, .segments [[]], none, none⟩,
      ⟨some (bytesOf "http"), bytesOf "127.0.0.1:6333", bytesOf "/", none⟩, ?_, ?_⟩
    all_goals decide +kernel
  have address : deskClient.addressOf "okx 100%" .assets =
      .ok ⟨"http".toList, some ⟨[], "127.0.0.1".toList, some 6333⟩,
        .segments (segments "okx%20100%" .assets), some "sub-account=desk-a".toList, none⟩ := by
    decide +kernel
  obtain ⟨url, found, reaches⟩ := reaches_iff server none (some Signature.someKey.signer)
    (some "desk-a") asked "okx 100%" .assets
  cases address.symm.trans found
  have marks : "okx 100%".toList.all (fun c => c ∉ ['/', '\\', '?', '#', '\t', '\n', '\r']) = true := by
    decide
  have plain : Url.PlainName "okx 100%" :=
    ⟨fun c listed => of_decide_eq_true (List.all_eq_true.1 marks c listed), by decide,
      Percent.unescaped_of_length_decode (by decide)⟩
  obtain ⟨target, sent, addressed⟩ := reaches.2 ⟨plain, by decide +kernel⟩
  exact ⟨_, target, address, sent, addressed⟩

/-- Dots in a name take the client to another exchange. -/
theorem reaches_other : ∃ s : Settings, s.check = .ok () ∧
    s.exchanges.map Exchange.id = ["okx", "bybit/../okx"] ∧ ∃ url target,
      deskClient.addressOf "bybit/../okx" .assets = .ok url ∧ targetOf url = .ok target ∧
        Gateway.Place.ofPath? (Utf8.decodeLossy target.path) = some (.exchange "okx" .assets) ∧
          Gateway.exchangeId? "okx" = some "okx" ∧
            ¬ deskClient.Addressed "bybit/../okx" .assets url target := by
  have place : Gateway.Place.ofPath? (Utf8.decodeLossy (bytesOf "/v1/exchanges/okx/assets")) =
      some (.exchange "okx" .assets) := by
    decide +kernel
  have named : Gateway.exchangeId? "okx" = some "okx" := by decide +kernel
  refine ⟨{ exchanges := [⟨"okx", []⟩, ⟨"bybit/../okx", []⟩] }, by decide, rfl,
    ⟨"http".toList, some ⟨[], "127.0.0.1".toList, some 6333⟩, .segments (segments "okx" .assets),
      some "sub-account=desk-a".toList, none⟩,
    ⟨some (bytesOf "http"), bytesOf "127.0.0.1:6333", bytesOf "/v1/exchanges/okx/assets",
      some (bytesOf "sub-account=desk-a")⟩, by decide +kernel, by decide +kernel, place, named, ?_⟩
  rintro ⟨⟨segment, other, _, otherName⟩, _, _⟩
  cases place.symm.trans other
  exact absurd (named.symm.trans otherName) (by decide)

end Client
end Countersign
