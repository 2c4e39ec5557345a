import Countersign.Proofs.Origin

/-! What a client sends: whatever it asks of an exchange, the request is for the resource that the
gateway knows, with the pairs that were asked for and nothing else. -/
namespace Countersign

namespace Url

theorem flatMap_slash {segments : List (List Char)} (some : segments ≠ []) :
    segments.flatMap ('/' :: ·) = '/' :: List.intercalate ['/'] segments := by
  induction segments with
  | nil => exact absurd rfl some
  | cons l rest ih =>
    cases rest with
    | nil => simp
    | cons m others =>
      rw [List.flatMap_cons, ih (List.cons_ne_nil m others), List.intercalate_cons_cons]
      simp

/-- The query of an address that pairs were added to. -/
def queryWith (query : Option (List Char)) (pairs : List (String × String)) : Option (List Char) :=
  if pairs.isEmpty then query else some (Form.extend (query.getD []) pairs)

theorem addPairs_eq (url : Url) (pairs : List (String × String)) :
    url.addPairs pairs = { url with query := queryWith url.query pairs } := by
  unfold addPairs queryWith
  split <;> rfl

/-- The bytes of an address at a server. -/
theorem bytesOf_render (scheme : List Char) (a : Authority) {segments : List (List Char)}
    (some : segments ≠ []) (query fragment : Option (List Char)) :
    bytesOf (render ⟨scheme, Option.some a, .segments segments, query, fragment⟩) =
      encodeChars
          (scheme ++ "://".toList ++ a.render ++ '/' :: List.intercalate ['/'] segments) ++
        (Target.queryBytes query ++ Target.fragmentBytes fragment) := by
  have front : "://".toList = [':', '/', '/'] := by decide
  have number : String.utf8EncodeChar '#' = [0x23] := by decide
  rw [render, bytesOf_ofList, renderAddress, UrlPath.render, flatMap_slash some]
  cases query <;> cases fragment <;>
    simp [Target.queryBytes, Target.fragmentBytes, front, encodeChars_cons, marks_question.single,
      number]

end Url

namespace Target

theorem Fits.intercalate {allowed : UInt8 → Bool} {sep : Char} (fits : Fits allowed [sep])
    {pieces : List (List Char)} (each : ∀ l ∈ pieces, Fits allowed l) :
    Fits allowed (List.intercalate [sep] pieces) := by
  intro c member
  rcases mem_of_mem_intercalate member with rfl | ⟨l, listed, inside⟩
  · exact fits c List.mem_cons_self
  · exact each l listed c inside

theorem fits_encodePair (pair : String × String) : Fits isQueryByte (Form.encodePair pair) := by
  have part (text : String) : Fits isQueryByte (Form.encodePart text) := by
    intro c member
    obtain ⟨b, _, here⟩ := List.mem_flatMap.1 member
    have all : Fits isQueryByte (Form.encodeByte b) := forall_byte b (by decide +kernel)
    exact all c here
  intro c member
  rw [Form.encodePair, List.mem_append, List.mem_cons] at member
  rcases member with key | rfl | value
  · exact part _ c key
  · decide
  · exact part _ c value

/-- Pairs that are added to a query leave it one. -/
theorem fits_queryWith {query : Option (List Char)} (fits : ∀ text ∈ query, Fits isQueryByte text)
    (pairs : List (String × String)) :
    ∀ text ∈ Url.queryWith query pairs, Fits isQueryByte text := by
  intro text member
  have ampersand : Fits isQueryByte ['&'] := by decide
  have written : ∀ l ∈ pairs.map Form.encodePair, Fits isQueryByte l := by
    intro l listed
    obtain ⟨pair, _, rfl⟩ := List.mem_map.1 listed
    exact fits_encodePair pair
  unfold Url.queryWith at member
  split at member
  · exact fits text member
  · cases member
    by_cases given : query.getD [] = []
    · rw [given, Form.extend_eq_intercalate]
      exact ampersand.intercalate written
    · rw [Form.extend_of_ne_nil given]
      refine ampersand.intercalate (List.forall_mem_cons.2 ⟨?_, written⟩)
      cases query with
      | none => exact absurd rfl given
      | some before => exact fits before rfl

end Target

namespace Client

/-- At a server, what is asked for is what the address was put together from. -/
theorem targetOf_eq_ok_iff {scheme : List Char} (web : Url.IsWeb scheme) {a : Authority}
    (plain : ∀ c ∈ a.render, c ∉ Url.endMarks) {segments : List (List Char)} (some : segments ≠ [])
    (fitsPath : ∀ l ∈ segments, Target.Fits Target.isPathByte l)
    {query : Option (List Char)} (fitsQuery : ∀ text ∈ query, Target.Fits Target.isQueryByte text)
    {fragment : Option (List Char)} {url : Url}
    (shape : url = ⟨scheme, Option.some a, .segments segments, query, fragment⟩)
    {target : Target.Uri} :
    targetOf url = .ok target ↔ (bytesOf url.render).length ≤ Target.maxLength ∧
      Target.Opens a.render ∧
        target = ⟨Option.some (encodeChars scheme), encodeChars a.render,
          encodeChars ('/' :: List.intercalate ['/'] segments), query.map encodeChars⟩ := by
  have slash : Target.Fits Target.isPathByte ['/'] := by decide
  rw [targetOf, Outcome.mapError_eq_ok_iff, shape]
  exact Target.parse_eq_ok_iff web plain (slash.intercalate fitsPath) fitsQuery
    (Url.bytesOf_render scheme a some query fragment)

/-- The segments of the path of a resource. -/
def segments (exchange : String) (route : Gateway.Route) : List (List Char) :=
  ["v1".toList, "exchanges".toList, exchange.toList, route.resource.toList]

theorem isWord_segments {exchange : String} (word : Url.IsWord exchange.toList)
    (route : Gateway.Route) : ∀ l ∈ segments exchange route, Url.IsWord l := by
  have fixed : Url.IsWord "v1".toList ∧ Url.IsWord "exchanges".toList := by decide
  have resource : Url.IsWord route.resource.toList := by
    cases route
    all_goals decide
  intro l listed
  simp only [segments, List.mem_cons, List.not_mem_nil, or_false] at listed
  rcases listed with rfl | rfl | rfl | rfl
  · exact fixed.1
  · exact fixed.2
  · exact word
  · exact resource

theorem toList_exchangePath (exchange : String) (route : Gateway.Route) :
    (exchangePath exchange route).toList =
      '/' :: List.intercalate ['/'] (segments exchange route) := by
  have front : "/v1/exchanges/".toList = '/' :: ("v1".toList ++ '/' :: ("exchanges".toList ++ ['/'])) := by
    decide
  have slash : "/".toList = ['/'] := by decide
  rw [exchangePath, String.toList_append, String.toList_append, String.toList_append, front, slash]
  simp [segments]

/-- Slashes behind the address of a server are taken off. -/
theorem toList_base_new {base : String} {front name : List Char} {slashes : Nat}
    (shape : base.toList = front ++ name ++ List.replicate slashes '/') (named : name ≠ [])
    (plain : ∀ c ∈ name, Url.isNameChar c = true) (token : Option String) (signer : Option Signer)
    (option : Option String) : (new base token signer option).base.toList = front ++ name := by
  obtain ⟨c, rest, reversed⟩ := List.exists_cons_of_ne_nil (List.reverse_ne_nil_iff.2 named)
  have stop : (c == '/') = false := by
    have last : c ∈ name := List.mem_reverse.1 (reversed ▸ List.mem_cons_self)
    simpa using (Url.isNameChar_ne (plain c last)).2.1
  have dropped : (name.reverse ++ front.reverse).dropWhile (· == '/') =
      name.reverse ++ front.reverse := by
    rw [reversed, List.cons_append, List.dropWhile_cons, stop]
    rfl
  have slash : ∀ c ∈ List.replicate slashes '/', (c == '/') = true := by
    intro c member
    rw [List.eq_of_mem_replicate member]
    rfl
  rw [new, String.toList_ofList, shape, List.reverse_append, List.reverse_replicate,
    List.dropWhile_append_of_pos slash, List.reverse_append, dropped, ← List.reverse_append,
    List.reverse_reverse]

/-- The request before it is authenticated. -/
def sent (client : Client) (exchange : String) (ask : Ask) (headers : Headers) : Request where
  method := ask.method
  path := exchangePath exchange ask.route
  query := String.ofList (Form.extend [] (client.pairs ask))
  headers
  body := ask.body?.getD []

/-- The address of what is asked at a server, before it is read. -/
theorem base_append_exchangePath {client : Client} {front : List Char}
    (base : client.base.toList = front) (exchange : String) (route : Gateway.Route) :
    client.base ++ exchangePath exchange route =
      String.ofList (front ++ '/' :: List.intercalate ['/'] (segments exchange route)) := by
  rw [← String.toList_inj, String.toList_append, String.toList_ofList, base, toList_exchangePath]

theorem decodeLossy_encodeChars (l : List Char) :
    Utf8.decodeLossy (encodeChars l) = String.ofList l := by
  rw [Utf8.decodeLossy, decode?_encodeChars, Option.getD_some]

/-- The query that arrives, with the pairs that were added to it. -/
theorem decodeLossy_queryWith (query : Option (List Char)) (pairs : List (String × String)) :
    Utf8.decodeLossy (((Url.queryWith query pairs).map encodeChars).getD []) =
      String.ofList (Form.extend (query.getD []) pairs) := by
  unfold Url.queryWith
  split
  · rename_i none
    rw [List.isEmpty_iff.1 none, Form.extend]
    cases query with
    | none => rfl
    | some text => exact decodeLossy_encodeChars text
  · exact decodeLossy_encodeChars _

/-- At a server, the address of what is asked is cut into what it was put together from. -/
theorem target_of_address {client : Client} {scheme name : List Char} (web : Url.IsWeb scheme)
    (base : client.base.toList = scheme ++ "://".toList ++ name) (named : name ≠ [])
    (plain : ∀ c ∈ name, Url.isNameChar c = true) {exchange : String}
    (word : Url.IsWord exchange.toList) {ask : Ask} {url : Url} {target : Target.Uri}
    (address : client.addressOf exchange ask = .ok url) (found : targetOf url = .ok target) :
    Utf8.decodeLossy target.path = exchangePath exchange ask.route ∧
      Utf8.decodeLossy (target.query.getD []) =
        String.ofList (Form.extend [] (client.pairs ask)) := by
  have some : segments exchange ask.route ≠ [] := List.cons_ne_nil _ _
  have words := isWord_segments word ask.route
  have noUser : '@' ∉ name := fun member => (Url.isNameChar_ne (plain '@' member)).2.2.2.2.2 rfl
  rw [addressOf, base_append_exchangePath base, Url.parse_words web named plain some words] at address
  cases parsed : Url.parseAuthority scheme name with
  | error why =>
    rw [parsed] at address
    cases address
  | ok a =>
    rw [parsed] at address
    cases address
    rw [Url.addPairs_eq] at found
    have fitsPath : ∀ l ∈ segments exchange ask.route, Target.Fits Target.isPathByte l :=
      fun l listed => Target.fits_word (words l listed)
    have fitsQuery : ∀ text ∈ (none : Option (List Char)), Target.Fits Target.isQueryByte text :=
      fun _ absent => by cases absent
    obtain ⟨_, _, rfl⟩ := (targetOf_eq_ok_iff web (Url.render_not_endMark web noUser parsed) some
      fitsPath (Target.fits_queryWith fitsQuery (client.pairs ask)) rfl).1 found
    constructor
    · rw [decodeLossy_encodeChars, ← toList_exchangePath, String.ofList_toList]
    · exact decodeLossy_queryWith none (client.pairs ask)

/-- What is prepared for a server is what is asked, authenticated. -/
theorem of_prepare_eq_ok {base : String} (origin : Url.IsOrigin base) {token : Option String}
    {signer : Option Signer} {option : Option String} {exchange : String}
    (word : Url.IsWord exchange.toList) {now : Int} {ask : Ask} {p : Prepared}
    (prepared : (new base token signer option).prepare now exchange ask = .ok p) :
    ∃ headers, (new base token signer option).withSubAccount (withType ask) = .ok headers ∧
      (new base token signer option).authenticate now ask
        ((new base token signer option).sent exchange ask headers) = .ok p.request := by
  obtain ⟨name, slashes, shape, named, plain⟩ := origin
  simp only [prepare, Outcome.bind_eq_ok_iff, Outcome.pure_eq_ok_iff] at prepared
  obtain ⟨url, address, target, found, headers, given, request, authenticated, rfl⟩ := prepared
  have front : "http://".toList = "http".toList ++ "://".toList := by decide
  rw [front] at shape
  obtain ⟨path, query⟩ := target_of_address (.inl rfl)
    (toList_base_new shape named plain token signer option) named plain word address found
  rw [path, query] at authenticated
  exact ⟨headers, given, authenticated⟩

section

variable {client : Client} {signer : Signer} (only : client.token = none)
  (signs : client.signer = some signer)
include only signs

/-- With a key and no token everything is signed. -/
theorem means_eq_signature (ask : Ask) : client.means ask = .ok (.signature signer) := by
  unfold means
  cases ask.route.kind with
  | write => simp [signs]
  | read => simp [only, signs]
  | reference => simp [only, signs]

theorem authenticate_eq_ok {now : Int} {ask : Ask} {r signed : Request}
    (authenticated : client.authenticate now ask r = .ok signed) :
    Signature.sign signer now client.covered r = (.ok (), signed) := by
  rw [authenticate, means_eq_signature only signs, Outcome.ok_bind] at authenticated
  dsimp only at authenticated
  cases made : Signature.sign signer now client.covered r with
  | mk result request =>
    rw [made] at authenticated
    cases result with
    | error why => cases authenticated
    | ok =>
      cases authenticated
      rfl

end

end Client

end Countersign
