import Countersign.Proofs.Discretion
import Countersign.Proofs.Refusals
import Countersign.Proofs.SignedText

/-! Which credential counts. Reading asks for a signature just where no token is offered, and then takes
what writing takes. -/
namespace Countersign

namespace Text

theorem fields_eq_pair_iff {sep : Char} {s first second : String} :
    fields sep s = [first, second] ↔
      s.toList = first.toList ++ sep :: second.toList ∧
        ∀ word ∈ [first, second], sep ∉ word.toList := by
  have lists : fields sep s = [first, second] ↔
      s.toList.splitOn sep = [first.toList, second.toList] := by
    constructor
    · intro words
      have pieces := congrArg (List.map String.toList) words
      simpa [fields, Function.comp_def] using pieces
    · intro pieces
      simp [fields, pieces]
  rw [lists]
  simp only [List.forall_mem_cons, List.not_mem_nil, false_implies, implies_true, and_true]
  constructor
  · intro pieces
    have whole : List.intercalate [sep] (s.toList.splitOn sep) = s.toList :=
      List.intercalate_splitOn sep
    have fresh (piece : List Char) (member : piece ∈ s.toList.splitOn sep) : sep ∉ piece :=
      not_mem_of_mem_splitOn member
    rw [pieces] at whole fresh
    exact ⟨by simpa using whole.symm, fresh _ (by simp), fresh _ (by simp)⟩
  · rintro ⟨whole, first', second'⟩
    rw [whole, List.splitOn_append_cons_self_of_not_mem first', List.splitOn_eq_singleton second']

end Text

namespace Access

/-- The first authorization header is text: blanks at its ends apart, two words with one blank between
them. -/
def TwoWords (h : Headers) (scheme token : String) : Prop :=
  ∃ value, h.text? "authorization" = some value ∧ Text.trim value = scheme ++ " " ++ token ∧
    ∀ word ∈ [scheme, token], word ≠ "" ∧ ' ' ∉ word.toList

/-- Two words are cut out of a text without blanks at its ends, so that neither is empty. -/
theorem fields_trim_eq_pair_iff {value scheme token : String} :
    Text.fields ' ' (Text.trim value) = [scheme, token] ↔
      Text.trim value = scheme ++ " " ++ token ∧
        ∀ word ∈ [scheme, token], word ≠ "" ∧ ' ' ∉ word.toList := by
  have shape : (Text.trim value).toList = scheme.toList ++ ' ' :: token.toList ↔
      Text.trim value = scheme ++ " " ++ token := by
    rw [← String.toList_inj]
    simp [String.toList_append]
  rw [Text.fields_eq_pair_iff, shape]
  constructor
  · rintro ⟨whole, fresh⟩
    refine ⟨whole, fun word member => ⟨?_, fresh word member⟩⟩
    rintro rfl
    have chars := shape.2 whole
    rw [Text.toList_trim] at chars
    have blank : Text.isBlank ' ' = true := by decide
    simp only [List.mem_cons, List.not_mem_nil, or_false] at member
    rcases member with rfl | rfl
    · have := Text.not_of_head?_dropEnds (p := Text.isBlank) (l := value.toList) (x := ' ')
        (by rw [chars]; rfl)
      simp [blank] at this
    · have := Text.not_of_getLast?_dropEnds (p := Text.isBlank) (l := value.toList) (x := ' ')
        (by rw [chars]; simp)
      simp [blank] at this
  · rintro ⟨whole, words⟩
    exact ⟨whole, fun word member => (words word member).2⟩

theorem offer_of_twoWords {h : Headers} {scheme token : String} (words : TwoWords h scheme token) :
    offer h = if scheme = "Bearer" then .bearer token else .other := by
  obtain ⟨value, text, pair⟩ := words
  rw [offer, text]
  dsimp only
  rw [Offer.read, fields_trim_eq_pair_iff.2 pair]
  by_cases bearer : scheme = "Bearer"
  · subst bearer
    simp
  · rw [if_neg bearer]
    split
    · rename_i same
      cases same
      exact absurd rfl bearer
    · rfl
    · rename_i none
      exact absurd rfl (none _ _)

/-- Whatever is not two words is no offer. -/
theorem offer_eq_nothing_iff {h : Headers} :
    offer h = .nothing ↔ ∀ scheme token, ¬ TwoWords h scheme token := by
  constructor
  · intro nothing scheme token words
    rw [offer_of_twoWords words] at nothing
    split at nothing <;> cases nothing
  · intro none
    cases text : h.text? "authorization" with
    | none => simp [offer, text]
    | some value =>
      have pairless (scheme token : String) :
          Text.fields ' ' (Text.trim value) ≠ [scheme, token] := fun pieces =>
        none scheme token ⟨value, text, fields_trim_eq_pair_iff.1 pieces⟩
      rw [offer, text]
      dsimp only
      rw [Offer.read]
      split
      · rename_i pieces
        exact absurd pieces (pairless _ _)
      · rename_i pieces
        exact absurd pieces (pairless _ _)
      · rfl

/-- What two words get. Only `Bearer` is a scheme, and the first token with this secret gives the name. -/
inductive Answered (tokens : List Token) : String → String → Except Fault Credential → Prop where
  | known {front back : List Token} {t : Token} (listed : tokens = front ++ t :: back)
    (first : ∀ u ∈ front, u.secret ≠ t.secret) :
    Answered tokens "Bearer" t.secret (.ok (.bearer t.id))
  | unknown {token : String} (none : ∀ t ∈ tokens, t.secret ≠ token) :
    Answered tokens "Bearer" token (.error .invalidToken)
  | other {scheme token : String} (differ : scheme ≠ "Bearer") :
    Answered tokens scheme token (.error .malformedCredential)

theorem Policy.answered_byToken (p : Policy) (secret : String) :
    Answered p.tokens "Bearer" secret (p.byToken secret) := by
  rw [byToken]
  cases found : p.tokens.find? (·.secret == secret) with
  | none =>
    rw [List.find?_eq_none] at found
    exact .unknown (by simpa using found)
  | some t =>
    obtain ⟨same, front, back, listed, first⟩ := List.find?_eq_some_iff_append.1 found
    obtain rfl : t.secret = secret := by simpa using same
    exact .known listed (by simpa using first)

theorem Policy.answered_forReading {p : Policy} (guarded : p.publicRead = false) {r : Request}
    {scheme token : String} (words : TwoWords r.headers scheme token) :
    Answered p.tokens scheme token (p.forReading r) := by
  rw [forReading, offer_of_twoWords words]
  by_cases bearer : scheme = "Bearer"
  · subst bearer
    simpa [guarded] using p.answered_byToken token
  · simpa [guarded, bearer] using Answered.other bearer

end Access

namespace Signature

open Outcome (FailsWith)

/-- Not that a header is missing. -/
def NotMissing (fault : Fault) : Prop := ∀ name, fault ≠ .missingHeader name

theorem notMissing_malformed (name : String) (why : Malformation) :
    NotMissing (.malformedHeader name why) := by
  simp [NotMissing]

theorem givenText_fails {h : Headers} {name : String} (given : h.isGiven name = true) :
    FailsWith NotMissing (givenText h name) := by
  rw [givenText, if_pos given]
  split
  · exact .ok _
  · exact .error (notMissing_malformed _ _)

theorem Carried.read_fails {h : Headers} (given : Access.hasSignature h = true) :
    FailsWith NotMissing (Carried.read h) := by
  rw [Access.hasSignature, List.all_eq_true] at given
  refine (givenText_fails (given _ (by simp))).bind fun _ => ?_
  refine (givenText_fails (given _ (by simp))).bind fun _ => ?_
  refine (givenText_fails (given _ (by simp))).bind fun _ => ?_
  refine FailsWith.bind (.mapError fun _ => notMissing_malformed _ _) fun _ => ?_
  refine FailsWith.bind (.mapError fun _ => notMissing_malformed _ _) fun _ => ?_
  exact FailsWith.bind (.mapError fun _ => notMissing_malformed _ _) fun _ => .ok _

theorem checkCovered_fails (params : Params) (names : List String) :
    FailsWith NotMissing (checkCovered params names) := by
  induction names with
  | nil => exact .ok ()
  | cons name rest ih =>
    rw [checkCovered]
    split
    · exact ih
    · exact .error (by simp [NotMissing])

theorem base_fails (params : Params) (r : Request) (digest : Labelled) :
    FailsWith NotMissing (base params r digest) := by
  intro fault failed name same
  obtain ⟨c, _, unsupported⟩ := base_eq_error_iff.1 failed
  rw [unsupported] at same
  cases same

/-- Where all three signing headers are given, none is reported missing. -/
theorem verify_fails {r : Request} (given : Access.hasSignature r.headers = true)
    (verifiers : List Verifier) (required : List String) :
    FailsWith NotMissing (verify verifiers required r) := by
  rw [verify_eq_judge]
  refine (Carried.read_fails given).bind fun said => ?_
  refine (checkCovered_fails said.params _).bind fun _ => .guard _ (by simp [NotMissing]) ?_
  refine (base_fails said.params r said.digest).bind fun text => ?_
  split
  · exact .ok _
  · exact .error (by simp [NotMissing])

end Signature

namespace Access

theorem hasSignature_eq_false_iff {h : Headers} :
    hasSignature h = false ↔
      ∃ name ∈ [Signature.contentDigestName, Signature.signatureName, Signature.inputName],
        ∀ value, h.get? name = some value → value = [] := by
  have absent (name : String) : h.isGiven name = false ↔
      ∀ value, h.get? name = some value → value = [] := by
    rw [Headers.isGiven]
    cases h.get? name <;> simp
  simp only [hasSignature, List.all_eq_false, Bool.not_eq_true, absent]
  constructor
  · rintro ⟨name, member, here⟩
    exact ⟨name, by revert member; simp; tauto, here⟩
  · rintro ⟨name, member, here⟩
    exact ⟨name, by revert member; simp; tauto, here⟩

/-- Routes for reading and for writing agree on a request. -/
structure Consistent (p : Policy) (r : Request) : Prop where
  /-- Reading takes the signatures that writing takes, but not beside two words of authorization. -/
  signed : ∀ params, p.grant .read r = .ok (.signature params) ↔
    p.grant .write r = .ok (.signature params) ∧
      ∀ scheme token, ¬ TwoWords r.headers scheme token
  words : ∀ scheme token, TwoWords r.headers scheme token →
    Answered p.tokens scheme token (p.grant .read r)
  /-- Beside two words nothing else counts. -/
  alone : ∀ r' scheme token, TwoWords r.headers scheme token → TwoWords r'.headers scheme token →
    p.grant .read r = p.grant .read r'
  incomplete : ∀ name ∈ [Signature.contentDigestName, Signature.signatureName, Signature.inputName],
    (∀ value, r.headers.get? name = some value → value = []) →
      (∀ scheme token, ¬ TwoWords r.headers scheme token) →
        p.grant .read r = .error .missingCredential ∧ ∃ fault, p.grant .write r = .error fault
  neverMissing : ∀ name, p.grant .read r ≠ .error (.signature (.missingHeader name))

/-- A policy that guards its reading decides alike on routes for reading and for writing. -/
theorem consistent_of_guarded {p : Policy} (guarded : p.publicRead = false) (r : Request) :
    Consistent p r where
  signed params := by
    rw [← offer_eq_nothing_iff]
    constructor
    · intro granted
      obtain ⟨⟨_, nothing, _⟩, signed⟩ := Policy.forReading_eq_signature_iff.1 granted
      exact ⟨signed, nothing⟩
    · rintro ⟨signed, nothing⟩
      obtain ⟨found, accepted, _⟩ := bySignature_eq_ok_iff.1 signed
      exact Policy.forReading_eq_signature_iff.2
        ⟨⟨guarded, nothing, hasSignature_of_verify accepted⟩, signed⟩
  words scheme token words := Policy.answered_forReading guarded words
  alone r' scheme token words words' := by
    change p.forReading r = p.forReading r'
    rw [Policy.forReading, Policy.forReading, offer_of_twoWords words, offer_of_twoWords words']
    by_cases bearer : scheme = "Bearer" <;> simp [bearer]
  incomplete name member absent none := by
    have unsealed : hasSignature r.headers = false :=
      hasSignature_eq_false_iff.2 ⟨name, member, absent⟩
    constructor
    · change p.forReading r = _
      rw [Policy.forReading, offer_eq_nothing_iff.2 none]
      simp [guarded, unsealed]
    · cases written : p.grant .write r with
      | error fault => exact ⟨fault, rfl⟩
      | ok credential =>
        obtain ⟨params, accepted, _⟩ := bySignature_eq_ok_iff.1 written
        rw [hasSignature_of_verify accepted] at unsealed
        cases unsealed
  neverMissing name failed := by
    change p.forReading r = _ at failed
    rw [Policy.forReading, guarded] at failed
    cases offered : offer r.headers with
    | bearer secret =>
      simp only [offered] at failed
      cases Policy.byToken_eq_error failed
    | other => simp [offered] at failed
    | nothing =>
      cases sealed : hasSignature r.headers with
      | false => simp [offered, sealed] at failed
      | true =>
        simp only [offered, sealed, if_true] at failed
        obtain ⟨why, refused, same⟩ := Policy.bySignature_eq_error_iff.1 failed
        cases same
        exact Signature.verify_fails sealed _ _ _ refused name rfl

/-- A request with these words of authorization beside signing headers that say nothing. -/
def tagged (authorization : String) : Request where
  method := "GET"
  path := "/v1/exchanges/okx/balances"
  query := ""
  headers := ⟨[("authorization", bytesOf authorization), ("content-digest", bytesOf "x"),
    ("signature", bytesOf "x"), ("signature-input", bytesOf "x")]⟩
  body := []

def readers : Policy := ⟨[⟨"first", "t"⟩, ⟨"second", "t"⟩], [], false⟩

/-- Of two tokens with one secret the first gives its name, whatever the signing headers say. -/
theorem consistent_of_guarded_tagged :
    readers.publicRead = false ∧ TwoWords (tagged " Bearer t").headers "Bearer" "t" ∧
      Answered readers.tokens "Bearer" "t" (readers.grant .read (tagged " Bearer t")) ∧
      readers.grant .read (tagged " Bearer t") = .ok (.bearer "first") := by
  have guarded : readers.publicRead = false := rfl
  have words : TwoWords (tagged " Bearer t").headers "Bearer" "t" :=
    ⟨" Bearer t", by decide +kernel, by decide +kernel, by decide⟩
  refine ⟨guarded, words, (consistent_of_guarded guarded _).words _ _ words, ?_⟩
  decide +kernel

/-- With two blanks between them they are no two words, and the signing headers count. -/
example : readers.grant .read (tagged "Bearer  t") =
    .error (.signature (.malformedHeader Signature.contentDigestName .missingEquals)) := by
  decide +kernel

end Access

end Countersign
