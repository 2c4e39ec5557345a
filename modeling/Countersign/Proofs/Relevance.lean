import Countersign.Access.Policy
import Countersign.Proofs.Acceptance
import Countersign.Proofs.SignedText

/-! What a signature check looks at: of the headers, the first values of the signing headers, of those
that the signature lists, and of the one that names a sub-account. -/
namespace Countersign

namespace Headers

variable {h h' : Headers} {name : String}

/-- The first values under these names are the same. -/
def AgreeOn (names : List String) (h h' : Headers) : Prop := ∀ name ∈ names, h.get? name = h'.get? name

theorem isGiven_congr (same : h.get? name = h'.get? name) : h.isGiven name = h'.isGiven name := by
  rw [isGiven, isGiven, same]

theorem text?_congr (same : h.get? name = h'.get? name) : h.text? name = h'.text? name := by
  rw [text?, text?, same]

theorem get?_append_of_ne {other : String} (differ : Text.lower other ≠ Text.lower name)
    (value : Bytes) : (h.append name value).get? other = h.get? other := by
  have : (Text.lower other == Text.lower name) = false := by simpa using differ
  simp [get?, append, List.lookup_append, List.lookup_cons, this]

/-- A second value changes no first one. -/
theorem get?_append_of_isSome (present : (h.get? name).isSome) (value : Bytes) (other : String) :
    (h.append name value).get? other = h.get? other := by
  by_cases same : Text.lower other = Text.lower name
  · obtain ⟨first, found⟩ := Option.isSome_iff_exists.1 present
    rw [get?] at found
    rw [get?, get?, append, List.lookup_append, same, found]
    rfl
  · exact get?_append_of_ne same value

theorem get?_remove_of_ne {other : String} (differ : Text.lower other ≠ Text.lower name) :
    (h.remove name).get? other = h.get? other :=
  lookup_filter_ne differ

end Headers

namespace Signature

/-- The names of headers in the list of components, if there is one that reads. -/
def namedHeaders (h : Headers) : List String :=
  match (givenText h inputName).bind Params.parse with
  | .ok params => params.components.filter (·.toList.head? != some '@')
  | .error _ => []

/-- The headers that a signature check reads. -/
def relevant (h : Headers) : List String :=
  [contentDigestName, signatureName, inputName] ++ namedHeaders h

/-- Requests that are the same but for headers. -/
structure SameParts (r r' : Request) : Prop where
  method : r.method = r'.method
  path : r.path = r'.path
  query : r.query = r'.query
  body : r.body = r'.body

variable {h h' : Headers} {r r' : Request}

theorem givenText_congr {name : String} (same : h.get? name = h'.get? name) :
    givenText h name = givenText h' name := by
  rw [givenText, givenText, Headers.isGiven_congr same, Headers.text?_congr same]

theorem mem_namedHeaders {said : Carried} (inside : said.In h) {c : String}
    (listed : c ∈ said.params.components) (noMark : c.toList.head? ≠ some '@') :
    c ∈ namedHeaders h := by
  obtain ⟨text, given, read⟩ := inside.params
  have parsed : Params.parse text = .ok said.params := Outcome.mapError_eq_ok_iff.2 read
  have found : (givenText h inputName).bind Params.parse = .ok said.params := by
    rw [given]
    exact parsed
  simp [namedHeaders, found, listed, noMark]

theorem Carried.read_congr (agree : Headers.AgreeOn (relevant h) h h') :
    Carried.read h = Carried.read h' := by
  rw [Carried.read, Carried.read, givenText_congr (agree contentDigestName (by simp [relevant])),
    givenText_congr (agree signatureName (by simp [relevant])),
    givenText_congr (agree inputName (by simp [relevant]))]

/-- A component stands for the same in requests that differ in other headers. -/
theorem shownValue_congr (parts : SameParts r r') {digest : Labelled} {c : String}
    (same : c.toList.head? ≠ some '@' → r.headers.get? c = r'.headers.get? c) :
    shownValue r digest c = shownValue r' digest c := by
  unfold shownValue componentValue
  rw [parts.method, parts.path, parts.query]
  by_cases mark : c.toList.head? = some '@'
  · simp [mark]
  · rw [Headers.text?_congr (same mark)]

theorem base_eq_of_shownValue_eq {params : Params} {digest : Labelled}
    (values : ∀ c ∈ params.components, shownValue r digest c = shownValue r' digest c) :
    base params r digest = base params r' digest := by
  cases made : base params r digest with
  | error fault => exact (base_eq_error_iff.2 (base_eq_error_iff.1 made)).symm
  | ok text => exact (base_congr (fun c listed => (values c listed).symm) made).symm

/-- Verification reads no other headers. -/
theorem verify_congr (parts : SameParts r r')
    (agree : Headers.AgreeOn (relevant r.headers) r.headers r'.headers) (verifiers : List Verifier)
    (required : List String) : verify verifiers required r = verify verifiers required r' := by
  rw [verify_eq_judge, verify_eq_judge, ← Carried.read_congr agree]
  cases read : Carried.read r.headers with
  | error fault => rfl
  | ok said =>
    have inside := Carried.read_eq_ok_iff.1 read
    have text : base said.params r said.digest = base said.params r' said.digest := by
      apply base_eq_of_shownValue_eq
      intro c listed
      apply shownValue_congr parts
      intro noMark
      exact agree c (List.mem_append_right _ (mem_namedHeaders inside listed noMark))
    rw [Outcome.ok_bind, Outcome.ok_bind, Carried.judge, Carried.judge, text, parts.body]

end Signature

namespace Access

open Signature (SameParts relevant subAccountName verify)

theorem subAccountRequested_congr {h h' : Headers} (query : String)
    (same : h.get? subAccountName = h'.get? subAccountName) :
    subAccountRequested h query = subAccountRequested h' query := by
  rw [subAccountRequested, subAccountRequested, Headers.isGiven_congr same]

theorem Policy.bySignature_congr (p : Policy) {r r' : Request} (parts : SameParts r r')
    (agree : Headers.AgreeOn (subAccountName :: relevant r.headers) r.headers r'.headers) :
    p.bySignature r = p.bySignature r' := by
  have scope := subAccountRequested_congr r.query (agree subAccountName List.mem_cons_self)
  have others : Headers.AgreeOn (relevant r.headers) r.headers r'.headers :=
    fun name member => agree name (List.mem_cons_of_mem _ member)
  rw [bySignature, bySignature, scope, parts.query, Signature.verify_congr parts others]

/-- Whether a signature is accepted depends on the relevant headers only, and on their first values only.
Where a signature is demanded, the header that names a sub-account is one of them. All others may be
there or not, be changed, and repeat. -/
theorem check_reads_relevant :
    (∀ verifiers required r r', SameParts r r' →
      Headers.AgreeOn (relevant r.headers) r.headers r'.headers →
      verify verifiers required r = verify verifiers required r') ∧
    (∀ (p : Policy) r r', SameParts r r' →
      Headers.AgreeOn (subAccountName :: relevant r.headers) r.headers r'.headers →
      p.grant .write r = p.grant .write r') ∧
    (∀ (p : Policy) (r : Request) name value,
      Text.lower name ∉ (subAccountName :: relevant r.headers).map Text.lower →
      p.grant .write { r with headers := r.headers.append name value } = p.grant .write r ∧
        p.grant .write { r with headers := r.headers.insert name value } = p.grant .write r ∧
        p.grant .write { r with headers := r.headers.remove name } = p.grant .write r) ∧
    ∀ (p : Policy) (r : Request) name value, (r.headers.get? name).isSome →
      p.grant .write { r with headers := r.headers.append name value } = p.grant .write r := by
  have parts (r : Request) (headers : Headers) : SameParts r { r with headers } :=
    ⟨rfl, rfl, rfl, rfl⟩
  refine ⟨?_, ?_, ?_, ?_⟩
  · intro verifiers required r r' same agree
    exact Signature.verify_congr same agree verifiers required
  · intro p r r' same agree
    exact p.bySignature_congr same agree
  · intro p r name value irrelevant
    have apart : ∀ other ∈ subAccountName :: relevant r.headers,
        Text.lower other ≠ Text.lower name := by
      intro other member same
      exact irrelevant (List.mem_map.2 ⟨other, member, same⟩)
    refine ⟨?_, ?_, ?_⟩
    all_goals refine (p.bySignature_congr (parts r _) fun other member => ?_).symm
    · exact (Headers.get?_append_of_ne (apart other member) value).symm
    · rw [Headers.get?_insert, if_neg (apart other member)]
    · exact (Headers.get?_remove_of_ne (apart other member)).symm
  · intro p r name value present
    refine (p.bySignature_congr (parts r _) fun other _ => ?_).symm
    exact (Headers.get?_append_of_isSome present value other).symm

/-- A key that takes one signature for whatever it is asked. -/
def carelessKey : Verifier := ⟨fun _ signature => signature == [1]⟩

/-- A transfer out of a sub-account, with the headers that its signature covers. -/
def deskAsked : Request where
  method := "POST"
  path := "/v1/exchanges/okx/account-transfer"
  query := ""
  headers := ⟨[("content-digest", bytesOf (Signature.Labelled.ofBody []).render),
    ("signature-input", bytesOf "iam=(@method @path @query Sub-Account sub-account);created=\"1\""),
    ("signature", bytesOf "iam=:AQ==:"), ("sub-account", bytesOf "desk-a")]⟩
  body := []

/-- The same among headers that nobody signed. -/
def crowded : Request :=
  { deskAsked with headers := ⟨("authorization", bytesOf "Bearer x") :: deskAsked.headers.entries ++
      [("sub-account", bytesOf "desk-b"), ("signature-input", [0xff]), ("x-forwarded-for", [])]⟩ }

/-- Unsigned headers, and second values of signed ones, do not touch a signature. -/
theorem check_reads_relevant_crowded :
    Policy.grant ⟨[], [carelessKey], false⟩ .write crowded =
      .ok (.signature ⟨"iam", Signature.Params.requestParts ++ ["Sub-Account", "sub-account"],
        [("created", "\"1\"")]⟩) := by
  have granted : Policy.grant ⟨[], [carelessKey], false⟩ .write deskAsked =
      .ok (.signature ⟨"iam", Signature.Params.requestParts ++ ["Sub-Account", "sub-account"],
        [("created", "\"1\"")]⟩) := by decide +kernel
  have agree : Headers.AgreeOn (subAccountName :: relevant deskAsked.headers) deskAsked.headers
      crowded.headers := by unfold Headers.AgreeOn; decide +kernel
  rw [← check_reads_relevant.2.1 _ deskAsked crowded ⟨rfl, rfl, rfl, rfl⟩ agree, granted]

end Access

end Countersign
