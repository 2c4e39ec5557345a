import Countersign.Proofs.Acceptance

/-! Which signatures hold a request to its body. The digest of the body is signed if the list of
components says so, and the list is the signer's. -/
namespace Countersign.Signature

/-- Some component reads the digest header. Names of headers are looked up in any case. -/
def Params.coversDigest (params : Params) : Bool :=
  params.components.any (Text.lower · == contentDigestName)

/-- No signature belongs to two messages. -/
def Binding (verifiers : List Verifier) : Prop :=
  ∀ message message' signature,
    verifiers.any (·.accepts message signature) = true →
      verifiers.any (·.accepts message' signature) = true → message = message'

/-- The same request but for its body and the digest of that. -/
structure Rebodied (r r' : Request) : Prop where
  method : r'.method = r.method
  path : r'.path = r.path
  query : r'.query = r.query
  others : ∀ name, Text.lower name ≠ contentDigestName → r'.headers.get? name = r.headers.get? name
  digest : r'.headers.text? contentDigestName = some (Labelled.ofBody r'.body).render

theorem lower_contentDigestName : Text.lower contentDigestName = contentDigestName := by decide

theorem text?_of_lower_eq {h : Headers} {name other : String}
    (same : Text.lower name = Text.lower other) : h.text? name = h.text? other := by
  rw [Headers.text?, Headers.text?, Headers.get?, Headers.get?, same]

/-- What reads the digest header is no part of the request. -/
theorem not_part_of_lower {name : String} (digest : Text.lower name = contentDigestName) :
    name ∉ Params.requestParts ∧ name.toList.head? ≠ some '@' := by
  have mark : name.toList.head? ≠ some '@' := by
    intro mark
    have lowered : (Text.lower name).toList.head? = some '@' := by
      rw [Text.lower, String.toList_ofList, List.head?_map, mark]
      rfl
    rw [digest] at lowered
    revert lowered
    decide
  have parts : ∀ part ∈ Params.requestParts, part.toList.head? = some '@' := by decide
  exact ⟨fun part => mark (parts name part), mark⟩

theorem shownValue_of_lower {r : Request} {digest : Labelled} {name : String}
    (lowered : Text.lower name = contentDigestName) (other : name ≠ contentDigestName) :
    shownValue r digest name = (r.headers.text? contentDigestName).getD "" := by
  obtain ⟨notPart, noMark⟩ := not_part_of_lower lowered
  rw [shownValue_header r digest notPart other noMark,
    text?_of_lower_eq (lowered.trans lower_contentDigestName.symm)]

theorem oneLine_shownValue_of_lower {r : Request} {digest : Labelled} {name : String}
    (lowered : Text.lower name = contentDigestName) (label : Text.OneLine digest.label) :
    Text.OneLine (shownValue r digest name) := by
  by_cases plainName : name = contentDigestName
  · rw [plainName, shownValue_digest]
    exact Labelled.oneLine_render label
  · rw [shownValue_of_lower lowered plainName]
    exact Headers.oneLine_getD_text? r.headers contentDigestName

namespace Rebodied

variable {r r' : Request} (rebodied : Rebodied r r')
include rebodied

theorem givenText_eq {name : String} (other : Text.lower name ≠ contentDigestName) :
    givenText r'.headers name = givenText r.headers name := by
  rw [givenText, givenText, Headers.isGiven, Headers.isGiven, Headers.text?, Headers.text?,
    rebodied.others name other]

/-- The signing headers say the same, but for the digest. -/
theorem carried {said : Carried} (inside : said.In r.headers) :
    Carried.In { said with digest := Labelled.ofBody r'.body } r'.headers where
  digest := by
    refine ⟨_, givenText_eq_ok_iff.2 ⟨?_, rebodied.digest⟩,
      Labelled.read_render (Labelled.label_ofBody r'.body)⟩
    obtain ⟨value, found, text⟩ := Option.bind_eq_some_iff.1 rebodied.digest
    rw [Headers.isGiven, found, Option.any_some, Bool.not_eq_true']
    cases value with
    | nil =>
      have none : Headers.textOf? [] = some "" := by decide
      rw [none, Option.some.injEq] at text
      have chars : ("" : String).toList = (Labelled.ofBody r'.body).render.toList :=
        congrArg _ text
      rw [Labelled.toList_render] at chars
      simp at chars
    | cons b rest => rfl
  signature := by
    rw [rebodied.givenText_eq (by decide)]
    exact inside.signature
  params := by
    rw [rebodied.givenText_eq (by decide)]
    exact inside.params

/-- What does not read the digest header stands for the same. -/
theorem shownValue_eq {digest digest' : Labelled} {name : String}
    (other : Text.lower name ≠ contentDigestName) :
    shownValue r' digest' name = shownValue r digest name := by
  have notDigest : name ≠ contentDigestName := by
    rintro rfl
    exact other lower_contentDigestName
  simp only [shownValue, componentValue, rebodied.method, rebodied.path, rebodied.query,
    Headers.text?, rebodied.others name other, if_neg notDigest]

/-- What reads it stands for different values on one line each, if the digests differ. -/
theorem shownValue_ne {said : Carried} (inside : said.In r.headers) {name : String}
    (lowered : Text.lower name = contentDigestName)
    (differ : Sha2.sha256 r'.body ≠ said.digest.bytes) :
    shownValue r' (Labelled.ofBody r'.body) name ≠ shownValue r said.digest name := by
  have apart : Labelled.ofBody r'.body ≠ said.digest :=
    fun same => differ (congrArg Labelled.bytes same)
  intro same
  by_cases plainName : name = contentDigestName
  · rw [plainName, shownValue_digest, shownValue_digest] at same
    exact apart (Labelled.render_injective (Labelled.label_ofBody r'.body) inside.label_digest same)
  · obtain ⟨text, given, read⟩ := inside.digest
    rw [shownValue_of_lower lowered plainName, shownValue_of_lower lowered plainName,
      rebodied.digest, (givenText_eq_ok_iff.1 given).2, Option.getD_some, Option.getD_some] at same
    rw [← same, Labelled.read_render (Labelled.label_ofBody r'.body)] at read
    exact apart (Except.ok.inj read)

/-- A list that reads the digest header is signed as another text. -/
theorem base_ne {said : Carried} (inside : said.In r.headers)
    (differ : Sha2.sha256 r'.body ≠ said.digest.bytes) (covered : said.params.coversDigest = true)
    {text text' : String} (made : base said.params r said.digest = .ok text)
    (made' : base said.params r' (Labelled.ofBody r'.body) = .ok text') : text' ≠ text := by
  rintro rfl
  obtain ⟨name, listed, lowered⟩ := List.any_eq_true.1 covered
  rw [beq_iff_eq] at lowered
  have lines := (base_eq_ok_iff.1 made').2.symm.trans (base_eq_ok_iff.1 made).2
  rw [baseLines, baseLines, joinLines_append, joinLines_append] at lines
  have alike : ∀ c ∈ said.params.components,
      shownValue r' (Labelled.ofBody r'.body) c = shownValue r said.digest c ∨
        (Text.OneLine (shownValue r' (Labelled.ofBody r'.body) c) ∧
          Text.OneLine (shownValue r said.digest c)) := by
    intro c _
    by_cases here : Text.lower c = contentDigestName
    · right
      exact ⟨oneLine_shownValue_of_lower here (Labelled.oneLine_label_ofBody r'.body),
        oneLine_shownValue_of_lower here inside.oneLine_digest⟩
    · left
      exact rebodied.shownValue_eq here
  have values := (values_eq_of_joinLines_eq alike lines).1
  exact rebodied.shownValue_ne inside lowered differ (values name listed)

/-- Any other list is signed as the same text. -/
theorem base_eq {params : Params} {digest digest' : Labelled}
    (uncovered : params.coversDigest = false) {text : String}
    (made : base params r digest = .ok text) : base params r' digest' = .ok text := by
  refine base_congr (fun c listed => ?_) made
  have other : Text.lower c ≠ contentDigestName := by
    intro here
    have covered : params.coversDigest = true :=
      List.any_eq_true.2 ⟨c, listed, beq_iff_eq.2 here⟩
    rw [uncovered] at covered
    cases covered
  exact rebodied.shownValue_eq other

end Rebodied

/-- Another body under an accepted signature is refused just if the signer's list reads the digest
header. Nothing else of the list, and nothing that is demanded of it, holds the body. -/
theorem verify_rebodied {verifiers : List Verifier} {required : List String} {r r' : Request}
    {params : Params} (binding : Binding verifiers)
    (accepted : verify verifiers required r = .ok params) (rebodied : Rebodied r r')
    (differ : Sha2.sha256 r'.body ≠ Sha2.sha256 r.body) :
    verify verifiers required r' =
      if params.coversDigest then .error .invalidSignature else .ok params := by
  obtain ⟨said, inside, judged⟩ := verify_eq_ok_iff.1 accepted
  obtain ⟨rfl, demanded, digest, text, made, agreed⟩ := Carried.judge_eq_ok_iff.1 judged
  have read := Carried.read_eq_ok_iff.2 (rebodied.carried inside)
  rw [verify_eq_judge, read, Outcome.ok_bind]
  split
  · rename_i covered
    rw [digest] at differ
    obtain ⟨text', made'⟩ :=
      exists_base r' (Labelled.ofBody r'.body) (base_eq_ok_iff.1 made).1
    refine Carried.judge_eq_invalidSignature demanded rfl made' ?_
    rw [Bool.eq_false_iff]
    intro agreed'
    have same : text' = text := bytesOf_injective (binding _ _ _ agreed' agreed)
    exact rebodied.base_ne inside differ covered made made' same
  · rename_i uncovered
    rw [Bool.not_eq_true] at uncovered
    refine Carried.judge_eq_ok_iff.2 ⟨rfl, demanded, rfl, text, ?_, agreed⟩
    exact rebodied.base_eq uncovered made

theorem binding_solely (text signature : String) : Binding (solely text signature) := by
  intro message message' bytes accepted accepted'
  simp only [solely, List.any_cons, List.any_nil, Bool.or_false, Bool.and_eq_true, beq_iff_eq]
    at accepted accepted'
  rw [accepted.1, accepted'.1]

/-- A transfer under these signing headers, with the digest of its body. -/
def posted (input signature : String) (body : String) : Request where
  method := "POST"
  path := "/v1/exchanges/okx/account-transfer"
  query := ""
  headers :=
    ((Headers.empty.insert inputName (bytesOf input)).insert signatureName
      (bytesOf signature)).insert contentDigestName
      (bytesOf (Labelled.ofBody (bytesOf body)).render)
  body := bytesOf body

theorem rebodied_posted {input signature body body' : String}
    (text : (posted input signature body').headers.text? contentDigestName =
      some (Labelled.ofBody (bytesOf body')).render) :
    Rebodied (posted input signature body) (posted input signature body') where
  method := rfl
  path := rfl
  query := rfl
  others := by
    intro name other
    have differ : Text.lower name ≠ Text.lower contentDigestName := by
      rwa [lower_contentDigestName]
    simp only [posted, Headers.get?_insert, if_neg differ]
  digest := text

def coveredInput : String := "iam=(@method @path @query content-digest);created=\"1\""

def coveredText : String :=
  "\"@method\": POST\n\"@path\": /v1/exchanges/okx/account-transfer\n\"@query\": \n" ++
    "\"content-digest\": sha-256=:RBNvo1WzZ4oRRq0W9+hknpT7T8If536DEMBg9hyq/4o=:\n" ++
    "\"@signature-params\": (@method @path @query content-digest);created=\"1\"\n"

def coveredSignature : String :=
  "iam=:0vZ953jv+9JFbg2O/TwRIgMe1tcDwBl0koa/xXDbZr4j0j3R3bDb2d5m7ZY4iyLJf7tYwGXxlqg0dWQ8Zb4NCw==:"

/-- A signed digest goes with no other body. -/
theorem verify_rebodied_covered :
    verify (solely coveredText coveredSignature) [] (posted coveredInput coveredSignature "[]") =
      .error .invalidSignature := by
  have accepted : verify (solely coveredText coveredSignature) [] (posted coveredInput coveredSignature "{}") =
      .ok ⟨"iam", Params.standard, [("created", "\"1\"")]⟩ := by decide +kernel
  have text : (posted coveredInput coveredSignature "[]").headers.text? contentDigestName =
      some (Labelled.ofBody (bytesOf "[]")).render := by decide +kernel
  have differ : Sha2.sha256 (bytesOf "[]") ≠ Sha2.sha256 (bytesOf "{}") := by decide +kernel
  rw [verify_rebodied (binding_solely _ _) accepted (rebodied_posted text) differ]
  rfl

def looseInput : String := "iam=(@method @path @query);created=\"1\""

def looseText : String :=
  "\"@method\": POST\n\"@path\": /v1/exchanges/okx/account-transfer\n\"@query\": \n" ++
    "\"@signature-params\": (@method @path @query);created=\"1\"\n"

def looseSignature : String :=
  "iam=:ghJfD6hIFtqhT49SDzlAEXR6/A5UzWLSmrAaRVa/R7zvPeRgW9rRgOgGVGPZvtKjilE7Mw4YLHd/VmphqkPbBQ==:"

/-- A signature over a list without the digest is good for either body. -/
theorem loose_signature_takes_any_body :
    Binding (solely looseText looseSignature) ∧
      Rebodied (posted looseInput looseSignature "{}") (posted looseInput looseSignature "[]") ∧
      Sha2.sha256 (bytesOf "[]") ≠ Sha2.sha256 (bytesOf "{}") ∧
      verify (solely looseText looseSignature) [] (posted looseInput looseSignature "{}") =
        .ok ⟨"iam", Params.requestParts, [("created", "\"1\"")]⟩ ∧
      verify (solely looseText looseSignature) [] (posted looseInput looseSignature "[]") =
        .ok ⟨"iam", Params.requestParts, [("created", "\"1\"")]⟩ := by
  refine ⟨binding_solely _ _, rebodied_posted ?_, ?_⟩
  · decide +kernel
  · decide +kernel

end Countersign.Signature
