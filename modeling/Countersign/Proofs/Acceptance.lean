import Countersign.Signature.Verify
import Countersign.Proofs.Canonical

/-! When a signature is accepted. Verification takes two steps: the signing headers are read, and
what they say is judged. -/
namespace Countersign.Signature

theorem givenText_eq_ok_iff {h : Headers} {name text : String} :
    givenText h name = .ok text ↔ h.isGiven name = true ∧ h.text? name = some text := by
  unfold givenText
  split
  · rename_i given
    cases h.text? name with
    | none => simp
    | some s => simp [given]
  · rename_i absent
    simp [absent]

theorem checkCovered_eq_ok_iff {params : Params} {names : List String} :
    checkCovered params names = .ok () ↔ ∀ name ∈ names, name ∈ params.components := by
  induction names with
  | nil => simp [checkCovered]
  | cons name rest ih =>
    rw [checkCovered, List.forall_mem_cons, ← ih, Params.covers]
    by_cases covered : name ∈ params.components
    · simp [covered]
    · simp [covered]

/-- What the signing headers of a request say. -/
structure Carried where
  digest : Labelled
  signature : Labelled
  params : Params

namespace Carried

def read (h : Headers) : Except Fault Carried := do
  let digestText ← givenText h contentDigestName
  let signatureText ← givenText h signatureName
  let inputText ← givenText h inputName
  let digest ← Labelled.parse contentDigestName digestText
  let signature ← Labelled.parse signatureName signatureText
  let params ← Params.parse inputText
  return { digest, signature, params }

def judge (said : Carried) (verifiers : List Verifier) (required : List String) (r : Request) :
    Except Fault Params := do
  checkCovered said.params (Params.requestParts ++ required)
  if (Labelled.ofBody r.body).bytes ≠ said.digest.bytes then throw .digestMismatch
  let text ← base said.params r said.digest
  if verifiers.any (·.accepts (bytesOf text) said.signature.bytes) then return said.params
  throw .invalidSignature

/-- The three headers are there, are text, and read as this. -/
structure In (said : Carried) (h : Headers) : Prop where
  digest : ∃ text, givenText h contentDigestName = .ok text ∧ Labelled.read text = .ok said.digest
  signature : ∃ text, givenText h signatureName = .ok text ∧
    Labelled.read text = .ok said.signature
  params : ∃ text, givenText h inputName = .ok text ∧ Params.read text = .ok said.params

theorem read_eq_ok_iff {h : Headers} {said : Carried} : read h = .ok said ↔ said.In h := by
  simp only [read, Labelled.parse, Params.parse, Outcome.bind_eq_ok_iff,
    Outcome.mapError_eq_ok_iff, Outcome.pure_eq_ok_iff]
  constructor
  · rintro ⟨digestText, hd, signatureText, hs, inputText, hi, digest, readDigest, signature,
      readSignature, params, readParams, rfl⟩
    exact ⟨⟨_, hd, readDigest⟩, ⟨_, hs, readSignature⟩, ⟨_, hi, readParams⟩⟩
  · rintro ⟨⟨digestText, hd, readDigest⟩, ⟨signatureText, hs, readSignature⟩,
      ⟨inputText, hi, readParams⟩⟩
    exact ⟨_, hd, _, hs, _, hi, _, readDigest, _, readSignature, _, readParams, rfl⟩

variable {said : Carried} {verifiers : List Verifier} {required : List String} {r : Request}
  {params : Params}

theorem judge_eq_ok_iff :
    said.judge verifiers required r = .ok params ↔
      said.params = params ∧
      (∀ name ∈ Params.requestParts ++ required, name ∈ said.params.components) ∧
      Sha2.sha256 r.body = said.digest.bytes ∧
      ∃ text, base said.params r said.digest = .ok text ∧
        verifiers.any (·.accepts (bytesOf text) said.signature.bytes) = true := by
  have same : (Labelled.ofBody r.body).bytes = Sha2.sha256 r.body := rfl
  simp only [judge, same, ne_eq, ite_not]
  rw [Outcome.bind_eq_ok_iff]
  constructor
  · rintro ⟨_, covered, rest⟩
    split at rest
    · rename_i digest
      obtain ⟨text, made, rest⟩ := Outcome.bind_eq_ok_iff.1 rest
      split at rest
      · rename_i accepted
        exact ⟨Outcome.pure_eq_ok_iff.1 rest, checkCovered_eq_ok_iff.1 covered, digest, text, made,
          accepted⟩
      · cases rest
    · cases rest
  · rintro ⟨rfl, covered, digest, text, made, accepted⟩
    refine ⟨(), checkCovered_eq_ok_iff.2 covered, ?_⟩
    rw [if_pos digest, Outcome.bind_eq_ok_iff]
    exact ⟨text, made, by rw [if_pos accepted]; rfl⟩

/-- What is said with everything demanded and a right digest fails by its signature alone. -/
theorem judge_eq_invalidSignature {text : String}
    (covered : ∀ name ∈ Params.requestParts ++ required, name ∈ said.params.components)
    (digest : Sha2.sha256 r.body = said.digest.bytes)
    (made : base said.params r said.digest = .ok text)
    (none : verifiers.any (·.accepts (bytesOf text) said.signature.bytes) = false) :
    said.judge verifiers required r = .error .invalidSignature := by
  have same : (Labelled.ofBody r.body).bytes = said.digest.bytes := digest
  simp only [judge, checkCovered_eq_ok_iff.2 covered, made, same, ne_eq, not_true_eq_false,
    if_false, Outcome.ok_bind, none, Bool.false_eq_true]
  rfl

section

variable {h : Headers} (inside : said.In h)
include inside

theorem In.label_digest : '=' ∉ said.digest.label.toList := by
  obtain ⟨text, _, read⟩ := inside.digest
  exact (Labelled.label_of_read read).1

theorem In.oneLine_digest : Text.OneLine said.digest.label := by
  obtain ⟨text, given, read⟩ := inside.digest
  intro newline
  have plain := Headers.oneLine_of_text? (givenText_eq_ok_iff.1 given).2
  exact plain ((Labelled.label_of_read read).2 _ newline)

end

/-- What was received in headers is signed as plain text. -/
theorem In.plain (inside : said.In r.headers) (lines : r.OneLine) :
    Plain said.params r said.digest := by
  obtain ⟨text, given, found⟩ := inside.params
  exact plain_of_read found (Headers.oneLine_of_text? (givenText_eq_ok_iff.1 given).2) lines
    inside.oneLine_digest

end Carried

theorem verify_eq_judge (verifiers : List Verifier) (required : List String) (r : Request) :
    verify verifiers required r =
      Carried.read r.headers >>= fun said => said.judge verifiers required r := by
  simp only [verify, Carried.read, Carried.judge, bind_assoc, pure_bind]

/-- Accepted is what the signing headers say, if they are judged well. -/
theorem verify_eq_ok_iff {verifiers : List Verifier} {required : List String} {r : Request}
    {params : Params} :
    verify verifiers required r = .ok params ↔
      ∃ said : Carried, said.In r.headers ∧ said.judge verifiers required r = .ok params := by
  rw [verify_eq_judge, Outcome.bind_eq_ok_iff]
  simp only [Carried.read_eq_ok_iff]

/-- A key under which one text was signed, once. -/
def solely (text signature : String) : List Verifier :=
  [⟨fun message bytes => message == bytesOf text &&
    (Labelled.ofSignature bytes).render == signature⟩]

end Countersign.Signature
