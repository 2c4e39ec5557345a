import Countersign.Signature.Seal

/-! Verification: the base is rebuilt from the request as received and shown to every verifier. -/
namespace Countersign.Signature

/-- A header that has to be there, with at least one byte, and be text. -/
def givenText (h : Headers) (name : String) : Except Fault String :=
  if h.isGiven name then
    match h.text? name with
    | some text => .ok text
    | none => .error (.malformedHeader name .badValue)
  else .error (.missingHeader name)

/-- Every name of the list is covered; the first that is not is the fault. -/
def checkCovered (params : Params) : List String → Except Fault Unit
  | [] => .ok ()
  | name :: rest =>
    if params.covers name then checkCovered params rest else .error (.missingComponent name)

/-- Yields what the accepted signature covers. `required` is demanded on top of the request parts;
the digest is checked before any verifier is asked. -/
def verify (verifiers : List Verifier) (required : List String) (r : Request) :
    Except Fault Params := do
  let digestText ← givenText r.headers contentDigestName
  let signatureText ← givenText r.headers signatureName
  let inputText ← givenText r.headers inputName
  let digest ← Labelled.parse contentDigestName digestText
  let signature ← Labelled.parse signatureName signatureText
  let params ← Params.parse inputText
  checkCovered params (Params.requestParts ++ required)
  if (Labelled.ofBody r.body).bytes ≠ digest.bytes then throw .digestMismatch
  let text ← base params r digest
  if verifiers.any (·.accepts (bytesOf text) signature.bytes) then return params
  throw .invalidSignature

end Countersign.Signature
