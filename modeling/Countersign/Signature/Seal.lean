import Countersign.Signature.Base
import Countersign.Signature.Key

/-! Signing: the three headers that make a request a signed one. -/
namespace Countersign.Signature

structure Seal where
  contentDigest : String
  signatureInput : String
  signature : String
deriving DecidableEq, Repr

/-- Covers the standard components and each header that `extra` names. -/
def Seal.make (signer : Signer) (created : Int) (extra : List String) (r : Request) :
    Except Fault Seal := do
  let params := Params.new created extra
  let digest := Labelled.ofBody r.body
  let text ← base params r digest
  return {
    contentDigest := digest.render
    signatureInput := params.header
    signature := (Labelled.ofSignature (signer.sign (bytesOf text))).render }

/-- Puts texts in as header values, one after the other, and stops at the first that is none. What
went in before stays. -/
def place : List (String × String) → Headers → Except Fault Unit × Headers
  | [], h => (.ok (), h)
  | (name, text) :: rest, h =>
    match Headers.valueOf? text with
    | none => (.error (.malformedHeader name .badValue), h)
    | some value => place rest (h.insert name value)

/-- The result, and the headers as they then are. -/
def Seal.apply (s : Seal) (h : Headers) : Except Fault Unit × Headers :=
  place [(contentDigestName, s.contentDigest), (inputName, s.signatureInput),
    (signatureName, s.signature)] h

/-- Signs in place: the result, and the request as it then is. -/
def sign (signer : Signer) (created : Int) (extra : List String) (r : Request) :
    Except Fault Unit × Request :=
  match Seal.make signer created extra r with
  | .error fault => (.error fault, r)
  | .ok s =>
    let (result, headers) := s.apply r.headers
    (result, { r with headers })

end Countersign.Signature
