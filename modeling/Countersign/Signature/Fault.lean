/-! What can be wrong with a signed request, and the names of the headers that carry signatures. -/
namespace Countersign.Signature

def contentDigestName : String := "content-digest"
def signatureName : String := "signature"
def inputName : String := "signature-input"
def subAccountName : String := "sub-account"

/-- Why a signing header does not read. -/
inductive Malformation where
  | missingEquals
  | badBase64
  | missingParentheses
  | badPair (segment : String)
  | badValue
deriving DecidableEq, Repr

def Malformation.message : Malformation → String
  | .missingEquals => "expected '='"
  | .badBase64 => "invalid base64"
  | .missingParentheses => "missing parentheses"
  | .badPair segment => s!"invalid key-value pair {segment}"
  | .badValue => "value is not a valid header value"

inductive Fault where
  | missingHeader (name : String)
  | malformedHeader (name : String) (why : Malformation)
  /-- A component that had to be covered is not. -/
  | missingComponent (name : String)
  | digestMismatch
  | invalidSignature
  /-- A name with an at sign that stands for no part of a request. -/
  | unsupportedComponent (name : String)
deriving DecidableEq, Repr

def Fault.message : Fault → String
  | .missingHeader name => s!"missing {name} header"
  | .malformedHeader name why =>
    let reason := why.message
    s!"invalid {name} header ({reason})"
  | .missingComponent name => s!"missing {name} in signature input"
  | .digestMismatch => "content-digest mismatch"
  | .invalidSignature => "signature invalid"
  | .unsupportedComponent name => s!"unsupported component: {name}"

end Countersign.Signature
