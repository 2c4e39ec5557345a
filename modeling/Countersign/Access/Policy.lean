import Countersign.Event
import Countersign.Signature.Verify
import Countersign.Text.Blank
import Countersign.Text.Number
import Countersign.Text.Quoted

/-! Who may do what: reference data is open, account state takes a bearer token or a signature, and
moving funds takes a signature. -/
namespace Countersign.Access

inductive RouteClass where
  | reference
  | read
  | write
deriving DecidableEq, Repr

/-- A token that is accepted for reading, under its name. -/
structure Token where
  id : String
  secret : String
deriving DecidableEq, Repr

inductive Fault where
  | missingCredential
  | malformedCredential
  | invalidToken
  | signature (why : Signature.Fault)
deriving DecidableEq, Repr

def Fault.message : Fault → String
  | .missingCredential => "no authorization header or http-signature"
  | .malformedCredential => "expected Bearer token in authorization header"
  | .invalidToken => "invalid bearer token"
  | .signature why => why.message

/-- What the caller is told: a wrong digest and a wrong signature look the same. -/
def Fault.publicMessage : Fault → String
  | .signature .digestMismatch => "invalid signature"
  | .signature .invalidSignature => "invalid signature"
  | fault => fault.message

/-- How a request was let through. -/
inductive Credential where
  | anonymous
  | bearer (id : String)
  | signature (params : Signature.Params)
deriving DecidableEq, Repr

structure Policy where
  tokens : List Token
  verifiers : List Verifier
  publicRead : Bool

/-- What an authorization header offers. -/
inductive Offer where
  | nothing
  | bearer (token : String)
  | other
deriving DecidableEq, Repr

/-- Two words with one blank between them are a scheme and a token; anything else is no offer. -/
def Offer.read (value : String) : Offer :=
  match Text.fields ' ' (Text.trim value) with
  | ["Bearer", token] => .bearer token
  | [_, _] => .other
  | _ => .nothing

def offer (h : Headers) : Offer :=
  match h.text? "authorization" with
  | none => .nothing
  | some value => .read value

def hasSignature (h : Headers) : Bool :=
  [Signature.signatureName, Signature.inputName, Signature.contentDigestName].all h.isGiven

/-- A query parameter that names a sub-account, before any decoding. -/
def namesSubAccount (pair : List Char) : Bool :=
  match Text.cut '=' pair with
  | none => false
  | some (key, value) => String.ofList key == Signature.subAccountName && !value.isEmpty

/-- Whether a request is about a sub-account, by header or by query. -/
def subAccountRequested (h : Headers) (query : String) : Bool :=
  h.isGiven Signature.subAccountName || (query.toList.splitOn '&').any namesSubAccount

namespace Policy

variable (p : Policy)

def bySignature (r : Request) : Except Fault Credential :=
  let required := if subAccountRequested r.headers r.query then [Signature.subAccountName] else []
  match Signature.verify p.verifiers required r with
  | .ok params => .ok (.signature params)
  | .error why => .error (.signature why)

def byToken (secret : String) : Except Fault Credential :=
  match p.tokens.find? (·.secret == secret) with
  | some token => .ok (.bearer token.id)
  | none => .error .invalidToken

def forReading (r : Request) : Except Fault Credential :=
  if p.publicRead then .ok .anonymous
  else match offer r.headers with
    | .bearer secret => p.byToken secret
    | .other => .error .malformedCredential
    | .nothing =>
      if hasSignature r.headers then p.bySignature r else .error .missingCredential

/-- The credential that lets a request through to routes of a class. -/
def grant (kind : RouteClass) (r : Request) : Except Fault Credential :=
  match kind with
  | .reference => .ok .anonymous
  | .read => p.forReading r
  | .write => p.bySignature r

end Policy

/-- Differences that leave 64 bits stop at the end that they reach. -/
def age (now created : Int) : Int := max Text.int64Min (min Text.int64Max (now - created))

/-- What is noted when a credential is accepted at a time. -/
def Credential.noted (now : Int) : Credential → List Event
  | .anonymous => []
  | .bearer id => [⟨.debug, "bearer token accepted", [("token_id", id)]⟩]
  | .signature params =>
    match params.created? with
    | none => []
    | some created =>
      [⟨.debug, "signature verified",
        [("created", Text.ofInt created), ("age_secs", Text.ofInt (age now created))]⟩]

/-- What a policy shows of itself: names of tokens, never the tokens, and a count of verifiers. -/
def Policy.describe (p : Policy) : String :=
  let shownToken (token : Token) : String :=
    "BearerToken \x7b id: " ++ Text.quoted token.id ++ ", .. \x7d"
  "Authenticator \x7b bearer_tokens: [" ++ ", ".intercalate (p.tokens.map shownToken) ++
    "], verifiers: " ++ Text.ofInt p.verifiers.length ++ ", public_read_endpoints: " ++
    (if p.publicRead then "true" else "false") ++ " \x7d"

end Countersign.Access
