import Countersign.Client.Ask
import Countersign.Http.Status
import Countersign.Signature.Seal
import Countersign.Url.Parse
import Countersign.Wire.Envelope

/-! A client: its credentials, the requests that it prepares, and what it makes of the replies. -/
namespace Countersign

structure Client where
  base : String
  token : Option String
  signer : Option Signer
  subAccount : Option String

namespace Client

inductive Fault where
  | noCredentials
  | noSigner (method : String)
  | badUrl (base : String) (why : Url.Fault)
  | badTarget (why : Target.Fault)
  | badSubAccount
  | badToken
  | notSigned (why : Signature.Fault)
  | badAmount (why : AmountFault)
  | notSent (reasons : List String)
  | refused (status : Nat) (reason : String)
  | notJson (reason : String)
deriving DecidableEq, Repr

/-- What a fault is called, and what lies behind it. -/
def Fault.reasons : Fault → List String
  | .noCredentials => ["no credentials configured; pass --bearer or --signing-key"]
  | .noSigner method => [s!"a signing key is required for {method} requests"]
  | .badUrl base why => [s!"Invalid server URL: {base}", why.message]
  | .badTarget why => ["Failed to build request", why.message]
  | .badSubAccount => ["Invalid sub-account name", "failed to parse header value"]
  | .badToken => ["Invalid bearer token", "failed to parse header value"]
  | .notSigned why => ["Failed to sign request", why.message]
  | .badAmount why => [why.message]
  | .notSent reasons => "Failed to send request" :: reasons
  | .refused status reason =>
    let line := Status.line status
    [s!"Server returned {line}: {reason}"]
  | .notJson reason => ["Failed to parse response JSON", reason]

def Fault.message (fault : Fault) : String := fault.reasons.headD ""

/-- Slashes at the end of the address and empty credentials count for nothing. -/
def new (base : String) (token : Option String) (signer : Option Signer)
    (subAccount : Option String) : Client where
  base := String.ofList (base.toList.reverse.dropWhile (· == '/')).reverse
  token := token.filter (!·.isEmpty)
  signer
  subAccount := subAccount.filter (!·.isEmpty)

/-- How a request is authenticated. -/
inductive Means where
  | nothing
  | token (secret : String)
  | signature (signer : Signer)

/-- Getting prefers the token, and all else a signature. Writing takes a signature only. -/
def means (client : Client) (ask : Ask) : Except Fault Means :=
  match ask.route.kind with
  | .write =>
    match client.signer with
    | some signer => .ok (.signature signer)
    | none => .error (.noSigner ask.method)
  | kind =>
    match client.token, client.signer with
    | some secret, signer =>
      match signer with
      | some signer => .ok (if ask.method = "GET" then .token secret else .signature signer)
      | none => .ok (.token secret)
    | none, some signer => .ok (.signature signer)
    | none, none => if kind = .reference then .ok .nothing else .error .noCredentials

/-- A request, and the address it goes to. -/
structure Prepared where
  address : String
  target : Target.Uri
  request : Request
deriving DecidableEq, Repr

/-- The pairs of the query: what is asked, and the sub-account that it is asked for. -/
def pairs (client : Client) (ask : Ask) : List (String × String) :=
  ask.query ++ Ask.pair Signature.subAccountName client.subAccount

def addressOf (client : Client) (exchange : String) (ask : Ask) : Except Fault Url :=
  match Url.parse (client.base ++ exchangePath exchange ask.route) with
  | .error why => .error (.badUrl client.base why)
  | .ok url => .ok (url.addPairs (client.pairs ask))

/-- Where the request goes; fragments are not sent. -/
def targetOf (url : Url) : Except Fault Target.Uri :=
  (Target.parse (bytesOf url.render)).mapError .badTarget

def withType (ask : Ask) : Headers :=
  if ask.body?.isSome then Headers.empty.insert "content-type" (bytesOf "application/json")
  else Headers.empty

def withSubAccount (client : Client) (h : Headers) : Except Fault Headers :=
  match client.subAccount with
  | none => .ok h
  | some name =>
    match Headers.valueOf? name with
    | some value => .ok (h.insert Signature.subAccountName value)
    | none => .error .badSubAccount

/-- A sub-account is always covered by the signature. -/
def covered (client : Client) : List String :=
  if client.subAccount.isSome then [Signature.subAccountName] else []

def authenticate (client : Client) (now : Int) (ask : Ask) (r : Request) : Except Fault Request := do
  match ← client.means ask with
  | .nothing => return r
  | .token secret =>
    match Headers.valueOf? ("Bearer " ++ secret) with
    | some value => return { r with headers := r.headers.insert "authorization" value }
    | none => throw .badToken
  | .signature signer =>
    match Signature.sign signer now client.covered r with
    | (.ok (), signed) => return signed
    | (.error why, _) => throw (.notSigned why)

/-- The request for what is asked of an exchange, signed at a time where a signature is due. -/
def prepare (client : Client) (now : Int) (exchange : String) (ask : Ask) :
    Except Fault Prepared := do
  let url ← client.addressOf exchange ask
  let target ← targetOf url
  let headers ← client.withSubAccount (withType ask)
  let r : Request := {
    method := ask.method
    path := Utf8.decodeLossy target.path
    query := Utf8.decodeLossy (target.query.getD [])
    headers
    body := ask.body?.getD [] }
  let request ← client.authenticate now ask r
  return { address := String.ofList url.renderAddress, target, request }

/-- What a gateway replied. -/
structure Reply where
  status : Nat
  body : Bytes
deriving DecidableEq, Repr

/-- A way to send a request: it brings a reply, or says why there is none. -/
abbrev Transport := Prepared → Except (List String) Reply

/-- Nothing can be reached. -/
def unreachable : Transport := fun _ =>
  .error ["client error (Connect)", "tcp connect error", "Network is unreachable (os error 101)"]

/-- What a reply says about a failure: its envelope, or else its text. -/
def reasonOf (body : Bytes) : String :=
  match Envelope.ofBytes body with
  | .ok envelope => envelope.message ++ " (" ++ envelope.status ++ ")"
  | .error _ =>
    let text := Text.trim (Utf8.decodeLossy body)
    if text.isEmpty then "Unknown error" else text

def readReply (reply : Reply) : Except Fault Json.Value :=
  if Status.isSuccess reply.status then
    (Json.Value.ofBytes reply.body).mapError fun fault => .notJson (fault.message reply.body)
  else .error (.refused reply.status (reasonOf reply.body))

/-- Only two schemes are spoken. -/
def isSpoken (scheme : Option Bytes) : Bool :=
  scheme == some (bytesOf "http") || scheme == some (bytesOf "https")

def send (transport : Transport) (p : Prepared) : Except Fault Json.Value :=
  if !isSpoken p.target.scheme then
    .error (.notSent ["builder error for url (" ++ p.address ++ ")", "URL scheme is not allowed"])
  else match transport p with
    | .error reasons =>
      .error (.notSent (("error sending request for url (" ++ p.address ++ ")") :: reasons))
    | .ok reply => readReply reply

/-- Asks, and yields the answer. Amounts are checked before anything is prepared. -/
def ask (client : Client) (transport : Transport) (now : Int) (exchange : String) (a : Ask) :
    Except Fault Json.Value := do
  match a.amount? with
  | none => pure ()
  | some amount => (checkAmount amount).mapError .badAmount
  let prepared ← client.prepare now exchange a
  send transport prepared

end Client

end Countersign
