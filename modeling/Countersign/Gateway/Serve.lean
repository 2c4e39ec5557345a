import Countersign.Gateway.Plan

/-! Answering requests: the place, the method, the credential, the plan, and at last the call. -/
namespace Countersign

/-- What carries out the operations of an exchange, or says why it did not. -/
abbrev Backend := Operation → Account → Except String Json.Value

/-- A call as the backend received it. -/
structure Call where
  operation : Operation
  account : Account
deriving DecidableEq, Repr

structure Response where
  status : Nat
  contentType : Option String
  allow : Option String
  body : String
deriving DecidableEq, Repr

namespace Response

def empty (status : Nat) : Response := ⟨status, none, none, ""⟩

def json (status : Nat) (value : Json.Value) : Response :=
  ⟨status, some "application/json", none, value.compact⟩

def text (status : Nat) (body : String) : Response :=
  ⟨status, some "text/plain; charset=utf-8", none, body⟩

def refused (r : Refusal) : Response := json r.status r.envelope.toJson

end Response

/-- An answer, the calls made for it, and what was noted on the way. -/
structure Served where
  response : Response
  calls : List Call := []
  noted : List Event := []

structure Gateway where
  policy : Access.Policy
  registry : Registry Backend

namespace Gateway

/-- Bodies may have this many bytes. -/
def maxBody : Nat := 2 * 1024 * 1024

def tooLarge : Refusal := ⟨413, s!"request body exceeds {maxBody} bytes"⟩

/-- Why a credential is refused, as it is answered. -/
def refusalOf (fault : Access.Fault) : Refusal where
  status := match fault with
    | .missingCredential => 400
    | .malformedCredential => 400
    | _ => 401
  message := fault.publicMessage

def notedRefusal (r : Request) (fault : Access.Fault) : Event :=
  ⟨.warn, "rejected request", [("method", r.method), ("path", r.path), ("error", fault.message)]⟩

def notedAdmission (r : Request) : Access.Credential → List Event
  | .anonymous => []
  | .bearer id =>
    [⟨.debug, "authenticated by bearer token", [("path", r.path), ("token_id", id)]⟩]
  | .signature params =>
    [⟨.debug, "authenticated by signature",
      [("path", r.path), ("created", Event.optional (params.created?.map Text.ofInt))]⟩]

def notedFailure (exchange : String) (operation : Operation) (reason : String) : Event :=
  ⟨.warn, "exchange call failed",
    [("exchange", exchange), ("operation", operation.name), ("error", reason)]⟩

/-- A failed write is a conflict, since it may have been carried out. -/
def failureOf (operation : Operation) (reason : String) : Refusal :=
  let name := operation.name
  ⟨if operation.isWrite then 409 else 500, s!"failed to {name}: {reason}"⟩

variable (g : Gateway)

/-- Looks up the account and the backend, and calls. -/
def run (exchange : String) (p : Plan) : Served :=
  let found : Except Refusal (Account × Backend) := do
    let account ← g.registry.account exchange p.subaccount
    let backend ← g.registry.backend exchange
    return (account, backend)
  match found with
  | .error refusal => { response := .refused refusal, noted := p.noted }
  | .ok (account, backend) =>
    let calls := [⟨p.operation, account⟩]
    match backend p.operation account with
    | .ok value => { response := .json 200 value, calls, noted := p.noted }
    | .error reason =>
      { response := .refused (failureOf p.operation reason)
        calls
        noted := p.noted ++ [notedFailure exchange p.operation reason] }

/-- What a request that was let through leads to. -/
def carryOut (segment : String) (route : Route) (r : Request) : Served :=
  match exchangeId? segment with
  | none => { response := .text 400 "Invalid URL: Invalid UTF-8 in `exchange`" }
  | some exchange =>
    match plan g.registry exchange route r with
    | .error refusal => { response := .refused refusal }
    | .ok p => g.run exchange p

/-- Nothing is carried out before the credential is accepted. That comes first even for a method that
is not allowed. -/
def guarded (now : Int) (segment : String) (route : Route) (r : Request) : Served :=
  if r.body.length > maxBody then { response := .refused tooLarge }
  else match g.policy.grant route.kind r with
    | .error fault => { response := .refused (refusalOf fault), noted := [notedRefusal r fault] }
    | .ok credential =>
      let served : Served :=
        if (Place.exchange segment route).allows r.method then g.carryOut segment route r
        else { response := .empty 405 }
      { served with noted := credential.noted now ++ notedAdmission r credential ++ served.noted }

def atPlace (now : Int) (r : Request) : Place → Served
  | .health =>
    { response :=
        if Place.health.allows r.method then .json 200 (Health.toJson ⟨"ok"⟩) else .empty 405 }
  | .exchange segment route => g.guarded now segment route r

/-- Who asks for the headers alone gets no body; who asks by a wrong method is told the right ones. -/
def shaped (place : Place) (method : String) (response : Response) : Response :=
  if !place.allows method then { response with allow := some place.allowed }
  else if method = "HEAD" then { response with body := "" }
  else response

/-- Answers a request at a time. -/
def serve (now : Int) (r : Request) : Served :=
  match Place.ofPath? r.path with
  | none => { response := .empty 404 }
  | some place =>
    let served := g.atPlace now r place
    { served with response := shaped place r.method served.response }

end Gateway

end Countersign
