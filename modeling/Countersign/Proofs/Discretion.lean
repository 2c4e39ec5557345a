import Countersign.Proofs.Admission

/-! What a refusal tells. Keys are asked last and tokens are only compared, so that who is refused cannot
tell which keys and tokens there are. -/
namespace Countersign

namespace Signature

/-- What is there before any key is asked: what the signature covers, the text under it and its bytes. -/
structure Presented where
  params : Params
  text : String
  signature : Bytes

namespace Presented

def ofRequest (required : List String) (r : Request) : Except Fault Presented := do
  let said ← Carried.read r.headers
  checkCovered said.params (Params.requestParts ++ required)
  if (Labelled.ofBody r.body).bytes ≠ said.digest.bytes then throw .digestMismatch
  let text ← base said.params r said.digest
  return ⟨said.params, text, said.signature.bytes⟩

def ask (shown : Presented) (verifiers : List Verifier) : Except Fault Params :=
  if verifiers.any (·.accepts (bytesOf shown.text) shown.signature) then .ok shown.params
  else .error .invalidSignature

variable {shown : Presented} {verifiers : List Verifier}

theorem ask_eq_ok_iff {params : Params} :
    shown.ask verifiers = .ok params ↔
      (∃ v ∈ verifiers, v.accepts (bytesOf shown.text) shown.signature = true) ∧
        shown.params = params := by
  rw [ask, ← List.any_eq_true]
  split
  · rename_i some
    simp [some]
  · rename_i none
    simp [none]

theorem ask_eq_error {fault : Fault} (failed : shown.ask verifiers = .error fault) :
    fault = .invalidSignature := by
  unfold ask at failed
  split at failed
  · cases failed
  · cases failed
    rfl

end Presented

variable {verifiers verifiers' : List Verifier} {required : List String} {r : Request}

/-- The keys decide on what is presented, and on nothing before it. -/
theorem verify_eq_ask (verifiers : List Verifier) (required : List String) (r : Request) :
    verify verifiers required r =
      Presented.ofRequest required r >>= fun shown => shown.ask verifiers := by
  simp only [verify_eq_judge, Carried.judge, Presented.ofRequest, bind_assoc]
  congr 1
  funext said
  congr 1
  funext _
  split
  · rfl
  · simp only [bind_assoc, pure_bind]
    rfl

/-- Which keys there are shows only in whether a signature is accepted. -/
theorem fault_eq_of_verify {fault fault' : Fault}
    (failed : verify verifiers required r = .error fault)
    (failed' : verify verifiers' required r = .error fault') : fault = fault' := by
  rw [verify_eq_ask] at failed failed'
  cases before : Presented.ofRequest required r with
  | error why =>
    rw [before] at failed failed'
    cases failed
    cases failed'
    rfl
  | ok shown =>
    rw [before, Outcome.ok_bind] at failed failed'
    rw [Presented.ask_eq_error failed, Presented.ask_eq_error failed']

theorem params_eq_of_verify {params params' : Params}
    (accepted : verify verifiers required r = .ok params)
    (accepted' : verify verifiers' required r = .ok params') : params = params' := by
  rw [verify_eq_ask, Outcome.bind_eq_ok_iff] at accepted accepted'
  obtain ⟨shown, before, asked⟩ := accepted
  obtain ⟨shown', before', asked'⟩ := accepted'
  rw [before, Except.ok.injEq] at before'
  rw [← (Presented.ask_eq_ok_iff.1 asked).2, ← (Presented.ask_eq_ok_iff.1 asked').2, before']

/-- More keys accept more, and in the same way. -/
theorem verify_of_subset {params : Params} (wider : ∀ v ∈ verifiers, v ∈ verifiers')
    (accepted : verify verifiers required r = .ok params) :
    verify verifiers' required r = .ok params := by
  rw [verify_eq_ask, Outcome.bind_eq_ok_iff] at accepted ⊢
  obtain ⟨shown, before, asked⟩ := accepted
  obtain ⟨⟨v, listed, accepts⟩, same⟩ := Presented.ask_eq_ok_iff.1 asked
  exact ⟨shown, before, Presented.ask_eq_ok_iff.2 ⟨⟨v, wider v listed, accepts⟩, same⟩⟩

end Signature

namespace Access.Policy

variable {p p' : Policy} {kind : RouteClass} {r : Request}

theorem bySignature_eq_error_iff {fault : Fault} :
    p.bySignature r = .error fault ↔
      ∃ why, Signature.verify p.verifiers (demanded r) r = .error why ∧ fault = .signature why := by
  have same : (if subAccountRequested r.headers r.query then [Signature.subAccountName] else []) =
      demanded r := rfl
  rw [bySignature, same]
  cases Signature.verify p.verifiers (demanded r) r with
  | error why => simp [eq_comm]
  | ok params => simp

theorem byToken_eq_error {secret : String} {fault : Fault}
    (refused : p.byToken secret = .error fault) : fault = .invalidToken := by
  unfold byToken at refused
  split at refused
  · cases refused
  · cases refused
    rfl

theorem bySignature_fault_eq {fault fault' : Fault} (refused : p.bySignature r = .error fault)
    (refused' : p'.bySignature r = .error fault') : fault = fault' := by
  obtain ⟨why, failed, rfl⟩ := bySignature_eq_error_iff.1 refused
  obtain ⟨why', failed', rfl⟩ := bySignature_eq_error_iff.1 refused'
  rw [Signature.fault_eq_of_verify failed failed']

/-- A refusal is for what the request is, and not for what the policy holds. -/
theorem fault_eq_of_grant (same : p.publicRead = p'.publicRead) {fault fault' : Fault}
    (refused : p.grant kind r = .error fault) (refused' : p'.grant kind r = .error fault') :
    fault = fault' := by
  -- What is looked at before keys and tokens is the request and `publicRead`, so that both policies
  -- take the same branch.
  cases kind with
  | reference => cases refused
  | write => exact bySignature_fault_eq refused refused'
  | read =>
    change p.forReading r = _ at refused
    change p'.forReading r = _ at refused'
    rw [forReading] at refused refused'
    rw [← same] at refused'
    split at refused
    · cases refused
    · rename_i closed
      rw [if_neg closed] at refused'
      cases offered : offer r.headers with
      | bearer secret =>
        rw [offered] at refused refused'
        rw [byToken_eq_error refused, byToken_eq_error refused']
      | other =>
        rw [offered] at refused refused'
        cases refused
        cases refused'
        rfl
      | nothing =>
        rw [offered] at refused refused'
        dsimp only at refused refused'
        split at refused
        · rename_i sealed
          rw [if_pos sealed] at refused'
          exact bySignature_fault_eq refused refused'
        · rename_i unsealed
          rw [if_neg unsealed] at refused'
          cases refused
          cases refused'
          rfl

theorem forReading_eq_signature_iff {params : Signature.Params} :
    p.forReading r = .ok (.signature params) ↔
      (p.publicRead = false ∧ offer r.headers = .nothing ∧ hasSignature r.headers = true) ∧
        p.bySignature r = .ok (.signature params) := by
  rw [forReading]
  cases p.publicRead with
  | true => simp
  | false =>
    cases offer r.headers with
    | bearer secret =>
      have other : p.byToken secret ≠ .ok (.signature params) := by
        intro granted
        obtain ⟨_, _, _, same⟩ := byToken_eq_ok granted
        cases same
      simp [other]
    | other => simp
    | nothing => cases hasSignature r.headers <;> simp

/-- More keys let through by signature what fewer let through, whatever the tokens. -/
theorem grant_of_subset (same : p.publicRead = p'.publicRead)
    (wider : ∀ v ∈ p.verifiers, v ∈ p'.verifiers) {params : Signature.Params}
    (granted : p.grant kind r = .ok (.signature params)) :
    p'.grant kind r = .ok (.signature params) := by
  have signed (granted : p.bySignature r = .ok (.signature params)) :
      p'.bySignature r = .ok (.signature params) := by
    obtain ⟨found, accepted, same⟩ := bySignature_eq_ok_iff.1 granted
    exact bySignature_eq_ok_iff.2 ⟨found, Signature.verify_of_subset wider accepted, same⟩
  cases kind with
  | reference => cases granted
  | write => exact signed granted
  | read =>
    obtain ⟨unoffered, granted⟩ := forReading_eq_signature_iff.1 granted
    exact forReading_eq_signature_iff.2 ⟨same ▸ unoffered, signed granted⟩

end Access.Policy

namespace Gateway

variable {g g' : Gateway}

/-- What a request that the policy does not let through is answered. -/
theorem response_of_grant_eq_error (now : Int) {r : Request} {segment : String} {route : Route}
    {fault : Access.Fault} (place : Place.ofPath? r.path = some (.exchange segment route))
    (refused : g.policy.grant route.kind r = .error fault) :
    (g.serve now r).response = shaped (.exchange segment route) r.method
      (.refused (if maxBody < r.body.length then tooLarge else refusalOf fault)) := by
  rw [serve, place]
  dsimp only [atPlace]
  rw [guarded]
  split
  · rfl
  · rw [refused]

/-- Two gateways that nobody can tell apart by what they refuse, nor by what signatures say. -/
structure Alike (g g' : Gateway) : Prop where
  fault : ∀ kind r fault fault', g.policy.grant kind r = .error fault →
    g'.policy.grant kind r = .error fault' → fault = fault'
  answer : ∀ now now' r segment route fault fault',
    Place.ofPath? r.path = some (.exchange segment route) →
    g.policy.grant route.kind r = .error fault → g'.policy.grant route.kind r = .error fault' →
    (g.serve now r).response = (g'.serve now' r).response
  params : ∀ kind r params params', g.policy.grant kind r = .ok (.signature params) →
    g'.policy.grant kind r = .ok (.signature params') → params = params'
  wider : (∀ v ∈ g.policy.verifiers, v ∈ g'.policy.verifiers) → ∀ kind r params,
    g.policy.grant kind r = .ok (.signature params) →
    g'.policy.grant kind r = .ok (.signature params)

theorem alike_of_publicRead_eq (same : g.policy.publicRead = g'.policy.publicRead) : Alike g g' where
  fault _ _ _ _ refused refused' := Access.Policy.fault_eq_of_grant same refused refused'
  answer now now' r segment route fault fault' place refused refused' := by
    rw [response_of_grant_eq_error now place refused,
      response_of_grant_eq_error now' place refused',
      Access.Policy.fault_eq_of_grant same refused refused']
  params _ _ _ _ granted granted' :=
    Signature.params_eq_of_verify (Access.verify_of_grant granted)
      (Access.verify_of_grant granted')
  wider more _ _ _ granted := Access.Policy.grant_of_subset same more granted

/-- A request of a size that is read, which the policy does not let through. -/
structure Rejected (g : Gateway) (r : Request) (segment : String) (route : Route)
    (fault : Access.Fault) : Prop where
  place : Place.ofPath? r.path = some (.exchange segment route)
  small : r.body.length ≤ maxBody
  refused : g.policy.grant route.kind r = .error fault

theorem Rejected.response_eq {r : Request} {segment : String} {route : Route} {fault : Access.Fault}
    (rejected : Rejected g r segment route fault) (now : Int) :
    (g.serve now r).response =
      shaped (.exchange segment route) r.method (.refused (refusalOf fault)) := by
  rw [response_of_grant_eq_error now rejected.place rejected.refused,
    if_neg (Nat.not_lt_of_le rejected.small)]

/-- The answer to a signature that does not hold, whatever is wrong with it. -/
def unproven : Response := .refused ⟨401, "invalid signature"⟩

/-- Two answers are the same but for what the methods make of them: a request for headers alone gets no
body, and one by a wrong method is told the right ones. -/
structure SameAnswer (place place' : Place) (method method' : String) (response response' : Response) :
    Prop where
  first : response = shaped place method unproven
  second : response' = shaped place' method' unproven
  status : response.status = response'.status
  same : place.allows method → place'.allows method' → method ≠ "HEAD" → method' ≠ "HEAD" →
    response = response'

theorem shaped_of_allows {place : Place} {method : String} (allowed : place.allows method)
    (whole : method ≠ "HEAD") (response : Response) : shaped place method response = response := by
  simp [shaped, allowed, whole]

/-- What is refused is refused alike whatever keys and tokens there are; a wrong digest and a wrong
signature are answered alike. -/
theorem refusal_reveals_nothing :
    (∀ g g' : Gateway, g.policy.publicRead = g'.policy.publicRead → Alike g g') ∧
    ∀ (g g' : Gateway) (now now' : Int) (r r' : Request) (segment segment' : String)
      (route route' : Route),
      Rejected g r segment route (.signature .digestMismatch) →
      Rejected g' r' segment' route' (.signature .invalidSignature) →
      SameAnswer (.exchange segment route) (.exchange segment' route') r.method r'.method
        (g.serve now r).response (g'.serve now' r').response := by
  refine ⟨fun _ _ => alike_of_publicRead_eq, ?_⟩
  intro g g' now now' r r' segment segment' route route' rejected rejected'
  have first := rejected.response_eq now
  have second := rejected'.response_eq now'
  refine ⟨first, second, ?_, ?_⟩
  · rw [first, second, status_shaped, status_shaped]
    rfl
  · intro allowed allowed' whole whole'
    rw [first, second, shaped_of_allows allowed whole, shaped_of_allows allowed' whole']
    rfl

/-- A gateway that knows nobody, and one that knows a token and some keys. -/
def strange : Gateway := ⟨⟨[], [], false⟩, ⟨[]⟩⟩

def knowing (keys : List Verifier) : Gateway := ⟨⟨[⟨"reader", "read-token"⟩], keys, false⟩, ⟨[]⟩⟩

/-- A key that takes one signature, and one that takes none. -/
def easyKey : Verifier := ⟨fun _ signature => signature == [1]⟩

def hardKey : Verifier := ⟨fun _ _ => false⟩

/-- A request for balances with these signing headers. -/
def sealedWith (digest signature method : String) : Request where
  method := method
  path := "/v1/exchanges/okx/balances"
  query := ""
  headers :=
    ((Headers.empty.insert Signature.inputName (bytesOf "iam=(@method @path @query);")).insert
      Signature.signatureName (bytesOf signature)).insert Signature.contentDigestName
      (bytesOf digest)
  body := []

/-- The digest of a body with nothing in it. -/
def emptyDigest : String := "sha-256=:47DEQpj8HBSa+/TImW+5JCeuQeRkm5NMpJWZG3hSuFU=:"

def misdigested : String → Request := sealedWith "sha-256=::" "iam=::"

def unsigned : String → Request := sealedWith emptyDigest "iam=::"

theorem place_sealedWith (digest signature method : String) :
    Place.ofPath? (sealedWith digest signature method).path = some (.exchange "okx" .balances) := by
  change Place.ofPath? "/v1/exchanges/okx/balances" = _
  decide +kernel

/-- A wrong digest is refused alike with and without keys, and as a wrong signature is. A key that is
found among others lets through what it lets through alone. -/
theorem refusal_reveals_nothing_sealed :
    (strange.serve 0 (misdigested "GET")).response =
      ((knowing [easyKey]).serve 7 (misdigested "GET")).response ∧
    (strange.serve 0 (misdigested "GET")).response =
      ((knowing [easyKey]).serve 7 (unsigned "GET")).response ∧
    (knowing [hardKey, easyKey]).policy.grant .read (sealedWith emptyDigest "iam=:AQ==:" "GET") =
      .ok (.signature ⟨"iam", Signature.Params.requestParts, []⟩) := by
  have mismatch : strange.policy.grant .read (misdigested "GET") =
      .error (.signature .digestMismatch) := by decide +kernel
  have mismatch' : (knowing [easyKey]).policy.grant .read (misdigested "GET") =
      .error (.signature .digestMismatch) := by decide +kernel
  have invalid : (knowing [easyKey]).policy.grant .read (unsigned "GET") =
      .error (.signature .invalidSignature) := by decide +kernel
  have granted : (knowing [easyKey]).policy.grant .read
      (sealedWith emptyDigest "iam=:AQ==:" "GET") =
        .ok (.signature ⟨"iam", Signature.Params.requestParts, []⟩) := by decide +kernel
  have place (digest signature : String) := place_sealedWith digest signature "GET"
  refine ⟨?_, ?_, ?_⟩
  · exact (refusal_reveals_nothing.1 strange (knowing [easyKey]) rfl).answer 0 7 _ _ .balances _ _
      (place _ _) mismatch mismatch'
  · have answers := refusal_reveals_nothing.2 strange (knowing [easyKey]) 0 7 _ _ _ _
      .balances .balances ⟨place _ _, Nat.zero_le _, mismatch⟩ ⟨place _ _, Nat.zero_le _, invalid⟩
    exact answers.same rfl rfl (by decide) (by decide)
  · have more : ∀ v ∈ (knowing [easyKey]).policy.verifiers,
        v ∈ (knowing [hardKey, easyKey]).policy.verifiers :=
      fun v listed => List.mem_cons_of_mem _ listed
    exact (refusal_reveals_nothing.1 (knowing [easyKey]) (knowing [hardKey, easyKey]) rfl).wider
      more _ _ _ granted

/-- Answers to a wrong digest and to a wrong signature differ where the methods do, be it one for headers
alone or a wrong one. -/
theorem answers_differ_by_method :
    Rejected strange (unsigned "GET") "okx" .balances (.signature .invalidSignature) ∧
      ∀ method ∈ ["HEAD", "PUT"],
        Rejected strange (misdigested method) "okx" .balances (.signature .digestMismatch) ∧
          (strange.serve 0 (misdigested method)).response ≠
            (strange.serve 0 (unsigned "GET")).response := by
  have invalid : strange.policy.grant .read (unsigned "GET") =
      .error (.signature .invalidSignature) := by decide +kernel
  have mismatch : ∀ method ∈ ["HEAD", "PUT"], strange.policy.grant .read (misdigested method) =
      .error (.signature .digestMismatch) := by decide +kernel
  have rejected : Rejected strange (unsigned "GET") "okx" .balances
      (.signature .invalidSignature) := ⟨place_sealedWith _ _ _, Nat.zero_le _, invalid⟩
  refine ⟨rejected, fun method listed => ?_⟩
  have rejected' : Rejected strange (misdigested method) "okx" .balances
      (.signature .digestMismatch) :=
    ⟨place_sealedWith _ _ _, Nat.zero_le _, mismatch method listed⟩
  refine ⟨rejected', ?_⟩
  rw [rejected.response_eq, rejected'.response_eq]
  clear rejected'
  revert method
  decide +kernel

end Gateway

end Countersign
