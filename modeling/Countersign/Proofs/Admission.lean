import Countersign.Proofs.Acceptance
import Countersign.Proofs.Calls
import Countersign.Settings.Credentials

/-! No call without the credential that its route demands, over whole runs of the gateway. -/
namespace Countersign

namespace Access

/-- What a signature has to cover besides the parts of the request. -/
def demanded (r : Request) : List String :=
  if subAccountRequested r.headers r.query then [Signature.subAccountName] else []

/-- The authorization header offers this token. -/
def Offers (r : Request) (secret : String) : Prop :=
  ∃ value, r.headers.text? "authorization" = some value ∧ Text.trim value = "Bearer " ++ secret

variable {p : Policy} {r : Request} {credential : Credential}

theorem bySignature_eq_ok_iff :
    p.bySignature r = .ok credential ↔
      ∃ params, Signature.verify p.verifiers (demanded r) r = .ok params ∧
        credential = .signature params := by
  have same : (if subAccountRequested r.headers r.query then [Signature.subAccountName] else []) =
      demanded r := rfl
  rw [Policy.bySignature, same]
  cases Signature.verify p.verifiers (demanded r) r with
  | error why => simp
  | ok params => simp [eq_comm]

theorem hasSignature_of_verify {verifiers : List Verifier} {required : List String} {r : Request}
    {params : Signature.Params} (accepted : Signature.verify verifiers required r = .ok params) :
    hasSignature r.headers = true := by
  obtain ⟨said, inside, _⟩ := Signature.verify_eq_ok_iff.1 accepted
  obtain ⟨⟨_, digest, _⟩, ⟨_, signature, _⟩, ⟨_, input, _⟩⟩ := inside
  rw [hasSignature, List.all_cons, List.all_cons, List.all_cons,
    (Signature.givenText_eq_ok_iff.1 digest).1, (Signature.givenText_eq_ok_iff.1 signature).1,
    (Signature.givenText_eq_ok_iff.1 input).1]
  rfl

theorem offers_of_read {value secret : String} (read : Offer.read value = .bearer secret) :
    Text.trim value = "Bearer " ++ secret := by
  unfold Offer.read at read
  split at read
  · rename_i token words
    cases read
    have pieces : (Text.trim value).toList.splitOn ' ' = ["Bearer".toList, secret.toList] := by
      have lists := congrArg (List.map String.toList) words
      simpa [Text.fields, Function.comp_def] using lists
    have whole : List.intercalate [' '] ((Text.trim value).toList.splitOn ' ') =
        (Text.trim value).toList := List.intercalate_splitOn ' '
    rw [pieces] at whole
    apply String.toList_inj.1
    rw [← whole]
    simp
  · cases read
  · cases read

theorem byToken_eq_ok {secret : String} (granted : p.byToken secret = .ok credential) :
    ∃ token ∈ p.tokens, token.secret = secret ∧ credential = .bearer token.id := by
  unfold Policy.byToken at granted
  split at granted
  · rename_i token found
    cases granted
    exact ⟨token, List.mem_of_find?_eq_some found, by simpa using List.find?_some found, rfl⟩
  · cases granted

/-- Reading is open to all, or takes one of two credentials. -/
theorem forReading_eq_ok (granted : p.forReading r = .ok credential) :
    p.publicRead = true ∨ (∃ token ∈ p.tokens, Offers r token.secret) ∨
      ∃ params, Signature.verify p.verifiers (demanded r) r = .ok params := by
  unfold Policy.forReading at granted
  split at granted
  · rename_i isOpen
    exact .inl isOpen
  right
  split at granted
  · rename_i secret offered
    left
    obtain ⟨token, known, rfl, _⟩ := byToken_eq_ok granted
    unfold offer at offered
    split at offered
    · cases offered
    · rename_i value text
      exact ⟨token, known, value, text, offers_of_read offered⟩
  · cases granted
  · split at granted
    · right
      obtain ⟨params, accepted, _⟩ := bySignature_eq_ok_iff.1 granted
      exact ⟨params, accepted⟩
    · cases granted

/-- Whatever the class of the route, what is let through by signature was verified. -/
theorem verify_of_grant {kind : RouteClass} {params : Signature.Params}
    (granted : p.grant kind r = .ok (.signature params)) :
    Signature.verify p.verifiers (demanded r) r = .ok params := by
  have signed (granted : p.bySignature r = .ok (.signature params)) :
      Signature.verify p.verifiers (demanded r) r = .ok params := by
    obtain ⟨found, accepted, same⟩ := bySignature_eq_ok_iff.1 granted
    cases same
    exact accepted
  cases kind with
  | reference => cases granted
  | write => exact signed granted
  | read =>
    change p.forReading r = _ at granted
    unfold Policy.forReading at granted
    split at granted
    · cases granted
    split at granted
    · obtain ⟨token, _, _, other⟩ := byToken_eq_ok granted
      cases other
    · cases granted
    · split at granted
      · exact signed granted
      · cases granted

end Access

namespace Settings

variable {ε : Type} {s : Settings} {resolver : Resolver ε}

/-- A token goes by the name of its entry. Nothing is no secret. -/
theorem tokenOf_eq_ok_iff {entry : TokenEntry} {token : Access.Token} :
    tokenOf resolver entry = .ok token ↔
      resolver.load entry.token = .ok token.secret ∧ token.secret ≠ "" ∧ token.id = entry.id := by
  obtain ⟨id, secret⟩ := token
  rw [tokenOf]
  cases resolver.load entry.token with
  | error why => simp
  | ok text =>
    by_cases none : text = ""
    · simp [none]
      tauto
    · have given : text.isEmpty = false := by simpa using none
      have pair : entry.id = id ∧ text = secret ↔ text = secret ∧ secret ≠ "" ∧ id = entry.id := by
        constructor
        · rintro ⟨rfl, rfl⟩
          exact ⟨rfl, none, rfl⟩
        · rintro ⟨rfl, _, rfl⟩
          exact ⟨rfl, rfl⟩
      simpa [given] using pair

/-- The index only names the entry in a fault. -/
theorem verifierOf_eq (index : Nat) (entry : KeyEntry) :
    verifierOf index entry =
      ((VerifyingKey.ofHex entry.key).mapError (Fault.badKey index)).map VerifyingKey.verifier := by
  obtain ⟨_ | _, key⟩ := entry
  rw [verifierOf]
  cases VerifyingKey.ofHex key <;> rfl

theorem verifiersFrom_eq_ok_iff {index : Nat} {entries : List KeyEntry} {verifiers : List Verifier} :
    verifiersFrom index entries = .ok verifiers ↔ ∃ keys : List VerifyingKey,
      List.Forall₂ (fun entry key => VerifyingKey.ofHex entry.key = .ok key) entries keys ∧
        verifiers = keys.map VerifyingKey.verifier := by
  induction entries generalizing index verifiers with
  | nil => simp [verifiersFrom, eq_comm]
  | cons entry rest ih =>
    simp only [verifiersFrom, verifierOf_eq, Outcome.bind_eq_ok_iff, Outcome.pure_eq_ok_iff,
      Outcome.map_eq_ok_iff, Outcome.mapError_eq_ok_iff, ih, List.forall₂_cons_left_iff]
    constructor
    · rintro ⟨_, ⟨key, read, rfl⟩, _, ⟨keys, all, rfl⟩, rfl⟩
      exact ⟨key :: keys, ⟨key, keys, read, all, rfl⟩, rfl⟩
    · rintro ⟨_, ⟨key, keys, read, all, rfl⟩, rfl⟩
      exact ⟨_, ⟨key, read, rfl⟩, _, ⟨keys, all, rfl⟩, rfl⟩

/-- The policy of settings: its tokens are those that the references stand for, its verifiers those of
the keys. -/
theorem policy_eq_ok_iff {policy : Access.Policy} : s.policy resolver = .ok policy ↔
    policy.publicRead = s.publicRead ∧
      List.Forall₂ (fun entry token => tokenOf resolver entry = .ok token) s.tokens policy.tokens ∧
      ∃ keys : List VerifyingKey,
        List.Forall₂ (fun entry key => VerifyingKey.ofHex entry.key = .ok key) s.keys keys ∧
          policy.verifiers = keys.map VerifyingKey.verifier := by
  simp only [Settings.policy, Outcome.bind_eq_ok_iff, Outcome.pure_eq_ok_iff, tokensOf,
    Outcome.mapM_eq_ok_iff, verifiers, verifiersFrom_eq_ok_iff]
  constructor
  · rintro ⟨_, loaded, _, keyed, rfl⟩
    exact ⟨rfl, loaded, keyed⟩
  · obtain ⟨tokens, verifiers, _⟩ := policy
    rintro ⟨rfl, loaded, keyed⟩
    exact ⟨tokens, loaded, verifiers, keyed, rfl⟩

/-- A signature under one of the configured keys, with the sub-account among what it covers where a
request is about one. -/
def SignedBy (s : Settings) (r : Request) : Prop :=
  ∃ keys : List VerifyingKey,
    List.Forall₂ (fun entry key => VerifyingKey.ofHex entry.key = .ok key) s.keys keys ∧
      ∃ params,
        Signature.verify (keys.map VerifyingKey.verifier) (Access.demanded r) r = .ok params

/-- The token that one of the configured references stands for. -/
def Bears (s : Settings) (resolver : Resolver ε) (r : Request) : Prop :=
  ∃ entry ∈ s.tokens, ∃ secret, resolver.load entry.token = .ok secret ∧ Access.Offers r secret

variable {policy : Access.Policy} {r : Request}

theorem signedBy_of_verify (built : s.policy resolver = .ok policy) {params : Signature.Params}
    (accepted : Signature.verify policy.verifiers (Access.demanded r) r = .ok params) :
    s.SignedBy r := by
  obtain ⟨_, _, keys, read, verifiers⟩ := policy_eq_ok_iff.1 built
  rw [verifiers] at accepted
  exact ⟨keys, read, params, accepted⟩

end Settings

namespace Gateway

/-- What a request may lead to. -/
structure Admitted {ε : Type} (s : Settings) (resolver : Settings.Resolver ε)
    (policy : Access.Policy) (r : Request) (served : Served) : Prop where
  single : served.calls.length ≤ 1
  write : ∀ call ∈ served.calls, call.operation.isWrite = true → s.SignedBy r
  read : ∀ call ∈ served.calls, call.operation.isAccountRead = true →
    s.publicRead = true ∨ s.Bears resolver r ∨ s.SignedBy r
  -- A body that is too large is answered before the policy is asked.
  large : ∀ segment route, Place.ofPath? r.path = some (.exchange segment route) →
    maxBody < r.body.length → served.calls = [] ∧ served.response.status = 413
  refused : ∀ segment route fault, Place.ofPath? r.path = some (.exchange segment route) →
    policy.grant route.kind r = .error fault → served.calls = [] ∧
      (r.body.length ≤ maxBody → served.response.status = 400 ∨ served.response.status = 401)

theorem status_shaped (place : Place) (method : String) (response : Response) :
    (shaped place method response).status = response.status := by
  unfold shaped
  split
  · rfl
  · split <;> rfl

theorem status_refusalOf (fault : Access.Fault) :
    (refusalOf fault).status = 400 ∨ (refusalOf fault).status = 401 := by
  cases fault with
  | missingCredential => exact .inl rfl
  | malformedCredential => exact .inl rfl
  | invalidToken => exact .inr rfl
  | signature why => exact .inr rfl

variable {g : Gateway} {r : Request}

section

variable {segment : String} {route : Route}
  (place : Place.ofPath? r.path = some (.exchange segment route))
include place

/-- At the place of an exchange the guard decides on calls and on the status. -/
theorem serve_exchange (now : Int) :
    (g.serve now r).calls = (g.guarded now segment route r).calls ∧
      (g.serve now r).response.status = (g.guarded now segment route r).response.status := by
  rw [serve, place]
  exact ⟨rfl, status_shaped _ _ _⟩

theorem serve_of_large (now : Int) (large : maxBody < r.body.length) :
    (g.serve now r).calls = [] ∧ (g.serve now r).response.status = 413 := by
  rw [(serve_exchange place now).1, (serve_exchange place now).2, guarded, if_pos large]
  exact ⟨rfl, rfl⟩

/-- Who is not let through reaches nothing. -/
theorem serve_of_grant_eq_error (now : Int) {fault : Access.Fault}
    (failed : g.policy.grant route.kind r = .error fault) :
    (g.serve now r).calls = [] ∧
      (r.body.length ≤ maxBody → (g.serve now r).response.status = (refusalOf fault).status) := by
  rw [(serve_exchange place now).1, (serve_exchange place now).2, guarded]
  split
  · rename_i large
    exact ⟨rfl, fun small => absurd small (Nat.not_le_of_lt large)⟩
  · rw [failed]
    exact ⟨rfl, fun _ => rfl⟩

/-- For who is let through the request is carried out. -/
theorem serve_of_granted (now : Int) (small : r.body.length ≤ maxBody)
    {credential : Access.Credential} (granted : g.policy.grant route.kind r = .ok credential)
    (allowed : (Place.exchange segment route).allows r.method = true) :
    (g.serve now r).calls = (g.carryOut segment route r).calls ∧
      (g.serve now r).response.status = (g.carryOut segment route r).response.status := by
  rw [(serve_exchange place now).1, (serve_exchange place now).2, guarded,
    if_neg (Nat.not_lt_of_le small), granted]
  dsimp only
  rw [if_pos allowed]
  exact ⟨rfl, rfl⟩

end

/-- A write that reaches an exchange was verified, whatever else the request carries. -/
theorem exists_verified_of_write {now : Int} {call : Call} (called : call ∈ (g.serve now r).calls)
    (writes : call.operation.isWrite = true) :
    ∃ params, Signature.verify g.policy.verifiers (Access.demanded r) r = .ok params := by
  obtain ⟨trail⟩ := trail_of_mem_calls called
  have kind : trail.route.kind = .write := by
    rw [← trail.kind_eq]
    exact (Operation.isWrite_iff _).1 writes
  have granted := trail.granted
  rw [kind] at granted
  obtain ⟨params, accepted, _⟩ := Access.bySignature_eq_ok_iff.1 granted
  exact ⟨params, accepted⟩

/-- A read that reaches an exchange was open to all, or came with a token, or was verified. -/
theorem of_account_read {now : Int} {call : Call} (called : call ∈ (g.serve now r).calls)
    (reads : call.operation.isAccountRead = true) :
    g.policy.publicRead = true ∨ (∃ token ∈ g.policy.tokens, Access.Offers r token.secret) ∨
      ∃ params, Signature.verify g.policy.verifiers (Access.demanded r) r = .ok params := by
  obtain ⟨trail⟩ := trail_of_mem_calls called
  have kind : trail.route.kind = .read := by
    rw [← trail.kind_eq]
    exact (Operation.isAccountRead_iff _).1 reads
  have granted := trail.granted
  rw [kind] at granted
  exact Access.forReading_eq_ok granted

/-- One request, answered at any time and by any backends. -/
theorem admitted_serve {ε : Type} {s : Settings} {resolver : Settings.Resolver ε}
    (built : s.policy resolver = .ok g.policy) (now : Int) :
    Admitted s resolver g.policy r (g.serve now r) where
  single := length_calls_serve now
  write := by
    intro call called writes
    obtain ⟨params, accepted⟩ := exists_verified_of_write called writes
    exact Settings.signedBy_of_verify built accepted
  read := by
    intro call called reads
    obtain ⟨sameOpen, tokens, _⟩ := Settings.policy_eq_ok_iff.1 built
    rcases of_account_read called reads with isOpen | ⟨token, known, offers⟩ | ⟨params, accepted⟩
    · exact .inl (sameOpen ▸ isOpen)
    · obtain ⟨entry, listed, loaded⟩ := Outcome.exists_input tokens known
      have resolved := (Settings.tokenOf_eq_ok_iff.1 loaded).1
      exact .inr (.inl ⟨entry, listed, token.secret, resolved, offers⟩)
    · exact .inr (.inr (Settings.signedBy_of_verify built accepted))
  large := fun _ _ place large => serve_of_large place now large
  refused := by
    intro segment route fault place failed
    obtain ⟨none, status⟩ := serve_of_grant_eq_error place now failed
    refine ⟨none, fun small => ?_⟩
    rw [status small]
    exact status_refusalOf fault

/-- Backends that remember all calls that were made before. -/
abbrev Remembering := Registry (List Call → Backend)

def Remembering.after (registry : Remembering) (past : List Call) : Registry Backend :=
  ⟨registry.entries.map fun (id, entry) =>
    (id, ⟨entry.exchange, entry.backend.map fun backend => backend past⟩)⟩

/-- Requests with their answers, one after the other. -/
def answers (policy : Access.Policy) (registry : Remembering) (past : List Call) :
    List (Int × Request) → List (Request × Served)
  | [] => []
  | (now, r) :: rest =>
    let served := Gateway.serve ⟨policy, registry.after past⟩ now r
    (r, served) :: answers policy registry (past ++ served.calls) rest

/-- Whatever came before, no request reaches an exchange without its credential. -/
theorem admitted_answers {ε : Type} {s : Settings} {resolver : Settings.Resolver ε}
    {policy : Access.Policy} (built : s.policy resolver = .ok policy) (registry : Remembering)
    (past : List Call) (requests : List (Int × Request)) :
    ∀ exchanged ∈ answers policy registry past requests,
      Admitted s resolver policy exchanged.1 exchanged.2 := by
  induction requests generalizing past with
  | nil => exact nofun
  | cons request rest ih =>
    obtain ⟨now, r⟩ := request
    intro exchanged member
    rw [answers] at member
    rcases List.mem_cons.1 member with rfl | later
    · exact admitted_serve (g := ⟨policy, registry.after past⟩) built now
    · exact ih _ exchanged later

/-- One exchange, one token and one key. -/
def desk : Settings where
  tokens := [⟨"reader", "raw:read-token"⟩]
  keys := [⟨.ed25519, "d75a980182b10ab7d54bfed3c964073a0ee172f3daa62325af021a68f707511a"⟩]
  exchanges := [⟨"okx", [⟨"1001", some "desk-a"⟩]⟩]

def deskRegistry : Remembering :=
  ⟨[("okx", ⟨⟨"okx", [⟨"1001", some "desk-a"⟩]⟩, some fun _ _ _ => .ok .null⟩)]⟩

def withToken (method resource : String) : Request where
  method := method
  path := "/v1/exchanges/okx/" ++ resource
  query := ""
  headers := Headers.empty.insert "authorization" (bytesOf "Bearer read-token")
  body := []

/-- The token reads and does not write. -/
theorem admitted_answers_desk :
    ∃ policy, desk.policy (.standard .bare) = .ok policy ∧
      (answers policy deskRegistry [] [(0, withToken "GET" "balances"),
          (1, withToken "POST" "withdrawal")]).map
        (fun exchanged => (exchanged.2.calls.length, exchanged.2.response.status)) =
          [(1, 200), (0, 401)] ∧
      ∀ exchanged ∈ answers policy deskRegistry [] [(0, withToken "GET" "balances"),
          (1, withToken "POST" "withdrawal")],
        Admitted desk (.standard .bare) policy exchanged.1 exchanged.2 := by
  refine ⟨_, rfl, ?_, admitted_answers rfl deskRegistry [] _⟩
  decide +kernel

end Gateway

end Countersign
