import Countersign.Proofs.Acceptance
import Countersign.Proofs.Admission
import Countersign.Proofs.Declared
import Mathlib.Data.Set.Defs

/-! No forged movement of funds. If keys answer only for texts that were signed, then a write that
reaches an exchange was asked for in a signed request. -/
namespace Countersign

open Signature (Labelled Params Seal contentDigestName subAccountName)

/-- A request that was signed. Extras are names of headers, and the sub-account is among them if the
request carries one. -/
structure Signing where
  signer : Signer
  created : Int
  extra : List String
  request : Request
  sealed : Seal
  made : Seal.make signer created extra request = .ok sealed
  tokens : ∀ e ∈ extra, Headers.isToken e = true
  covered : request.headers.isGiven subAccountName = true →
    ∃ e ∈ extra, Params.componentName e = subAccountName
  lines : request.OneLine

/-- The message that was given to the signer. -/
def Signing.Signs (s : Signing) (message : Bytes) : Prop :=
  ∃ text, Signature.base (Params.new s.created s.extra) s.request
    (Labelled.ofBody s.request.body) = .ok text ∧ message = bytesOf text

namespace Gateway

/-- A plan depends on the query, the sub-account and the body alone. -/
theorem plan_congr {β : Type} {registry : Registry β} {exchange : String} {route : Route}
    {r r' : Request} (query : r.query = r'.query) (body : r.body = r'.body)
    (subaccount : requestedSubAccount r.headers (Form.decode (bytesOf r.query)) =
      requestedSubAccount r'.headers (Form.decode (bytesOf r'.query))) :
    plan registry exchange route r = plan registry exchange route r' := by
  unfold plan
  dsimp only
  rw [subaccount, query, body]

/-- The calls that a request asks for, once it is let through. -/
def asked (g : Gateway) (r : Request) : List Call :=
  match Place.ofPath? r.path with
  | some (.exchange segment route) => (g.carryOut segment route r).calls
  | _ => []

theorem asked_congr {g : Gateway} {r r' : Request} (path : r.path = r'.path)
    (query : r.query = r'.query) (body : r.body = r'.body)
    (subaccount : requestedSubAccount r.headers (Form.decode (bytesOf r.query)) =
      requestedSubAccount r'.headers (Form.decode (bytesOf r'.query))) :
    g.asked r = g.asked r' := by
  unfold asked carryOut
  rw [path]
  simp only [plan_congr query body subaccount]

theorem asked_of_mem_calls {g : Gateway} {now : Int} {r : Request} {call : Call}
    (called : call ∈ (g.serve now r).calls) : g.asked r = [call] := by
  obtain ⟨segment, route, place, guardedCall⟩ := mem_calls_serve called
  obtain ⟨_, _, _, later⟩ := mem_calls_guarded guardedCall
  have few : (g.carryOut segment route r).calls.length ≤ 1 := length_calls_carryOut segment route
  rw [asked, place]
  dsimp only
  cases calls : (g.carryOut segment route r).calls with
  | nil =>
    rw [calls] at later
    cases later
  | cons first rest =>
    rw [calls, List.length_cons] at few
    have none : rest = [] := List.length_eq_zero_iff.1 (by omega)
    rw [calls, none, List.mem_singleton] at later
    rw [none, later]

end Gateway

namespace Signing

/-- The request behind a call: it asks for the same in the same words, but for a body with the same
digest; and with the same body it asks for this very call. -/
structure Behind (s : Signing) (g : Gateway) (r : Request) (call : Call) : Prop where
  method : s.request.method = r.method
  path : s.request.path = r.path
  query : s.request.query = r.query
  digest : Sha2.sha256 s.request.body = Sha2.sha256 r.body
  subaccount :
    Gateway.requestedSubAccount s.request.headers (Form.decode (bytesOf s.request.query)) =
      Gateway.requestedSubAccount r.headers (Form.decode (bytesOf r.query))
  call : s.request.body = r.body → g.asked s.request = [call]

/-- Keys answer only for messages that were given to a signer. -/
def Sound (verifiers : List Verifier) (signings : Set Signing) : Prop :=
  ∀ v ∈ verifiers, ∀ message signature, v.accepts message signature = true →
    ∃ s ∈ signings, s.Signs message

variable {s : Signing} {r : Request} {said : Signature.Carried}

/-- What is accepted as signed and what was signed agree in all that is covered. -/
theorem agree {text : String} (signs : s.Signs (bytesOf text)) (lines : r.OneLine)
    (inside : said.In r.headers) (made : Signature.base said.params r said.digest = .ok text) :
    (Params.new s.created s.extra).components = said.params.components ∧
      ∀ c ∈ said.params.components,
        Signature.shownValue s.request (Labelled.ofBody s.request.body) c =
          Signature.shownValue r said.digest c := by
  obtain ⟨signed, madeHere, same⟩ := signs
  obtain rfl := bytesOf_injective same
  have tokens : ∀ e ∈ s.extra, Headers.isToken (Params.componentName e) = true :=
    fun e listed => Params.isToken_componentName (s.tokens e listed)
  obtain ⟨components, _, values⟩ := Signature.base_injective
    (Signature.plain_new s.lines tokens) (inside.plain lines) madeHere made
  exact ⟨components, fun c covered => values c (components ▸ covered)⟩

/-- Both readers of the sub-account find the same, whether or not it is covered. -/
theorem requestedSubAccount_eq {params : Params}
    (inside : (Params.new s.created s.extra).components = params.components)
    (demanded : ∀ name ∈ Access.demanded r, name ∈ params.components)
    (query : s.request.query = r.query)
    (values : subAccountName ∈ params.components →
      (s.request.headers.text? subAccountName).getD "" = (r.headers.text? subAccountName).getD "") :
    Gateway.requestedSubAccount s.request.headers (Form.decode (bytesOf s.request.query)) =
      Gateway.requestedSubAccount r.headers (Form.decode (bytesOf r.query)) := by
  have headers : Gateway.given (s.request.headers.text? subAccountName) =
      Gateway.given (r.headers.text? subAccountName) := by
    by_cases isCovered : subAccountName ∈ params.components
    · exact Gateway.given_eq_of_getD_eq (values isCovered)
    -- What is not covered is on neither side: the signer would have named it, the gateway demanded it.
    · have notSigned : s.request.headers.isGiven subAccountName = false := by
        rw [Bool.eq_false_iff]
        intro given
        obtain ⟨e, listed, name⟩ := s.covered given
        exact isCovered (inside ▸ Params.covers_new_subAccount.2 ⟨e, listed, name⟩)
      have notReceived : r.headers.isGiven subAccountName = false := by
        rw [Bool.eq_false_iff]
        intro given
        have requested : Access.subAccountRequested r.headers r.query = true := by
          rw [Access.subAccountRequested, given, Bool.true_or]
        exact isCovered (demanded _ (by rw [Access.demanded, if_pos requested]; simp))
      rw [Gateway.given_text?_eq_none notSigned, Gateway.given_text?_eq_none notReceived]
  rw [Gateway.requestedSubAccount, Gateway.requestedSubAccount, headers, query]

/-- Behind every write that reaches an exchange stands a request that was signed. -/
theorem exists_behind_write {g : Gateway} {signings : Set Signing}
    (sound : Sound g.policy.verifiers signings) {now : Int} {call : Call} (lines : r.OneLine)
    (called : call ∈ (g.serve now r).calls) (writes : call.operation.isWrite = true) :
    ∃ s ∈ signings, s.Behind g r call := by
  obtain ⟨params, accepted⟩ := Gateway.exists_verified_of_write called writes
  obtain ⟨said, inside, judged⟩ := Signature.verify_eq_ok_iff.1 accepted
  obtain ⟨rfl, covered, digest, text, made, agreed⟩ := Signature.Carried.judge_eq_ok_iff.1 judged
  obtain ⟨v, known, accepts⟩ := List.any_eq_true.1 agreed
  obtain ⟨s, signed, signs⟩ := sound v known _ _ accepts
  obtain ⟨components, values⟩ := agree signs lines inside made
  have parts : ∀ name ∈ Params.requestParts, name ∈ said.params.components :=
    fun name part => covered name (List.mem_append_left _ part)
  have method : s.request.method = r.method := by simpa using values _ (parts "@method" (by decide))
  have path : s.request.path = r.path := by simpa using values _ (parts "@path" (by decide))
  have query : s.request.query = r.query := by simpa using values _ (parts "@query" (by decide))
  have bodies : Sha2.sha256 s.request.body = Sha2.sha256 r.body := by
    have isCovered : contentDigestName ∈ said.params.components := by
      rw [← components]
      exact Params.mem_new.2 (.inl (by decide))
    have rendered : (Labelled.ofBody s.request.body).render = said.digest.render :=
      values contentDigestName isCovered
    have same := Labelled.render_injective (Labelled.label_ofBody s.request.body)
      inside.label_digest rendered
    rw [digest, ← same]
    rfl
  have subaccount := requestedSubAccount_eq (r := r) components
    (fun name isDemanded => covered name (List.mem_append_right _ isDemanded)) query
    (fun isCovered => by
      have value := values subAccountName isCovered
      rwa [Signature.shownValue_subAccount, Signature.shownValue_subAccount] at value)
  refine ⟨s, signed, method, path, query, bodies, subaccount, fun body => ?_⟩
  rw [Gateway.asked_congr path query body subaccount]
  exact Gateway.asked_of_mem_calls called

/-- A transfer as its signer has it. -/
def transferAsked : Request where
  method := "POST"
  path := "/v1/exchanges/okx/account-transfer"
  query := ""
  headers := Headers.empty
  body := bytesOf "\x7b\"symbol\":\"BTC\",\"amount\":\"1\",\"to\":\"desk-a\"\x7d"

def transferText : String :=
  "\"@method\": POST\n\"@path\": /v1/exchanges/okx/account-transfer\n\"@query\": \n" ++
    "\"content-digest\": sha-256=:xQPK7twFeGpa8OlaFs8haDlfxUYp7MCiJGe+v5G/7P0=:\n" ++
    "\"@signature-params\": (@method @path @query content-digest);created=\"1\"\n"

def transferSignature : String :=
  "iam=:t3BYd9Dom+vgGxyPWrvkCpvKi403BvUUxJtgguf9UWevuyRAJgzBjKtUe9eFTc+AHsi2MARSokObsv0lJjT3Ag==:"

/-- The transfer as the gateway receives it. -/
def transferSent : Request :=
  { transferAsked with
    headers := ((Headers.empty.insert contentDigestName
      (bytesOf "sha-256=:xQPK7twFeGpa8OlaFs8haDlfxUYp7MCiJGe+v5G/7P0=:")).insert
      Signature.inputName
      (bytesOf "iam=(@method @path @query content-digest);created=\"1\"")).insert
      Signature.signatureName (bytesOf transferSignature) }

theorem base_transferAsked :
    Signature.base (Params.new 1 []) transferAsked (Labelled.ofBody transferAsked.body) =
      .ok transferText := by
  decide +kernel

def transferSigning : Signing where
  signer :=
    let seed := (Hex.decode "9d61b19deffd5a60ba844af492ec2cc44449c5697b326919703bac031cae7f60")
    ⟨Ed25519.sign (seed.toOption.getD []), Ed25519.publicKey (seed.toOption.getD [])⟩
  created := 1
  extra := []
  request := transferAsked
  sealed := _
  made := Signature.Seal.make_eq_ok_iff.2 ⟨transferText, base_transferAsked, rfl⟩
  tokens := nofun
  covered := by decide
  lines := ⟨by decide, by decide, by decide⟩

/-- A gateway that knows the one signature. -/
def transferGateway : Gateway where
  policy := ⟨[], Signature.solely transferText transferSignature, false⟩
  registry := Gateway.deskRegistry.after []

theorem sound_transferGateway : Sound transferGateway.policy.verifiers {transferSigning} := by
  intro v known message signature accepted
  obtain rfl := List.mem_singleton.1 known
  rw [Bool.and_eq_true, beq_iff_eq] at accepted
  exact ⟨transferSigning, rfl, transferText, base_transferAsked, accepted.1⟩

def transferCall : Call :=
  ⟨.accountTransfer { symbol := some "BTC", amount := "1", target := some "1001" }, ⟨"okx", none⟩⟩

/-- The transfer is carried out, and it is the signed one. -/
theorem exists_behind_transfer :
    (transferGateway.serve 0 transferSent).calls = [transferCall] ∧
      ∃ s ∈ ({transferSigning} : Set Signing), s.Behind transferGateway transferSent transferCall := by
  have calls : (transferGateway.serve 0 transferSent).calls = [transferCall] := by decide +kernel
  have called : transferCall ∈ (transferGateway.serve 0 transferSent).calls := by
    rw [calls]
    exact List.mem_cons_self
  have lines : transferSent.OneLine := ⟨by decide, by decide, by decide⟩
  exact ⟨calls, exists_behind_write sound_transferGateway lines called rfl⟩

end Signing

end Countersign
