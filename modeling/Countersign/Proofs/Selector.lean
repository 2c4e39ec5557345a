import Countersign.Proofs.Acceptance
import Countersign.Proofs.Admission
import Countersign.Proofs.QueryPairs

/-! Whether a sub-account that is acted on was signed. The policy reads the query as it stands and the
plan reads it decoded; an escape in the key is seen by one of them only. -/
namespace Countersign

open Signature (subAccountName)

namespace Gateway

/-- Only the plan sees this sub-account: no header gives one, no pair of the query names one as it
stands, and the last pair that decodes to the name has an escape in its key. -/
structure Veiled (h : Headers) (query : String) : Prop where
  noHeader : h.isGiven subAccountName = false
  unnamed : (query.toList.splitOn '&').any Access.namesSubAccount = false
  escaped : ∃ piece, Form.last? query subAccountName = some piece ∧
    '%' ∈ piece.takeWhile (· != '=') ∧ Form.valueOf piece ≠ ""

/-- The sub-account that a query names, once it is decoded. -/
theorem given_get?_eq_some_iff {query name : String} :
    given (Form.get? (Form.decode (bytesOf query)) subAccountName) = some name ↔
      ∃ piece, Form.last? query subAccountName = some piece ∧ Form.valueOf piece = name ∧
        name ≠ "" := by
  rw [Form.get?_decode (by decide), given, Option.filter_eq_some_iff, Option.map_eq_some_iff]
  constructor
  · rintro ⟨⟨piece, found, value⟩, given⟩
    exact ⟨piece, found, value, by simpa using given⟩
  · rintro ⟨piece, found, value, given⟩
    exact ⟨⟨piece, found, value⟩, by simpa using given⟩

theorem namesSubAccount_of_takeWhile {piece : List Char}
    (key : piece.takeWhile (· != '=') = subAccountName.toList) (value : Form.valueOf piece ≠ "") :
    Access.namesSubAccount piece = true := by
  cases behind : piece.dropWhile (· != '=') with
  | nil =>
    have empty : Form.valueOf piece = "" := by
      rw [Form.valueOf, behind]
      decide
    exact absurd empty value
  | cons c rest =>
    have cut : Text.cut '=' piece = some (subAccountName.toList, rest) := by
      rw [Text.cut, behind, key]
    have notEmpty : rest ≠ [] := by
      rintro rfl
      apply value
      rw [Form.valueOf, behind, List.drop_one, List.tail_cons]
      decide
    rw [Access.namesSubAccount, cut]
    simp [notEmpty]

/-- The plan finds a sub-account where the policy finds none just if it is veiled. -/
theorem readers_disagree_iff {h : Headers} {query : String} :
    (requestedSubAccount h (Form.decode (bytesOf query))).isSome = true ∧
        Access.subAccountRequested h query = false ↔ Veiled h query := by
  rw [Access.subAccountRequested, Bool.or_eq_false_iff]
  constructor
  · rintro ⟨found, noHeader, unnamed⟩
    obtain ⟨name, named⟩ := Option.isSome_iff_exists.1 found
    rw [requestedSubAccount, given_text?_eq_none noHeader, Option.none_or,
      given_get?_eq_some_iff] at named
    obtain ⟨piece, last, rfl, value⟩ := named
    refine ⟨noHeader, unnamed, piece, last, ?_, value⟩
    by_contra plain
    have key : Form.keyOf piece = subAccountName := by simpa using List.find?_some last
    have names : Access.namesSubAccount piece = true :=
      namesSubAccount_of_takeWhile (Form.takeWhile_eq_of_keyOf_eq plain (by decide) key) value
    have member : piece ∈ query.toList.splitOn '&' :=
      List.mem_reverse.1 (List.mem_of_find?_eq_some last)
    rw [List.any_eq_false] at unnamed
    exact unnamed piece member names
  · rintro ⟨noHeader, unnamed, piece, last, _, value⟩
    have named := given_get?_eq_some_iff.2 ⟨piece, last, rfl, value⟩
    refine ⟨?_, noHeader, unnamed⟩
    rw [requestedSubAccount, given_text?_eq_none noHeader, Option.none_or, named]
    rfl

end Gateway

/-- Only a name leads to a sub-account. -/
theorem Registry.isSome_of_account {β : Type} {registry : Registry β} {id : String}
    {name : Option String} {account : Account} (found : registry.account id name = .ok account)
    (acted : account.subaccount.isSome = true) : name.isSome = true := by
  cases name with
  | some name => rfl
  | none =>
    simp only [Registry.account, Outcome.bind_eq_ok_iff, Outcome.pure_eq_ok_iff] at found
    obtain ⟨entry, _, rfl⟩ := found
    cases acted

namespace Gateway

/-- A call for a sub-account had one requested, as the plan reads the request. -/
theorem Trail.requested {g : Gateway} {r : Request} {call : Call} (trail : Trail g r call)
    (acted : call.account.subaccount.isSome = true) :
    (requestedSubAccount r.headers (Form.decode (bytesOf r.query))).isSome = true := by
  have named := Registry.isSome_of_account trail.found acted
  rw [(of_plan_eq_ok trail.planned).2] at named
  split at named
  · cases named
  · exact named

theorem covers_of_requested {g : Gateway} {r : Request} {kind : Access.RouteClass}
    {params : Signature.Params} (granted : g.policy.grant kind r = .ok (.signature params))
    (requested : Access.subAccountRequested r.headers r.query = true) :
    params.covers subAccountName = true := by
  have accepted := Access.verify_of_grant granted
  rw [Access.demanded, if_pos requested] at accepted
  obtain ⟨said, _, judged⟩ := Signature.verify_eq_ok_iff.1 accepted
  obtain ⟨rfl, covered, _⟩ := Signature.Carried.judge_eq_ok_iff.1 judged
  rw [Signature.Params.covers, List.contains_iff_mem]
  exact covered _ (List.mem_append_right _ (List.mem_singleton.2 rfl))

theorem subAccountRequested_iff_not_veiled {h : Headers} {query : String}
    (found : (requestedSubAccount h (Form.decode (bytesOf query))).isSome = true) :
    Access.subAccountRequested h query = true ↔ ¬ Veiled h query := by
  rw [← readers_disagree_iff, not_and, Bool.not_eq_false]
  exact ⟨fun requested _ => requested, fun seen => seen found⟩

/-- The two readers agree on all but veiled sub-accounts. What is acted on is covered by the signature
just as far: for a veiled one nothing is demanded of the signature. -/
theorem covered_or_veiled (g : Gateway) (now : Int) (r : Request) :
    ((requestedSubAccount r.headers (Form.decode (bytesOf r.query))).isSome = true →
      (Access.subAccountRequested r.headers r.query = true ↔ ¬ Veiled r.headers r.query)) ∧
    ∀ call ∈ (g.serve now r).calls, call.account.subaccount.isSome = true →
      ∀ segment route params, Place.ofPath? r.path = some (.exchange segment route) →
        g.policy.grant route.kind r = .ok (.signature params) →
          (¬ Veiled r.headers r.query → params.covers subAccountName = true) ∧
            (Veiled r.headers r.query →
              Signature.verify g.policy.verifiers [] r = .ok params) := by
  refine ⟨subAccountRequested_iff_not_veiled, ?_⟩
  intro call called acted segment route params _ granted
  obtain ⟨trail⟩ := trail_of_mem_calls called
  have agree := subAccountRequested_iff_not_veiled (trail.requested acted)
  constructor
  · intro seen
    exact covers_of_requested granted (agree.2 seen)
  · intro veiled
    have accepted := Access.verify_of_grant granted
    rwa [Access.demanded, (readers_disagree_iff.2 veiled).2, if_neg Bool.false_ne_true] at accepted

/-- Balances, asked for with a query and signed with these extras in the list. -/
def balances (query extras signature : String) : Request where
  method := "GET"
  path := "/v1/exchanges/okx/balances"
  query := query
  headers := ((Headers.empty.insert Signature.contentDigestName
    (bytesOf "sha-256=:47DEQpj8HBSa+/TImW+5JCeuQeRkm5NMpJWZG3hSuFU=:")).insert
    Signature.inputName
    (bytesOf ("iam=(@method @path @query content-digest" ++ extras ++ ");created=\"1\""))).insert
    Signature.signatureName (bytesOf signature)
  body := []

/-- The text under such a signature. -/
def balancesText (query extras lines : String) : String :=
  "\"@method\": GET\n\"@path\": /v1/exchanges/okx/balances\n\"@query\": " ++ query ++ "\n" ++
    "\"content-digest\": sha-256=:47DEQpj8HBSa+/TImW+5JCeuQeRkm5NMpJWZG3hSuFU=:\n" ++ lines ++
    "\"@signature-params\": (@method @path @query content-digest" ++ extras ++ ");created=\"1\"\n"

def deskGateway (text signature : String) : Gateway where
  policy := ⟨[], Signature.solely text signature, false⟩
  registry := deskRegistry.after []

def deskBalances : Call := ⟨.listBalances none, ⟨"okx", some ⟨"1001", some "desk-a"⟩⟩⟩

def namedSignature : String :=
  "iam=:RPe+gshM5GvSe22W+CHuVrGYsjapUZLSSyKYfBX53/fCOuN9JUlkagr2vCLshj6lbUChqsNdSkkjsSz9S8SyBg==:"

def namedGateway : Gateway :=
  deskGateway (balancesText "sub-account=desk-a" " sub-account" "\"sub-account\": \n") namedSignature

def namedBalances : Request := balances "sub-account=desk-a" " sub-account" namedSignature

/-- A sub-account that is named as it stands is acted on under its signature. -/
theorem covered_named : ∃ params : Signature.Params,
    namedGateway.policy.grant .read namedBalances = .ok (.signature params) ∧
      (namedGateway.serve 0 namedBalances).calls = [deskBalances] ∧
      params.covers subAccountName = true := by
  have ⟨granted, calls⟩ : namedGateway.policy.grant .read namedBalances = .ok (.signature
        ⟨"iam", Signature.Params.standard ++ [subAccountName], [("created", "\"1\"")]⟩) ∧
      (namedGateway.serve 0 namedBalances).calls = [deskBalances] := by
    decide +kernel
  have called : deskBalances ∈ (namedGateway.serve 0 namedBalances).calls := by
    rw [calls]
    exact List.mem_cons_self
  have place : Place.ofPath? namedBalances.path = some (.exchange "okx" .balances) := by decide
  have seen : ¬ Veiled namedBalances.headers namedBalances.query := by
    rw [← readers_disagree_iff]
    decide +kernel
  exact ⟨_, granted, calls,
    ((covered_or_veiled namedGateway 0 namedBalances).2 _ called rfl "okx" .balances _ place
      granted).1 seen⟩

def veiledSignature : String :=
  "iam=:TT/9a0CuGXa3Gbjz1kHz9EHhJLr8NfhldQY/+W+4IrL0V2egaBt8MuewsjSeDujsE/B7UCRBQ2Vp1K0FW6knDA==:"

def veiledGateway : Gateway :=
  deskGateway (balancesText "sub%2Daccount=desk-a" "" "") veiledSignature

def veiledBalances : Request := balances "sub%2Daccount=desk-a" "" veiledSignature

/-- An escape in the key, and a sub-account is acted on that no signature names. -/
theorem veiled_uncovered :
    requestedSubAccount veiledBalances.headers (Form.decode (bytesOf veiledBalances.query)) =
        some "desk-a" ∧
      Access.subAccountRequested veiledBalances.headers veiledBalances.query = false ∧
      veiledGateway.policy.grant .read veiledBalances = .ok (.signature
        ⟨"iam", Signature.Params.standard, [("created", "\"1\"")]⟩) ∧
      Signature.Params.standard.contains subAccountName = false ∧
      (veiledGateway.serve 0 veiledBalances).calls = [deskBalances] := by
  decide +kernel

end Gateway

end Countersign
