import Countersign.Proofs.Arguments
import Countersign.Proofs.Scope
import Countersign.Proofs.Sealed
import Countersign.Proofs.Segments

/-! What is asked of a client reaches the exchange: the gateway finds the place, the credential, the
account and the arguments in the signed request just as they were put into it. -/
namespace Countersign

open Signature (subAccountName)

/-! ### The sub-account -/

/-- No name chooses the main account, and a name the sub-account that goes by it. -/
inductive Exchange.Chosen (e : Exchange) : Option String → Option Subaccount → Prop
  | main : Chosen e none none
  | named {name : String} {sub : Subaccount} (listed : sub ∈ e.subaccounts) (goes : sub.GoesBy name) :
      Chosen e (some name) (some sub)

theorem Registry.account_of_chosen {β : Type} {registry : Registry β} {e : Exchange}
    {entry : Registered β} (found : registry.get? e.id = some entry) (known : entry.exchange = e)
    (unique : (Settings.subaccountNames e).Nodup) {name : Option String} {sub : Option Subaccount}
    (chosen : e.Chosen name sub) : registry.account e.id name = .ok ⟨e.id, sub⟩ := by
  refine Registry.account_eq_ok_iff.2 ⟨rfl, entry, found, ?_⟩
  cases chosen with
  | main => rfl
  | named listed goes =>
    rw [known, Option.map_some, Exchange.subaccount?_eq_some unique listed goes]
    rfl

namespace Client

theorem subAccount_new_ne_empty (base : String) (token : Option String) (signer : Option Signer)
    (option : Option String) : (new base token signer option).subAccount ≠ some "" := by
  intro empty
  have given := (Option.filter_eq_some_iff.1 empty).2
  exact absurd given (by decide)

namespace Ask

theorem fst_of_mem_query {ask : Ask} {pair : String × String} (listed : pair ∈ ask.query) :
    pair.1 ∈ ["type", "symbol", "network", "limit", "page_token"] := by
  have ofPair {name : String} {value : Option String} (listed : pair ∈ Ask.pair name value) :
      pair.1 = name := by
    cases value with
    | none => cases listed
    | some text => rw [List.mem_singleton.1 listed]
  cases ask with
  | balances accountType =>
    rw [ofPair listed]
    decide
  | depositAddress symbol network =>
    simp only [query, List.mem_cons, List.not_mem_nil, or_false] at listed
    rcases listed with rfl | rfl
    · exact List.mem_cons_of_mem _ List.mem_cons_self
    · exact List.mem_cons_of_mem _ (List.mem_cons_of_mem _ List.mem_cons_self)
  | withdrawalHistory limit pageToken =>
    rcases List.mem_append.1 listed with here | here
    · rw [ofPair here]
      decide
    · rw [ofPair here]
      decide
  | assets => cases listed
  | accountTypes => cases listed
  | subaccounts => cases listed
  | transfer t => cases listed
  | withdrawal w => cases listed

theorem fst_ne_subAccountName {ask : Ask} {pair : String × String} (listed : pair ∈ ask.query) :
    pair.1 ≠ subAccountName := by
  have others : subAccountName ∉ ["type", "symbol", "network", "limit", "page_token"] := by decide
  exact fun same => others (same ▸ fst_of_mem_query listed)

end Ask

/-- The last pair names the sub-account, and no other does. -/
theorem get?_pairs (client : Client) (ask : Ask) :
    Form.get? (client.pairs ask) subAccountName = client.subAccount := by
  have none : Form.get? ask.query subAccountName = none := by
    rw [Form.get?, List.lookup_eq_none_iff]
    intro pair listed
    have differ := Ask.fst_ne_subAccountName (List.mem_reverse.1 listed)
    simpa using Ne.symm differ
  rw [pairs, Form.get?_append, Form.get?_pair, if_pos rfl, none, Option.or_none]

theorem get?_withType {ask : Ask} {name : String} (other : Text.lower name ≠ "content-type") :
    (withType ask).get? name = none := by
  have lowered : Text.lower "content-type" = "content-type" := by decide
  unfold withType
  split
  · rw [Headers.get?_insert, lowered, if_neg other, Headers.get?_empty]
  · exact Headers.get?_empty name

/-- A sub-account is put into its header byte for byte. -/
theorem get?_withSubAccount {client : Client} {h headers : Headers}
    (given : client.withSubAccount h = .ok headers) (name : String) :
    headers.get? name =
      (if Text.lower name = subAccountName then client.subAccount.map bytesOf else none).or
        (h.get? name) := by
  have lowered : Text.lower subAccountName = subAccountName := by decide
  unfold withSubAccount at given
  split at given
  · rename_i none
    cases given
    simp [none]
  · rename_i sub some
    split at given
    · rename_i value text
      cases given
      obtain rfl : bytesOf sub = value := by
        rw [Headers.valueOf?, Option.ite_none_right_eq_some, Option.some.injEq] at text
        exact text.2
      rw [Headers.get?_insert, lowered, some, Option.map_some]
      split <;> rfl
    · cases given

/-- The headers before signing: the sub-account stands in its own, and there is no token. -/
theorem get?_headers {client : Client} {ask : Ask} {headers : Headers}
    (given : client.withSubAccount (withType ask) = .ok headers) :
    headers.get? subAccountName = client.subAccount.map bytesOf ∧
      headers.get? "authorization" = none := by
  rw [get?_withSubAccount given, get?_withSubAccount given, get?_withType (by decide),
    get?_withType (by decide), if_pos (by decide), if_neg (by decide), Option.or_none]
  exact ⟨rfl, rfl⟩

end Client

namespace Gateway

/-- A sub-account is found by the gateway wherever its name can be read: a header that is no text gives
way to the query. -/
theorem requestedSubAccount_eq_of {h : Headers} {query : Query} {name : Option String}
    (header : h.get? subAccountName = name.map bytesOf)
    (pair : Form.get? query subAccountName = name) (notEmpty : name ≠ some "") :
    requestedSubAccount h query = name := by
  rw [requestedSubAccount, Headers.text?, header, pair]
  cases name with
  | none => rfl
  | some n =>
    have kept : given (some n) = some n := by
      have notEmpty : n ≠ "" := fun same => notEmpty (same ▸ rfl)
      simpa [given] using notEmpty
    rw [Option.map_some, Option.bind_some, kept]
    cases read : Headers.textOf? (bytesOf n) with
    | none => rfl
    | some text =>
      rw [Headers.eq_of_textOf?_bytesOf read, kept]
      rfl

end Gateway

/-- What a pair names before any decoding is its key as it was before encoding. -/
theorem Access.fst_of_namesSubAccount {pair : String × String}
    (names : namesSubAccount (Form.encodePair pair) = true) : pair.1 = subAccountName := by
  have unmarked : '=' ∉ Form.encodePart pair.1 := fun member => (Form.mem_encodePart member).2 rfl
  have cut : Text.cut '=' (Form.encodePair pair) =
      some (Form.encodePart pair.1, Form.encodePart pair.2) :=
    Text.cut_eq_some_iff.2 ⟨rfl, unmarked⟩
  rw [namesSubAccount, cut] at names
  dsimp only at names
  rw [Bool.and_eq_true, beq_iff_eq] at names
  have written : Form.encodePart pair.1 = subAccountName.toList := by
    rw [← names.1, String.toList_ofList]
  have read : Form.decodePart (encodeChars subAccountName.toList) = subAccountName := by decide
  rw [← Form.decodePart_encodePart pair.1, written, read]

/-- A client without a sub-account sends nothing that would name one. -/
theorem Client.subAccountRequested_eq_false {client : Client} (main : client.subAccount = none)
    (ask : Ask) {h : Headers} (header : h.get? subAccountName = none) :
    Access.subAccountRequested h (String.ofList (Form.extend [] (client.pairs ask))) = false := by
  have pairs : client.pairs ask = ask.query := by
    rw [Client.pairs, main]
    exact List.append_nil _
  rw [Access.subAccountRequested, Headers.isGiven, header, Option.any_none, Bool.false_or,
    String.toList_ofList, pairs]
  by_cases none : ask.query = []
  · rw [none]
    decide
  · rw [Form.splitOn_extend none, List.any_map, List.any_eq_false]
    intro pair listed names
    exact Ask.fst_ne_subAccountName listed (Access.fst_of_namesSubAccount names)

/-! ### The credential -/

namespace Access

/-- What verifies and bears no token is let through to all routes. -/
theorem exists_grant {p : Policy} {r : Request} {params : Signature.Params}
    (accepted : Signature.verify p.verifiers (demanded r) r = .ok params)
    (noToken : r.headers.get? "authorization" = none) (kind : RouteClass) :
    ∃ credential, p.grant kind r = .ok credential := by
  have signed : p.bySignature r = .ok (.signature params) :=
    bySignature_eq_ok_iff.2 ⟨params, accepted, rfl⟩
  cases kind with
  | reference => exact ⟨.anonymous, rfl⟩
  | write => exact ⟨_, signed⟩
  | read =>
    change ∃ credential, p.forReading r = .ok credential
    have nothing : offer r.headers = .nothing := by
      rw [offer, Headers.text?, noToken]
      rfl
    rw [Policy.forReading]
    split
    · exact ⟨.anonymous, rfl⟩
    · rw [nothing]
      dsimp only
      rw [if_pos (hasSignature_of_verify accepted)]
      exact ⟨_, signed⟩

end Access

namespace Signature

theorem sign_eq_of_coverable {signer : Signer} {created : Int} {extra : List String} {r signed : Request}
    (coverable : ∀ e ∈ extra, Coverable (Params.componentName e))
    (done : sign signer created extra r = (.ok (), signed)) :
    ∃ made, Seal.make signer created extra r = .ok made ∧
      signed = { r with headers := made.headers r.headers } := by
  obtain ⟨made, sealed, signs⟩ := exists_sign signer created coverable r
  rw [signs] at done
  cases done
  exact ⟨made, sealed, rfl⟩

end Signature

theorem Client.coverable_covered (client : Client) :
    ∀ e ∈ client.covered, Signature.Coverable (Signature.Params.componentName e) := by
  intro e listed
  have named : e = subAccountName := by
    unfold covered at listed
    split at listed
    · exact List.mem_singleton.1 listed
    · cases listed
  rw [named]
  exact ⟨by decide, by decide, by decide⟩

/-- No more is demanded of a client than what it signs. -/
theorem Client.covered_of_demanded {client : Client} {exchange : String} {ask : Ask} {h : Headers}
    (header : h.get? subAccountName = client.subAccount.map bytesOf) (created : Int) :
    ∀ name ∈ Access.demanded (client.sent exchange ask h),
      name ∈ (Signature.Params.new created client.covered).components := by
  intro name demanded
  unfold Access.demanded at demanded
  split at demanded
  · rename_i requested
    obtain rfl := List.mem_singleton.1 demanded
    have named : client.subAccount.isSome = true := by
      rw [Option.isSome_iff_ne_none]
      intro main
      rw [main] at header
      have none := client.subAccountRequested_eq_false main ask header
      exact absurd requested (by rw [sent, none]; exact Bool.false_ne_true)
    refine Signature.Params.covers_new_subAccount.2 ⟨subAccountName, ?_, by decide⟩
    rw [covered, if_pos named]
    exact List.mem_cons_self
  · cases demanded

/-! ### The place -/

namespace Gateway

variable {exchange : String} (word : Url.IsWord exchange.toList)
include word

/-- The path that a client asks at is the place of its route. -/
theorem ofPath?_exchangePath (route : Route) :
    Place.ofPath? (Client.exchangePath exchange route) = some (.exchange exchange route) := by
  have noSlash : ∀ l ∈ Client.segments exchange route, '/' ∉ l := by
    intro l listed slash
    have plain := Url.isWordChar_plain (Client.isWord_segments word route l listed '/' slash)
    exact plain.2.1 (by decide)
  rw [← String.ofList_toList (s := Client.exchangePath exchange route), Client.toList_exchangePath]
  exact (Place.ofPath?_intercalate_iff (List.cons_ne_nil _ _) noSlash).2 rfl

theorem exchangeId?_eq_self : exchangeId? exchange = some exchange := by
  have unescaped : 0x25 ∉ bytesOf exchange := by
    rw [bytesOf_eq_encodeChars, marks_percent.mem_encodeChars_iff]
    intro percent
    exact (Url.isWordChar_plain (word '%' percent)).2.1 (by decide)
  rw [exchangeId?, Percent.decode_eq_self unescaped]
  exact Utf8.decode?_encode exchange

end Gateway

theorem Client.Ask.allows_method (ask : Ask) (segment : String) :
    (Gateway.Place.exchange segment ask.route).allows ask.method = true := by
  cases ask <;> rfl

/-! ### The whole way -/

/-- What a gateway has to have so that it serves who signs with a key at an exchange. -/
structure Gateway.Serves (g : Gateway) (signer : Signer) (s : Settings) (e : Exchange) : Prop where
  checked : s.check = .ok ()
  configured : g.registry.Configured s
  known : e ∈ s.exchanges
  linked : ∃ backend, g.registry.backend e.id = .ok backend
  trusted : ∃ v ∈ g.policy.verifiers, ∀ m, v.accepts m (signer.sign m) = true

section

variable {client : Client} {signer : Signer} {g : Gateway} {s : Settings} {e : Exchange}
  {sub : Option Subaccount} {ask : Client.Ask} {headers : Headers} {created : Int}
  {made : Signature.Seal}

/-- Under its seal the request says what it said before. -/
theorem Client.get?_sealed (given : client.withSubAccount (withType ask) = .ok headers)
    (made : Signature.Seal) :
    (made.headers headers).get? subAccountName = client.subAccount.map bytesOf ∧
      (made.headers headers).get? "authorization" = none := by
  rw [Signature.Seal.get?_headers_of_ne (by decide) (by decide) (by decide),
    Signature.Seal.get?_headers_of_ne (by decide) (by decide) (by decide)]
  exact get?_headers given

/-- The trail of the one call that a sealed request leads to. -/
theorem Gateway.Serves.exists_trail (serves : g.Serves signer s e) (word : Url.IsWord e.id.toList)
    (notEmpty : client.subAccount ≠ some "") (chosen : e.Chosen client.subAccount sub)
    (valid : ask.Valid e) (given : client.withSubAccount (Client.withType ask) = .ok headers)
    (sealed : Signature.Seal.make signer created client.covered
      (client.sent e.id ask headers) = .ok made)
    (small : (ask.body?.getD []).length ≤ maxBody) :
    Nonempty (Trail g (client.sent e.id ask (made.headers headers))
      ⟨ask.operation e, ⟨e.id, if ask.route.kind = .reference then none else sub⟩⟩) := by
  obtain ⟨header, noToken⟩ := Client.get?_sealed given made
  obtain ⟨uniqueIds, uniqueNames⟩ := Settings.unique_of_check serves.checked
  obtain ⟨entry, found, known⟩ := serves.configured.exists_entry uniqueIds serves.known
  obtain ⟨backend, linked⟩ := serves.linked
  have accepted : Signature.verify g.policy.verifiers
      (Access.demanded (client.sent e.id ask (made.headers headers)))
      (client.sent e.id ask (made.headers headers)) =
        .ok (Signature.Params.new created client.covered) :=
    Signature.Seal.verify_headers client.coverable_covered sealed serves.trusted
      (Client.covered_of_demanded header created)
  obtain ⟨credential, granted⟩ := Access.exists_grant accepted noToken ask.route.kind
  have query : Form.decode (bytesOf (client.sent e.id ask (made.headers headers)).query) =
      client.pairs ask := Form.decode_extend _
  have requested : requestedSubAccount (client.sent e.id ask (made.headers headers)).headers
      (Form.decode (bytesOf (client.sent e.id ask (made.headers headers)).query)) =
        client.subAccount := by
    rw [query]
    exact requestedSubAccount_eq_of header (client.get?_pairs ask) notEmpty
  have acting : g.registry.account e.id client.subAccount = .ok ⟨e.id, sub⟩ :=
    Registry.account_of_chosen found known (uniqueNames e serves.known) chosen
  obtain ⟨p, planned, operation⟩ :=
    plan_of_valid found known valid query rfl (requested.symm ▸ acting)
  have account : g.registry.account e.id p.subaccount =
      .ok ⟨e.id, if ask.route.kind = .reference then none else sub⟩ := by
    rw [(of_plan_eq_ok planned).2, requested]
    split
    · exact Registry.account_of_chosen found known (uniqueNames e serves.known) .main
    · exact acting
  exact ⟨{
    segment := e.id, route := ask.route, exchange := e.id, credential, plan := p, backend
    place := ofPath?_exchangePath word ask.route
    small, granted
    allowed := ask.allows_method e.id
    read := exchangeId?_eq_self word
    planned, found := account, linked
    operation := operation.symm }⟩

end

namespace Client

variable {base : String} {token option : Option String} {signer : Signer} {client : Client}
  {g : Gateway} {s : Settings} {e : Exchange} {sub : Option Subaccount} {ask : Ask} {p : Prepared}

/-- With a key, nothing but the address and the name of the sub-account can keep a request from being
prepared. -/
theorem exists_prepare (noToken : client.token = none) (signs : client.signer = some signer)
    {exchange : String} (reached : ∃ target, client.addressOf exchange ask >>= targetOf = .ok target)
    {headers : Headers} (given : client.withSubAccount (withType ask) = .ok headers) (now : Int) :
    ∃ p, client.prepare now exchange ask = .ok p ∧ p.request.body = ask.body?.getD [] := by
  obtain ⟨target, reached⟩ := reached
  obtain ⟨url, address, found⟩ := Outcome.bind_eq_ok_iff.1 reached
  obtain ⟨made, _, sealed, fits, _, _⟩ :=
    Signature.Seal.exists_carried client.coverable_covered signer now
      { method := ask.method, path := Utf8.decodeLossy target.path,
        query := Utf8.decodeLossy (target.query.getD []), headers, body := ask.body?.getD [] }
  dsimp only at fits
  simp only [prepare, address, found, given, Outcome.ok_bind, authenticate,
    means_eq_signature noToken signs, Signature.sign, sealed, fits]
  exact ⟨_, rfl, rfl⟩

/-- Client and gateway agree. What is prepared for an exchange is carried out there, once and with
the arguments as they were given: on the account of the client's sub-account, or on the main account
if it has none or where reference data is asked for. -/
theorem calls_of_prepare (new : client = .new base token (some signer) option)
    (noToken : client.token = none) (origin : Url.IsOrigin base) (serves : g.Serves signer s e)
    (word : Url.IsWord e.id.toList) (chosen : e.Chosen client.subAccount sub) (valid : ask.Valid e)
    {now : Int} (prepared : client.prepare now e.id ask = .ok p)
    (small : p.request.body.length ≤ Gateway.maxBody) (later : Int) :
    (g.serve later p.request).calls =
      [⟨ask.operation e, ⟨e.id, if ask.route.kind = .reference then none else sub⟩⟩] := by
  subst new
  obtain ⟨headers, given, authenticated⟩ := of_prepare_eq_ok origin word prepared
  have signed := authenticate_eq_ok noToken rfl authenticated
  obtain ⟨made, sealed, shape⟩ :=
    Signature.sign_eq_of_coverable (coverable_covered _) signed
  rw [shape] at small ⊢
  have notEmpty := subAccount_new_ne_empty base token (some signer) option
  obtain ⟨trail⟩ := serves.exists_trail word notEmpty chosen valid given sealed small
  exact trail.calls_serve later

def deskClient : Client :=
  .new "http://127.0.0.1:6333/" none (some Signature.someKey.signer) (some "desk-a")

/-- A transfer with a name that has to be escaped, out of the sub-account that asks for it. -/
def deskTransfer : Transfer :=
  { symbol := some "50% & \"€\"", amount := "0.5", source := some "desk-a", target := some "" }

def clientGateway : Gateway :=
  ⟨⟨[], [Signature.knowing Signature.someKey.signer], false⟩, Gateway.deskRegistry.after []⟩

theorem serves_clientGateway (e : Exchange) (known : e ∈ Gateway.desk.exchanges) :
    clientGateway.Serves Signature.someKey.signer Gateway.desk e where
  checked := by decide
  configured := Gateway.configured_desk
  known := known
  linked := by
    obtain rfl := List.mem_singleton.1 known
    exact ⟨_, rfl⟩
  trusted := ⟨_, List.mem_cons_self, fun _ => beq_self_eq_true _⟩

theorem valid_deskTransfer : deskTransfer.Valid ⟨"okx", [⟨"1001", some "desk-a"⟩]⟩ where
  symbol := ⟨_, rfl, by decide⟩
  amount := by decide
  sided := ⟨some "desk-a", by decide, by decide⟩
  source := by
    intro name given
    obtain rfl : "desk-a" = name := Option.some.inj given
    exact ⟨_, List.mem_cons_self, .inr rfl⟩
  target := nofun

/-- A side that goes by its nickname arrives as an id, and an empty side as it is. -/
theorem calls_of_prepare_transfer :
    ∃ p, deskClient.prepare 7 "okx" (.transfer deskTransfer) = .ok p ∧
      (clientGateway.serve 9 p.request).calls =
        [⟨.accountTransfer { deskTransfer with source := some "1001" },
          ⟨"okx", some ⟨"1001", some "desk-a"⟩⟩⟩] := by
  have reached : ∃ target, deskClient.addressOf "okx" (.transfer deskTransfer) >>= targetOf =
      .ok target := by
    refine ⟨⟨some (bytesOf "http"), bytesOf "127.0.0.1:6333",
      bytesOf "/v1/exchanges/okx/account-transfer", some (bytesOf "sub-account=desk-a")⟩, ?_⟩
    decide +kernel
  have given : deskClient.withSubAccount (withType (.transfer deskTransfer)) =
      .ok ((withType (.transfer deskTransfer)).insert subAccountName (bytesOf "desk-a")) := by
    decide +kernel
  obtain ⟨p, prepared, body⟩ := exists_prepare (by decide) rfl reached given 7
  have small : p.request.body.length ≤ Gateway.maxBody := by
    rw [body]
    decide +kernel
  have origin : Url.IsOrigin "http://127.0.0.1:6333/" :=
    ⟨"127.0.0.1:6333".toList, 1, by decide, by decide, List.all_eq_true.1 (by decide)⟩
  have chosen : Exchange.Chosen ⟨"okx", [⟨"1001", some "desk-a"⟩]⟩ deskClient.subAccount
      (some ⟨"1001", some "desk-a"⟩) :=
    .named List.mem_cons_self (.inr rfl)
  have valid : Ask.Valid ⟨"okx", [⟨"1001", some "desk-a"⟩]⟩ (.transfer deskTransfer) :=
    valid_deskTransfer
  refine ⟨p, prepared, ?_⟩
  exact calls_of_prepare rfl rfl origin (serves_clientGateway _ List.mem_cons_self) (by decide)
    chosen valid prepared small 9

end Client

end Countersign
