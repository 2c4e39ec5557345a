import Countersign.Proofs.Delivery
import Countersign.Proofs.Precedence

/-! Tokens on their way from the settings of a gateway through the header of a client to the credential.
A header says a token only if it is one word of printable ASCII. -/
namespace Countersign

/-- Secrets come without blanks around them. -/
theorem Secret.trim_of_load {around : Surroundings} {reference secret : String}
    (loaded : load around reference = .ok secret) : Text.trim secret = secret := by
  simp only [load, Outcome.bind_eq_ok_iff, Outcome.pure_eq_ok_iff] at loaded
  obtain ⟨_, _, text, _, rfl⟩ := loaded
  exact Text.trim_trim text

namespace Access

/-- What can be said in a header as one word. -/
def Sayable (secret : String) : Prop := Headers.IsText secret ∧ ' ' ∉ secret.toList

instance (secret : String) : Decidable (Sayable secret) :=
  inferInstanceAs (Decidable (_ ∧ _))

section

variable {secret : String} (trimmed : Text.trim secret = secret) (nonempty : secret ≠ "")
include trimmed nonempty

theorem trim_bearer : Text.trim ("Bearer " ++ secret) = "Bearer " ++ secret := by
  have front : "Bearer ".toList = 'B' :: "earer ".toList := by decide
  rw [Text.trim_eq_self_iff, Text.dropEnds_eq_self_iff] at trimmed ⊢
  rw [String.toList_append, front]
  rintro x (first | last)
  · cases first
    decide
  · have some : secret.toList ≠ [] := by simpa using nonempty
    rw [List.getLast?_append_of_ne_nil _ some] at last
    exact trimmed x (.inr last)

variable {h : Headers} (header : h.get? "authorization" = some (bytesOf ("Bearer " ++ secret)))
include header

/-- Behind its scheme a token is the second of two words just if it can be said. -/
theorem twoWords_bearer_iff {scheme token : String} :
    TwoWords h scheme token ↔ Sayable secret ∧ scheme = "Bearer" ∧ token = secret := by
  have spelled : "Bearer ".toList = "Bearer".toList ++ [' '] := by decide
  have isText : Headers.IsText ("Bearer " ++ secret) ↔ Headers.IsText secret := by
    have front : Headers.IsText "Bearer " := by decide
    rw [Headers.IsText, String.toList_append, List.forall_mem_append]
    exact and_iff_right front
  have shown (value : String) : h.text? "authorization" = some value ↔
      Headers.IsText secret ∧ value = "Bearer " ++ secret := by
    rw [Headers.text?, header, Option.bind_some, Headers.textOf?_bytesOf_eq_some_iff, isText]
  constructor
  · rintro ⟨value, text, pair, words⟩
    obtain ⟨readable, rfl⟩ := (shown value).1 text
    rw [trim_bearer trimmed nonempty] at pair
    have chars : "Bearer".toList ++ ' ' :: secret.toList = scheme.toList ++ ' ' :: token.toList := by
      have lists := congrArg String.toList pair
      simpa [String.toList_append, spelled] using lists
    obtain ⟨sameScheme, sameToken⟩ :=
      fronts_eq_of_append_eq (by decide) (words scheme (by simp)).2 chars
    obtain rfl := String.toList_inj.1 sameScheme
    obtain rfl := String.toList_inj.1 sameToken
    exact ⟨⟨readable, (words secret (by simp)).2⟩, rfl, rfl⟩
  · rintro ⟨⟨readable, oneWord⟩, rfl, same⟩
    rw [same]
    refine ⟨"Bearer " ++ secret, (shown _).2 ⟨readable, rfl⟩, trim_bearer trimmed nonempty, ?_⟩
    have scheme : "Bearer" ≠ "" ∧ ' ' ∉ "Bearer".toList := by decide
    simpa [scheme] using ⟨nonempty, oneWord⟩

theorem offer_bearer : offer h = if Sayable secret then .bearer secret else .nothing := by
  split
  · rename_i sayable
    have words := (twoWords_bearer_iff trimmed nonempty header).2 ⟨sayable, rfl, rfl⟩
    rw [offer_of_twoWords words, if_pos rfl]
  · rename_i mute
    rw [offer_eq_nothing_iff]
    intro scheme token words
    exact mute ((twoWords_bearer_iff trimmed nonempty header).1 words).1

end

/-- Where no signing header says anything, the token alone counts, if the header can say it. -/
theorem Policy.grant_bearer {p : Policy} (guarded : p.publicRead = false) {secret : String}
    (trimmed : Text.trim secret = secret) (nonempty : secret ≠ "") {r : Request}
    (header : r.headers.get? "authorization" = some (bytesOf ("Bearer " ++ secret)))
    (unsigned : hasSignature r.headers = false) :
    p.grant .read r = if Sayable secret then p.byToken secret else .error .missingCredential := by
  change p.forReading r = _
  rw [Policy.forReading, guarded, offer_bearer trimmed nonempty header, unsigned]
  by_cases sayable : Sayable secret
  · rw [if_pos sayable, if_pos sayable]
    rfl
  · rw [if_neg sayable, if_neg sayable]
    rfl

end Access

namespace Settings

variable {ε : Type} {s : Settings} {resolver : Resolver ε}

/-- The first of the configured tokens whose reference stands for a secret. -/
def tokenFor? (s : Settings) (resolver : Resolver ε) (secret : String) : Option TokenEntry :=
  s.tokens.find? fun entry => (resolver.load entry.token).toOption = some secret

theorem find?_of_forall₂ {entries : List TokenEntry} {tokens : List Access.Token}
    (loaded : List.Forall₂ (fun entry token => tokenOf resolver entry = .ok token) entries tokens)
    (secret : String) : (tokens.find? (·.secret == secret)).map Access.Token.id =
      (entries.find? fun entry => (resolver.load entry.token).toOption = some secret).map
        TokenEntry.id := by
  induction loaded with
  | nil => rfl
  | @cons entry token _ _ first _ ih =>
    obtain ⟨resolved, _, name⟩ := tokenOf_eq_ok_iff.1 first
    rw [List.find?_cons, List.find?_cons, resolved]
    by_cases same : token.secret = secret
    · simp [same, name, Outcome.toOption_eq_some_iff]
    · have differ := beq_eq_false_iff_ne.2 same
      simpa [same, differ, Outcome.toOption_eq_some_iff] using ih

/-- A secret that is configured is let through under the name of the first entry for it. -/
theorem byToken_of_policy {policy : Access.Policy} (built : s.policy resolver = .ok policy)
    {entry : TokenEntry} (listed : entry ∈ s.tokens) {secret : String}
    (resolved : resolver.load entry.token = .ok secret) :
    secret ≠ "" ∧ ∃ first, s.tokenFor? resolver secret = some first ∧
      policy.byToken secret = .ok (.bearer first.id) := by
  obtain ⟨_, loaded, _⟩ := policy_eq_ok_iff.1 built
  obtain ⟨first, found⟩ : ∃ first, s.tokenFor? resolver secret = some first := by
    rw [← Option.ne_none_iff_exists', tokenFor?, ne_eq, List.find?_eq_none]
    exact fun none => none entry listed (decide_eq_true (Outcome.toOption_eq_some_iff.2 resolved))
  have names := find?_of_forall₂ loaded secret
  rw [← tokenFor?, found, Option.map_some, Option.map_eq_some_iff] at names
  obtain ⟨token, here, name⟩ := names
  obtain ⟨source, _, made⟩ := Outcome.exists_input loaded (List.mem_of_find?_eq_some here)
  have same : token.secret = secret := by simpa using List.find?_some here
  refine ⟨same ▸ (tokenOf_eq_ok_iff.1 made).2.1, first, found, ?_⟩
  rw [Access.Policy.byToken, here, ← name]

end Settings

namespace Client

theorem Ask.method_of_read {ask : Ask} (reads : ask.route.kind = .read) : ask.method = "GET" := by
  cases ask
  all_goals first | rfl | cases reads

/-- What a client with a token sends to read: its token, and nothing that looks like a signature. -/
theorem headers_of_prepare {client : Client} {secret : String} (held : client.token = some secret)
    {ask : Ask} (reads : ask.route.kind = .read) {now : Int} {exchange : String} {p : Prepared}
    (prepared : client.prepare now exchange ask = .ok p) :
    p.request.headers.get? "authorization" = some (bytesOf ("Bearer " ++ secret)) ∧
      Access.hasSignature p.request.headers = false := by
  have means : client.means ask = .ok (.token secret) := by
    rw [Client.means, reads, held]
    cases client.signer with
    | none => rfl
    | some signer => simp [Ask.method_of_read reads]
  simp only [prepare, authenticate, means, Outcome.bind_eq_ok_iff, Outcome.pure_eq_ok_iff] at prepared
  obtain ⟨_, _, _, _, headers, given, request, ⟨_, chosen, authenticated⟩, rfl⟩ := prepared
  cases chosen
  dsimp only at authenticated
  split at authenticated
  · rename_i value valued
    cases authenticated
    obtain ⟨_, rfl⟩ := Headers.valueOf?_eq_some_iff.1 valued
    dsimp only
    refine ⟨?_, ?_⟩
    · rw [Headers.get?_insert, if_pos rfl]
    · have unsealed : headers.get? Signature.contentDigestName = none := by
        rw [get?_withSubAccount given, get?_withType (by decide), if_neg (by decide), Option.or_none]
      refine Access.hasSignature_eq_false_iff.2 ⟨_, List.mem_cons_self, ?_⟩
      rw [Headers.get?_insert, if_neg (by decide), unsealed]
      exact nofun
  · cases authenticated

/-- A client that holds a token of the gateway reads with it, under the name of the first entry for this
token. A token that no header can say as one word is as good as none. -/
theorem grant_of_held {ε : Type} {s : Settings} {resolver : Settings.Resolver ε}
    {policy : Access.Policy} (built : s.policy resolver = .ok policy)
    (guarded : s.publicRead = false) {entry : TokenEntry} (listed : entry ∈ s.tokens)
    {secret : String} (resolved : resolver.load entry.token = .ok secret)
    (trimmed : Text.trim secret = secret) {client : Client} (held : client.token = some secret)
    {ask : Ask} (reads : ask.route.kind = .read) {now : Int} {exchange : String} {p : Prepared}
    (prepared : client.prepare now exchange ask = .ok p) :
    ∃ first, s.tokenFor? resolver secret = some first ∧
      policy.grant .read p.request =
        if Access.Sayable secret then .ok (.bearer first.id) else .error .missingCredential := by
  obtain ⟨nonempty, first, found, known⟩ := Settings.byToken_of_policy built listed resolved
  obtain ⟨header, unsigned⟩ := headers_of_prepare held reads prepared
  have closed : policy.publicRead = false := (Settings.policy_eq_ok_iff.1 built).1.trans guarded
  refine ⟨first, found, ?_⟩
  rw [Access.Policy.grant_bearer closed trimmed nonempty header unsigned, known]

/-- Two entries for one secret. -/
def readersOf (secret : String) : Settings where
  tokens := [⟨"first", "raw:" ++ secret⟩, ⟨"second", "raw: " ++ secret ++ " "⟩]

theorem policy_readersOf {secret : String}
    (loaded : (readersOf secret).tokensOf (.standard .bare) =
      .ok [⟨"first", secret⟩, ⟨"second", secret⟩]) :
    (readersOf secret).policy (.standard .bare) =
      .ok ⟨[⟨"first", secret⟩, ⟨"second", secret⟩], [], false⟩ := by
  rw [Settings.policy, loaded]
  rfl

def holding (secret : String) : Client := .new "http://127.0.0.1:6333" (some secret) none none

/-- What a client that holds a token prepares for the balances of an exchange. -/
def balancesWith (secret : String) : Prepared where
  address := "http://127.0.0.1:6333/v1/exchanges/okx/balances"
  target := ⟨some (bytesOf "http"), bytesOf "127.0.0.1:6333", bytesOf "/v1/exchanges/okx/balances", none⟩
  request :=
    { method := "GET"
      path := "/v1/exchanges/okx/balances"
      query := ""
      headers := Headers.empty.insert "authorization" (bytesOf ("Bearer " ++ secret))
      body := [] }

/-- A tab inside does no harm, and of two entries the first gives its name. -/
theorem grant_of_held_tab :
    ∃ policy, (readersOf "a\tb").policy (.standard .bare) = .ok policy ∧
      (holding "a\tb").prepare 0 "okx" (.balances none) = .ok (balancesWith "a\tb") ∧
      policy.grant .read (balancesWith "a\tb").request = .ok (.bearer "first") := by
  have built := policy_readersOf (show (readersOf "a\tb").tokensOf (.standard .bare) =
    .ok [⟨"first", "a\tb"⟩, ⟨"second", "a\tb"⟩] by decide +kernel)
  have resolved : Secret.load .bare ("raw:" ++ "a\tb") = .ok "a\tb" := by decide +kernel
  have held : (holding "a\tb").token = some "a\tb" := by decide
  have reads : (Ask.balances none).route.kind = .read := rfl
  have prepared : (holding "a\tb").prepare 0 "okx" (.balances none) =
      .ok (balancesWith "a\tb") := by decide +kernel
  obtain ⟨first, found, granted⟩ := grant_of_held built rfl List.mem_cons_self resolved
    (Secret.trim_of_load resolved) held reads prepared
  have named : (readersOf "a\tb").tokenFor? (.standard .bare) "a\tb" =
      some ⟨"first", "raw:" ++ "a\tb"⟩ := by decide +kernel
  rw [named] at found
  cases found
  refine ⟨_, built, prepared, ?_⟩
  rw [granted, if_pos (by decide)]

/-- With a blank inside, a token that both sides have opens nothing. -/
theorem held_not_granted :
    ∃ policy, (readersOf "two words").policy (.standard .bare) = .ok policy ∧
      Secret.load .bare "raw:two words" = .ok "two words" ∧
      (holding "two words").token = some "two words" ∧
      (holding "two words").prepare 0 "okx" (.balances none) = .ok (balancesWith "two words") ∧
      policy.grant .read (balancesWith "two words").request = .error .missingCredential :=
  ⟨_, policy_readersOf (by decide +kernel), by decide +kernel, by decide, by decide +kernel,
    by decide +kernel⟩

end Client

end Countersign
