import Countersign.Proofs.Configured
import Countersign.Proofs.Refusals
import Countersign.Proofs.Selector

/-! On which account a request is carried out that is about a sub-account. The policy asks whether any
byte of the header and any pair of the query names one; the plan takes the text of the header and the
last pair. What only the policy sees falls to the main account. -/
namespace Countersign.Gateway

open Signature (subAccountName)

/-- Only the policy sees this sub-account: the header gives no text, and the last pair that decodes to
the name, if there is one, has no value. -/
structure Muted (h : Headers) (query : String) : Prop where
  requested : Access.subAccountRequested h query = true
  noText : given (h.text? subAccountName) = none
  noValue : ∀ piece, Form.last? query subAccountName = some piece → Form.valueOf piece = ""

/-- The policy finds a sub-account where the plan finds none just if it is muted. -/
theorem muted_iff {h : Headers} {query : String} :
    Muted h query ↔ Access.subAccountRequested h query = true ∧
      requestedSubAccount h (Form.decode (bytesOf query)) = none := by
  rw [requestedSubAccount, Option.or_eq_none_iff]
  constructor
  · rintro ⟨requested, noText, noValue⟩
    refine ⟨requested, noText, ?_⟩
    rw [Option.eq_none_iff_forall_not_mem]
    intro name named
    obtain ⟨piece, last, value, notEmpty⟩ := given_get?_eq_some_iff.1 named
    exact notEmpty (value ▸ noValue piece last)
  · rintro ⟨requested, noText, noPair⟩
    refine ⟨requested, noText, fun piece last => ?_⟩
    by_contra value
    have named := given_get?_eq_some_iff.2 ⟨piece, last, rfl, value⟩
    rw [noPair] at named
    cases named

/-- What a call has to do with the exchanges of the settings. -/
structure Scoped (s : Settings) (segment : String) (r : Request) (call : Call) (e : Exchange) :
    Prop where
  known : e ∈ s.exchanges
  asked : exchangeId? segment = some e.id
  exchange : call.account.exchange = e.id
  subaccount : ¬ Muted r.headers r.query → ∃ sub ∈ e.subaccounts, call.account.subaccount = some sub
  main : Muted r.headers r.query → call.account.subaccount = none

theorem Trail.scoped {s : Settings} {g : Gateway} {r : Request} {call : Call} (trail : Trail g r call)
    (configured : g.registry.Configured s) (gated : trail.route.kind ≠ .reference)
    (requested : Access.subAccountRequested r.headers r.query = true) :
    ∃ e, Scoped s trail.segment r call e := by
  obtain ⟨exchange, entry, known, subaccount⟩ := Registry.account_eq_ok_iff.1 trail.found
  obtain ⟨member, id⟩ := configured.mem_of_get? known
  rw [(of_plan_eq_ok trail.planned).2, if_neg gated] at subaccount
  refine ⟨entry.exchange, member, by rw [id, trail.read], by rw [id, exchange], ?_, ?_⟩
  · intro heard
    obtain ⟨name, named⟩ := Option.ne_none_iff_exists'.1 fun none => heard (muted_iff.2 ⟨requested, none⟩)
    rw [named, Option.map_some] at subaccount
    obtain ⟨sub, acted, found⟩ := Option.map_eq_some_iff.1 subaccount.symm
    exact ⟨sub, (Exchange.of_subaccount?_eq_some found.symm).1, acted⟩
  · intro muted
    rw [(muted_iff.1 muted).2] at subaccount
    simpa using subaccount.symm

/-- A request about a sub-account is carried out on one that is configured for its exchange, or is
refused; but where the plan sees no sub-account, it is carried out on the main account. -/
theorem scoped_or_muted {s : Settings} {g : Gateway} (configured : g.registry.Configured s) (now : Int)
    {r : Request} {segment : String} {route : Route}
    (place : Place.ofPath? r.path = some (.exchange segment route))
    (gated : route.kind ≠ .reference)
    (requested : Access.subAccountRequested r.headers r.query = true) :
    (∀ call ∈ (g.serve now r).calls, ∃ e, Scoped s segment r call e) ∧
      ((g.serve now r).calls = [] → 400 ≤ (g.serve now r).response.status) := by
  constructor
  · intro call called
    obtain ⟨trail⟩ := trail_of_mem_calls called
    have same := trail.place
    rw [place, Option.some.injEq, Place.exchange.injEq] at same
    obtain ⟨rfl, rfl⟩ := same
    exact trail.scoped configured gated requested
  · intro none
    rw [(serve_exchange place now).1] at none
    rw [(serve_exchange place now).2]
    exact status_guarded none

theorem configured_desk : (deskRegistry.after []).Configured desk := by
  have link : (Registry.ofSettings desk).link? "okx" (fun _ _ => .ok .null) =
      some (deskRegistry.after []) :=
    rfl
  exact .linked .initial link

/-- A gateway that knows the token. -/
def readerGateway : Gateway := ⟨⟨[⟨"reader", "read-token"⟩], [], false⟩, deskRegistry.after []⟩

def readBalances (query : String) : Request := { withToken "GET" "balances" with query }

/-- A sub-account that both see is the one that is read. -/
theorem scoped_named :
    (readerGateway.serve 0 (readBalances "sub-account=&sub-account=desk-a")).calls = [deskBalances] ∧
      ∃ e, Scoped desk "okx" (readBalances "sub-account=&sub-account=desk-a") deskBalances e := by
  have calls : (readerGateway.serve 0 (readBalances "sub-account=&sub-account=desk-a")).calls =
      [deskBalances] := by
    decide +kernel
  have place : Place.ofPath? (readBalances "sub-account=&sub-account=desk-a").path =
      some (.exchange "okx" .balances) := by
    decide
  have configured : readerGateway.registry.Configured desk := configured_desk
  refine ⟨calls, (scoped_or_muted configured 0 place (by decide) (by decide)).1 _ ?_⟩
  rw [calls]
  exact List.mem_cons_self

/-- Two pairs, the last of them empty, and the main account is read. -/
theorem muted_on_main :
    Access.subAccountRequested (readBalances "sub-account=desk-a&sub-account=").headers
        "sub-account=desk-a&sub-account=" = true ∧
      (readerGateway.serve 0 (readBalances "sub-account=desk-a&sub-account=")).calls =
        [⟨.listBalances none, ⟨"okx", none⟩⟩] ∧
      (readerGateway.serve 0 (readBalances "sub-account=desk-a&sub-account=")).response.status =
        200 := by
  decide +kernel

end Countersign.Gateway
