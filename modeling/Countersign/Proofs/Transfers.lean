import Countersign.Proofs.Arguments
import Countersign.Proofs.Forgery
import Countersign.Proofs.Numeral
import Countersign.Proofs.Scope

/-! Which transfers reach an exchange: those that pass every check, between sub-accounts of that very
exchange, for the account of the request. All others are refused. -/
namespace Countersign

/-- Of two exchanges with the same id the later one counts. -/
def Settings.exchange? (s : Settings) (id : String) : Option Exchange :=
  s.exchanges.reverse.find? (·.id == id)

namespace Exchange

/-- A side as it is asked and as it reaches the exchange: nothing and the empty name stay, any other name
becomes the id of a sub-account that goes by it. -/
inductive SideOf (e : Exchange) : Option String → Option String → Prop
  | absent : SideOf e none none
  | empty : SideOf e (some "") (some "")
  | named {name : String} {sub : Subaccount} (notEmpty : name ≠ "") (listed : sub ∈ e.subaccounts)
      (goes : sub.GoesBy name) : SideOf e (some name) (some sub.id)

/-- Whom a name stands for: without one it is the main account. -/
inductive Acting (e : Exchange) : Option String → Option Subaccount → Prop
  | main : Acting e none none
  | named {name : String} {sub : Subaccount} (found : e.subaccount? name = some sub) :
      Acting e (some name) (some sub)

theorem acting_iff {e : Exchange} {name : Option String} {sub : Option Subaccount} :
    e.Acting name sub ↔ name.map e.subaccount? = sub.map some := by
  constructor
  · rintro (_ | found)
    · rfl
    · rw [Option.map_some, Option.map_some, found]
  · intro same
    cases name with
    | none =>
      cases sub with
      | none => exact .main
      | some sub => cases same
    | some name =>
      cases sub with
      | none => cases same
      | some sub => exact .named (Option.some.inj same)

end Exchange

namespace Gateway

theorem given_eq_some_iff {value : Option String} {name : String} :
    given value = some name ↔ value = some name ∧ name ≠ "" := by
  rw [given, Option.filter_eq_some_iff]
  simp

end Gateway

namespace Exchange

variable {e : Exchange} {name : Option String}

theorem sideOf_sideId (has : e.HasSide name) : e.SideOf name (e.sideId name) := by
  rw [sideId]
  cases text : Gateway.given name with
  | none =>
    cases name with
    | none => exact .absent
    | some n =>
      have empty : n = "" := by
        by_contra notEmpty
        rw [Gateway.given_eq_some_iff.2 ⟨rfl, notEmpty⟩] at text
        cases text
      rw [empty]
      exact .empty
  | some n =>
    obtain ⟨rfl, notEmpty⟩ := Gateway.given_eq_some_iff.1 text
    obtain ⟨sub, listed, goes⟩ := has n text
    obtain ⟨other, found⟩ := exists_subaccount? listed goes
    obtain ⟨otherListed, otherGoes⟩ := of_subaccount?_eq_some found
    dsimp only
    rw [found]
    exact .named notEmpty otherListed otherGoes

theorem hasSide_iff : e.HasSide name ↔ ∃ side, e.SideOf name side := by
  constructor
  · exact fun has => ⟨_, sideOf_sideId has⟩
  · rintro ⟨side, shape⟩ given here
    obtain ⟨rfl, notEmpty⟩ := Gateway.given_eq_some_iff.1 here
    cases shape with
    | empty => exact absurd rfl notEmpty
    | named _ listed goes => exact ⟨_, listed, goes⟩

end Exchange

namespace Transfer

/-- A transfer that may be carried out at an exchange. -/
structure Sound (e : Exchange) (t : Transfer) : Prop where
  symbol : ∃ symbol, t.symbol = some symbol ∧ Text.allBlank symbol = false
  amount : Amount.Positive t.amount
  sided : ∃ side ∈ [t.source, t.target, t.sourceType, t.targetType],
    ∃ name, side = some name ∧ name ≠ ""
  source : ∃ side, e.SideOf t.source side
  target : ∃ side, e.SideOf t.target side

/-- A transfer as it is asked and as it reaches the exchange. -/
structure Reaches (e : Exchange) (asked t : Transfer) : Prop where
  symbol : t.symbol = asked.symbol
  amount : t.amount = asked.amount
  source : e.SideOf asked.source t.source
  target : e.SideOf asked.target t.target
  sourceType : t.sourceType = asked.sourceType
  targetType : t.targetType = asked.targetType

theorem valid_iff_sound {e : Exchange} {t : Transfer} : t.Valid e ↔ t.Sound e := by
  have named (side : Option String) : Gateway.given side ≠ none ↔
      ∃ name, side = some name ∧ name ≠ "" := by
    rw [Option.ne_none_iff_exists']
    exact exists_congr fun _ => Gateway.given_eq_some_iff
  constructor
  · rintro ⟨symbol, amount, ⟨side, listed, given⟩, source, target⟩
    exact ⟨symbol, Amount.isZero_eq_ok_false_iff.1 amount, ⟨side, listed, (named side).1 given⟩,
      Exchange.hasSide_iff.1 source, Exchange.hasSide_iff.1 target⟩
  · rintro ⟨symbol, amount, ⟨side, listed, given⟩, source, target⟩
    exact ⟨symbol, Amount.isZero_eq_ok_false_iff.2 amount, ⟨side, listed, (named side).2 given⟩,
      Exchange.hasSide_iff.2 source, Exchange.hasSide_iff.2 target⟩

/-- Sides go by their ids. -/
def resolved (e : Exchange) (t : Transfer) : Transfer :=
  { t with source := e.sideId t.source, target := e.sideId t.target }

theorem Sound.reaches {e : Exchange} {t : Transfer} (sound : t.Sound e) :
    t.Reaches e (t.resolved e) where
  symbol := rfl
  amount := rfl
  source := Exchange.sideOf_sideId (Exchange.hasSide_iff.2 sound.source)
  target := Exchange.sideOf_sideId (Exchange.hasSide_iff.2 sound.target)
  sourceType := rfl
  targetType := rfl

end Transfer

namespace Gateway

/-- A request that asks an exchange of the settings for a transfer that may be carried out there. -/
structure Fit (s : Settings) (segment : String) (r : Request) (e : Exchange)
    (sub : Option Subaccount) (asked : Transfer) : Prop where
  exchange : ∃ id, exchangeId? segment = some id ∧ s.exchange? id = some e
  acting : e.Acting (requestedSubAccount r.headers (Form.decode (bytesOf r.query))) sub
  body : Transfer.ofBytes r.body = .ok asked
  sound : asked.Sound e

section

variable {β : Type} {registry : Registry β} {s : Settings} (configured : registry.Configured s)
  {segment id : String} (read : exchangeId? segment = some id) {r : Request}
include configured

theorem exchange?_eq_some_iff {e : Exchange} : s.exchange? id = some e ↔
    e.id = id ∧ ∃ entry, registry.get? id = some entry ∧ entry.exchange = e := by
  rw [Settings.exchange?, ← configured.exchange_get?, Option.map_eq_some_iff]
  constructor
  · rintro ⟨entry, found, rfl⟩
    exact ⟨(configured.mem_of_get? found).2, entry, found, rfl⟩
  · exact And.right

include read

/-- A transfer is planned just if it is fit, and then for the account of the request. -/
theorem plan_transfer_eq_ok {p : Plan} (planned : plan registry id .transfer r = .ok p) :
    ∃ e sub asked, Fit s segment r e sub asked ∧
      p.operation = .accountTransfer (asked.resolved e) ∧
        registry.account id p.subaccount = .ok ⟨e.id, sub⟩ := by
  simp only [plan, Outcome.bind_eq_ok_iff, Outcome.discard_eq_ok_iff, Outcome.pure_eq_ok_iff,
    decodeBody, Outcome.mapError_eq_ok_iff] at planned
  obtain ⟨_, ⟨account, looked⟩, asked, body, t, checked, rfl⟩ := planned
  obtain ⟨here, entry, found, acting⟩ := Registry.account_eq_ok_iff.1 looked
  obtain ⟨_, rfl⟩ := configured.mem_of_get? found
  obtain ⟨valid, rfl⟩ := (checkTransfer_eq_ok_iff found rfl).1 checked
  refine ⟨entry.exchange, account.subaccount, asked, ⟨⟨_, read, ?_⟩, ?_, body, ?_⟩, rfl, ?_⟩
  · exact (exchange?_eq_some_iff configured).2 ⟨rfl, entry, found, rfl⟩
  · exact Exchange.acting_iff.2 acting
  · exact Transfer.valid_iff_sound.1 valid
  · rw [looked, ← here]

theorem exists_plan_transfer {e : Exchange} {sub : Option Subaccount} {asked : Transfer}
    (fit : Fit s segment r e sub asked) :
    e.id = id ∧ ∃ p, plan registry id .transfer r = .ok p ∧
      p.operation = .accountTransfer (asked.resolved e) ∧
        registry.account id p.subaccount = .ok ⟨e.id, sub⟩ := by
  obtain ⟨other, same, known⟩ := fit.exchange
  rw [read] at same
  cases same
  obtain ⟨rfl, entry, found, rfl⟩ := (exchange?_eq_some_iff configured).1 known
  have acting : registry.account entry.exchange.id
      (requestedSubAccount r.headers (Form.decode (bytesOf r.query))) =
        .ok ⟨entry.exchange.id, sub⟩ :=
    Registry.account_eq_ok_iff.2 ⟨rfl, entry, found, Exchange.acting_iff.1 fit.acting⟩
  have checked : checkTransfer registry entry.exchange.id asked = .ok (asked.resolved _) :=
    (checkTransfer_eq_ok_iff found rfl).2 ⟨Transfer.valid_iff_sound.2 fit.sound, rfl⟩
  have planned := plan_transfer_eq rfl acting fit.body
  rw [checked] at planned
  exact ⟨rfl, _, planned, rfl, acting⟩

end

/-- A posted transfer that passed authentication; what is too large never comes so far. -/
structure Submitted (g : Gateway) (segment : String) (r : Request) : Prop where
  place : Place.ofPath? r.path = some (.exchange segment .transfer)
  posted : r.method = "POST"
  small : r.body.length ≤ maxBody
  granted : ∃ credential, g.policy.grant .write r = .ok credential

variable {g : Gateway} {s : Settings} {r : Request} {segment : String}

theorem Submitted.served (submitted : Submitted g segment r) (now : Int) :
    (g.serve now r).calls = (g.carryOut segment .transfer r).calls ∧
      (g.serve now r).response.status = (g.carryOut segment .transfer r).response.status := by
  obtain ⟨place, posted, small, credential, granted⟩ := submitted
  have allowed : (Place.exchange segment .transfer).allows r.method = true := by
    rw [posted]
    rfl
  exact serve_of_granted place now small granted allowed

/-- Behind a known account only a backend can be missing. -/
theorem run_of_unlinked {exchange : String} {p : Plan} {account : Account}
    (acting : g.registry.account exchange p.subaccount = .ok account)
    (unlinked : ∀ backend, g.registry.backend exchange ≠ .ok backend) :
    (g.run exchange p).calls = [] ∧ (g.run exchange p).response.status = 501 := by
  obtain ⟨_, entry, found, _⟩ := Registry.account_eq_ok_iff.1 acting
  have registered := Registry.registered_eq_ok_iff.2 found
  cases linked : entry.backend with
  | some backend =>
    refine absurd ?_ (unlinked backend)
    rw [Registry.backend, registered, Outcome.ok_bind, linked]
    rfl
  | none =>
    have missing : g.registry.backend exchange =
        .error ⟨501, s!"exchange {exchange} has no backend linked"⟩ := by
      rw [Registry.backend, registered, Outcome.ok_bind, linked]
      rfl
    rw [run, acting, missing]
    exact ⟨rfl, rfl⟩

/-- Which transfers reach an exchange, and what is answered to the others. -/
structure OnlySound (g : Gateway) (s : Settings) (r : Request) (served : Served) : Prop where
  called : ∀ t account, ⟨.accountTransfer t, account⟩ ∈ served.calls →
    ∃ segment e sub asked, Place.ofPath? r.path = some (.exchange segment .transfer) ∧
      Fit s segment r e sub asked ∧ asked.Reaches e t ∧ account = ⟨e.id, sub⟩
  refused : ∀ segment, Submitted g segment r → (∀ e sub asked, ¬ Fit s segment r e sub asked) →
    served.calls = [] ∧ (served.response.status = 400 ∨ served.response.status = 404)
  unlinked : ∀ segment e sub asked, Submitted g segment r → Fit s segment r e sub asked →
    (∀ backend, g.registry.backend e.id ≠ .ok backend) →
      served.calls = [] ∧ served.response.status = 501
  linked : ∀ segment e sub asked backend, Submitted g segment r → Fit s segment r e sub asked →
    g.registry.backend e.id = .ok backend →
      ∃ t, asked.Reaches e t ∧ served.calls = [⟨.accountTransfer t, ⟨e.id, sub⟩⟩]

/-- What is not fit is refused as the caller's fault. -/
theorem carryOut_of_unfit (configured : g.registry.Configured s)
    (unfit : ∀ e sub asked, ¬ Fit s segment r e sub asked) :
    (g.carryOut segment .transfer r).calls = [] ∧
      ((g.carryOut segment .transfer r).response.status = 400 ∨
        (g.carryOut segment .transfer r).response.status = 404) := by
  rw [carryOut]
  cases read : exchangeId? segment with
  | none => exact ⟨rfl, .inl rfl⟩
  | some id =>
    dsimp only
    cases planned : plan g.registry id .transfer r with
    | error refusal => exact ⟨rfl, plan_fails _ _ _ _ refusal planned⟩
    | ok p =>
      obtain ⟨e, sub, asked, fit, _⟩ := plan_transfer_eq_ok configured read planned
      exact absurd fit (unfit e sub asked)

/-- What is fit comes as far as to the backend. -/
theorem carryOut_of_fit (configured : g.registry.Configured s) {e : Exchange}
    {sub : Option Subaccount} {asked : Transfer} (fit : Fit s segment r e sub asked) :
    ∃ p, g.carryOut segment .transfer r = g.run e.id p ∧
      p.operation = .accountTransfer (asked.resolved e) ∧
        g.registry.account e.id p.subaccount = .ok ⟨e.id, sub⟩ := by
  obtain ⟨id, read, _⟩ := fit.exchange
  obtain ⟨rfl, p, planned, operation, acting⟩ := exists_plan_transfer configured read fit
  refine ⟨p, ?_, operation, acting⟩
  rw [carryOut, read]
  dsimp only
  rw [planned]

/-- Only a transfer that passes every check reaches an exchange. -/
theorem only_sound (configured : g.registry.Configured s) (now : Int) (r : Request) :
    OnlySound g s r (g.serve now r) where
  called t account called := by
    obtain ⟨trail⟩ := trail_of_mem_calls called
    have route : trail.route = .transfer := by
      rw [← (of_plan_eq_ok trail.planned).1, ← trail.operation]
      rfl
    have place := trail.place
    have planned := trail.planned
    rw [route] at place planned
    obtain ⟨e, sub, asked, fit, operation, acting⟩ :=
      plan_transfer_eq_ok configured trail.read planned
    obtain rfl : t = asked.resolved e :=
      Operation.accountTransfer.inj (trail.operation.trans operation)
    have found := trail.found
    rw [acting] at found
    cases found
    exact ⟨trail.segment, e, sub, asked, place, fit, fit.sound.reaches, rfl⟩
  refused segment submitted unfit := by
    rw [(submitted.served now).1, (submitted.served now).2]
    exact carryOut_of_unfit configured unfit
  unlinked segment e sub asked submitted fit unlinked := by
    obtain ⟨p, carried, _, acting⟩ := carryOut_of_fit configured fit
    rw [(submitted.served now).1, (submitted.served now).2, carried]
    exact run_of_unlinked acting unlinked
  linked segment e sub asked backend submitted fit linked := by
    obtain ⟨p, carried, operation, acting⟩ := carryOut_of_fit configured fit
    refine ⟨asked.resolved e, fit.sound.reaches, ?_⟩
    rw [(submitted.served now).1, carried, calls_run, acting, linked, ← operation]

/-- A transfer to a nickname reaches the exchange with the id in its place. -/
theorem only_sound_nickname :
    (Signing.transferGateway.serve 0 Signing.transferSent).calls = [Signing.transferCall] ∧
      OnlySound Signing.transferGateway desk Signing.transferSent
        (Signing.transferGateway.serve 0 Signing.transferSent) := by
  have configured : Signing.transferGateway.registry.Configured desk := configured_desk
  exact ⟨by decide +kernel, only_sound configured 0 Signing.transferSent⟩

end Gateway

end Countersign
