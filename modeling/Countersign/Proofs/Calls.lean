import Countersign.Gateway.Serve
import Countersign.Proofs.Outcome

/-! How a request comes to a call: everything that was found and decided on its way. -/
namespace Countersign

namespace Operation

/-- The route that asks for an operation. -/
def route : Operation → Gateway.Route
  | listAssets => .assets
  | listAccountTypes => .accountTypes
  | listBalances _ => .balances
  | getDepositAddress _ _ => .depositAddress
  | listSubaccounts => .subaccounts
  | listWithdrawalHistory _ _ => .withdrawalHistory
  | accountTransfer _ => .transfer
  | createWithdrawal _ => .withdrawal

/-- Whether the operation shows what an account holds or did. -/
def isAccountRead : Operation → Bool
  | listBalances _ => true
  | getDepositAddress _ _ => true
  | listSubaccounts => true
  | listWithdrawalHistory _ _ => true
  | _ => false

theorem isWrite_iff (operation : Operation) :
    operation.isWrite = true ↔ operation.route.kind = .write := by
  cases operation <;> simp [isWrite, route, Gateway.Route.kind]

theorem isAccountRead_iff (operation : Operation) :
    operation.isAccountRead = true ↔ operation.route.kind = .read := by
  cases operation <;> simp [isAccountRead, route, Gateway.Route.kind]

end Operation

namespace Gateway

theorem given_eq_of_getD_eq {a b : Option String} (same : a.getD "" = b.getD "") :
    given a = given b := by
  have shape (o : Option String) : given o = if o.getD "" = "" then none else some (o.getD "") := by
    cases o with
    | none => rfl
    | some s =>
      by_cases empty : s = ""
      · simp [given, empty]
      · simp [given, empty, Option.filter]
  rw [shape a, shape b, same]

/-- What is not given names nothing. -/
theorem given_text?_eq_none {h : Headers} {name : String} (absent : h.isGiven name = false) :
    given (h.text? name) = none := by
  rw [Headers.isGiven] at absent
  rw [Headers.text?]
  cases value : h.get? name with
  | none => rfl
  | some bytes =>
    rw [value, Option.any_some, Bool.not_eq_false', List.isEmpty_iff] at absent
    rw [absent]
    decide

/-- A plan is for the operation of its route, and for the sub-account that was asked for unless the
route is about reference data. -/
theorem of_plan_eq_ok {β : Type} {registry : Registry β} {exchange : String} {route : Route}
    {r : Request} {p : Plan} (planned : plan registry exchange route r = .ok p) :
    p.operation.route = route ∧
      p.subaccount =
        if route.kind = .reference then none
        else requestedSubAccount r.headers (Form.decode (bytesOf r.query)) := by
  cases route with
  | assets => cases planned; exact ⟨rfl, rfl⟩
  | accountTypes => cases planned; exact ⟨rfl, rfl⟩
  | balances => cases planned; exact ⟨rfl, rfl⟩
  | subaccounts => cases planned; exact ⟨rfl, rfl⟩
  | depositAddress =>
    simp only [plan, Outcome.bind_eq_ok_iff, Outcome.pure_eq_ok_iff] at planned
    obtain ⟨_, _, symbol, _, network, _, rfl⟩ := planned
    exact ⟨rfl, rfl⟩
  | withdrawalHistory =>
    simp only [plan, Outcome.bind_eq_ok_iff, Outcome.pure_eq_ok_iff] at planned
    obtain ⟨_, _, limit, _, rfl⟩ := planned
    exact ⟨rfl, rfl⟩
  | transfer =>
    simp only [plan, Outcome.bind_eq_ok_iff, Outcome.pure_eq_ok_iff] at planned
    obtain ⟨_, _, asked, _, t, _, rfl⟩ := planned
    exact ⟨rfl, rfl⟩
  | withdrawal =>
    simp only [plan, Outcome.bind_eq_ok_iff, Outcome.pure_eq_ok_iff] at planned
    obtain ⟨_, _, asked, _, w, _, rfl⟩ := planned
    exact ⟨rfl, rfl⟩

/-- What was found and decided on the way to a call. -/
structure Trail (g : Gateway) (r : Request) (call : Call) where
  segment : String
  route : Route
  exchange : String
  credential : Access.Credential
  plan : Plan
  backend : Backend
  place : Place.ofPath? r.path = some (.exchange segment route)
  small : r.body.length ≤ maxBody
  granted : g.policy.grant route.kind r = .ok credential
  allowed : (Place.exchange segment route).allows r.method = true
  read : exchangeId? segment = some exchange
  planned : Gateway.plan g.registry exchange route r = .ok plan
  found : g.registry.account exchange plan.subaccount = .ok call.account
  linked : g.registry.backend exchange = .ok backend
  operation : call.operation = plan.operation

section

variable {g : Gateway} {r : Request}

theorem calls_run {exchange : String} {p : Plan} :
    (g.run exchange p).calls =
      match g.registry.account exchange p.subaccount, g.registry.backend exchange with
      | .ok account, .ok _ => [⟨p.operation, account⟩]
      | _, _ => [] := by
  unfold run
  cases g.registry.account exchange p.subaccount with
  | error refusal => rfl
  | ok account =>
    cases g.registry.backend exchange with
    | error refusal => rfl
    | ok backend =>
      simp only [Outcome.ok_bind, Outcome.pure_eq_ok]
      cases backend p.operation account <;> rfl

theorem mem_calls_run {exchange : String} {p : Plan} {call : Call}
    (member : call ∈ (g.run exchange p).calls) :
    call.operation = p.operation ∧ g.registry.account exchange p.subaccount = .ok call.account ∧
      ∃ backend, g.registry.backend exchange = .ok backend := by
  rw [calls_run] at member
  split at member
  · rename_i account backend found linked
    rw [List.mem_singleton] at member
    subst member
    exact ⟨rfl, found, backend, linked⟩
  · cases member

theorem length_calls_run (exchange : String) (p : Plan) : (g.run exchange p).calls.length ≤ 1 := by
  rw [calls_run]
  split
  · exact Nat.le_refl 1
  · exact Nat.zero_le 1

theorem length_calls_carryOut (segment : String) (route : Route) :
    (g.carryOut segment route r).calls.length ≤ 1 := by
  unfold carryOut
  split
  · exact Nat.zero_le 1
  · split
    · exact Nat.zero_le 1
    · exact length_calls_run _ _

/-- A request leads to one call at most. -/
theorem length_calls_serve (now : Int) : (g.serve now r).calls.length ≤ 1 := by
  unfold serve
  split
  · exact Nat.zero_le 1
  · rename_i place _
    cases place with
    | health => exact Nat.zero_le 1
    | exchange segment route =>
      dsimp only [atPlace, guarded]
      split
      · exact Nat.zero_le 1
      · split
        · exact Nat.zero_le 1
        · dsimp only
          split
          · exact length_calls_carryOut segment route
          · exact Nat.zero_le 1

theorem mem_calls_carryOut {segment : String} {route : Route} {call : Call}
    (member : call ∈ (g.carryOut segment route r).calls) :
    ∃ exchange p, exchangeId? segment = some exchange ∧
      plan g.registry exchange route r = .ok p ∧ call ∈ (g.run exchange p).calls := by
  unfold carryOut at member
  split at member
  · cases member
  · rename_i exchange read
    split at member
    · cases member
    · rename_i p planned
      exact ⟨exchange, p, read, planned, member⟩

theorem mem_calls_guarded {now : Int} {segment : String} {route : Route} {call : Call}
    (member : call ∈ (g.guarded now segment route r).calls) :
    r.body.length ≤ maxBody ∧
      (∃ credential, g.policy.grant route.kind r = .ok credential) ∧
      (Place.exchange segment route).allows r.method = true ∧
      call ∈ (g.carryOut segment route r).calls := by
  unfold guarded at member
  split at member
  · cases member
  · rename_i small
    split at member
    · cases member
    · rename_i credential granted
      dsimp only at member
      split at member
      · rename_i allowed
        exact ⟨Nat.le_of_not_lt small, ⟨credential, granted⟩, allowed, member⟩
      · cases member

theorem mem_calls_serve {now : Int} {call : Call} (member : call ∈ (g.serve now r).calls) :
    ∃ segment route, Place.ofPath? r.path = some (.exchange segment route) ∧
      call ∈ (g.guarded now segment route r).calls := by
  unfold serve at member
  split at member
  · cases member
  · rename_i place found
    cases place with
    | health => cases member
    | exchange segment route => exact ⟨segment, route, found, member⟩

/-- Every call has its trail. -/
theorem trail_of_mem_calls {now : Int} {call : Call} (member : call ∈ (g.serve now r).calls) :
    Nonempty (Trail g r call) := by
  obtain ⟨segment, route, place, guardedCall⟩ := mem_calls_serve member
  obtain ⟨small, ⟨credential, granted⟩, allowed, later⟩ := mem_calls_guarded guardedCall
  obtain ⟨exchange, p, read, planned, called⟩ := mem_calls_carryOut later
  obtain ⟨operation, account, backend, linked⟩ := mem_calls_run called
  exact ⟨{
    segment, route, exchange, credential, plan := p, backend
    place, small, granted, allowed, read, planned, found := account, linked, operation }⟩

/-- A call that has a trail is made, and no other. -/
theorem Trail.calls_serve {call : Call} (trail : Trail g r call) (now : Int) :
    (g.serve now r).calls = [call] := by
  have ran : (g.run trail.exchange trail.plan).calls = [call] := by
    rw [calls_run, trail.found, trail.linked, ← trail.operation]
  have carried : (g.carryOut trail.segment trail.route r).calls = [call] := by
    rw [carryOut, trail.read]
    dsimp only
    rw [trail.planned]
    exact ran
  rw [serve, trail.place]
  show (g.guarded now trail.segment trail.route r).calls = [call]
  rw [guarded, if_neg (Nat.not_lt_of_le trail.small), trail.granted]
  dsimp only
  rw [if_pos trail.allowed]
  exact carried

/-- The class of the route is that of the operation. -/
theorem Trail.kind_eq {call : Call} (trail : Trail g r call) :
    call.operation.route.kind = trail.route.kind := by
  rw [trail.operation, (of_plan_eq_ok trail.planned).1]

end

end Gateway

end Countersign
