import Countersign.Proofs.Admission

/-! What a request is answered that reaches no exchange: it is refused, and its status says whose fault
that is. -/
namespace Countersign

namespace Outcome

/-- All faults of a run have a property. -/
def FailsWith {ε α : Type} (P : ε → Prop) (x : Except ε α) : Prop := ∀ e, x = .error e → P e

variable {ε α β : Type} {P : ε → Prop}

theorem FailsWith.ok (a : α) : FailsWith P (.ok a : Except ε α) := nofun

theorem FailsWith.error {e : ε} (holds : P e) : FailsWith P (.error e : Except ε α) := by
  intro other same
  cases same
  exact holds

theorem FailsWith.mono {Q : ε → Prop} {x : Except ε α} (fails : FailsWith P x)
    (weaker : ∀ e, P e → Q e) : FailsWith Q x :=
  fun e failed => weaker e (fails e failed)

/-- Faults of a run are those of its first step and those of its later ones. -/
theorem FailsWith.bind {x : Except ε α} {f : α → Except ε β} (first : FailsWith P x)
    (later : ∀ a, FailsWith P (f a)) : FailsWith P (x >>= f) := by
  intro e failed
  rcases bind_eq_error_iff.1 failed with failed | ⟨a, _, failed⟩
  · exact first e failed
  · exact later a e failed

theorem FailsWith.discard {x : Except ε α} (first : FailsWith P x) :
    FailsWith P (discard x) :=
  first.bind fun _ => .ok _

/-- A step that is a fault under a condition. -/
theorem FailsWith.guard {c : Prop} [Decidable c] {e : ε} (f : β → Except ε α) {x : Except ε α}
    (holds : P e) (later : FailsWith P x) :
    FailsWith P (if c then throw e >>= f else x) := by
  split
  · exact FailsWith.error holds
  · exact later

theorem FailsWith.mapError {ε' : Type} {x : Except ε' α} {f : ε' → ε} (each : ∀ e, P (f e)) :
    FailsWith P (x.mapError f) := by
  cases x with
  | error e => exact .error (each e)
  | ok a => exact .ok a

end Outcome

open Outcome (FailsWith)

/-- The request asks for what is wrong or for what is not there. -/
def Refusal.IsCallers (refusal : Refusal) : Prop := refusal.status = 400 ∨ refusal.status = 404

/-- Nothing that was done is answered so. -/
def Refusal.IsFailure (refusal : Refusal) : Prop := 400 ≤ refusal.status

theorem Refusal.IsCallers.isFailure {refusal : Refusal} (callers : refusal.IsCallers) :
    refusal.IsFailure := by
  rw [IsFailure]
  rcases callers with status | status
  all_goals omega

namespace Registry

variable {β : Type} (r : Registry β) (id : String)

theorem registered_fails : FailsWith Refusal.IsCallers (r.registered id) := by
  unfold registered
  split
  · exact .ok _
  · exact .error (.inr rfl)

theorem account_fails (name : Option String) : FailsWith Refusal.IsCallers (r.account id name) := by
  refine (r.registered_fails id).bind fun entry => ?_
  split
  · exact .ok _
  · split
    · exact .ok _
    · exact .error (.inr rfl)

theorem backend_fails : FailsWith Refusal.IsFailure (r.backend id) := by
  have registered := (r.registered_fails id).mono fun _ => Refusal.IsCallers.isFailure
  refine registered.bind fun entry => ?_
  split
  · exact .ok _
  · exact .error (show 400 ≤ 501 by decide)

theorem subaccountId?_fails (name : String) :
    FailsWith Refusal.IsCallers (r.subaccountId? id name) := by
  have fails := r.registered_fails id
  unfold subaccountId?
  cases found : r.registered id with
  | error refusal => exact .error (fails refusal found)
  | ok entry => exact .ok _

end Registry

namespace Gateway

theorem isCallers_badRequest (message : String) : (badRequest message).IsCallers := .inl rfl

theorem required_fails (value : Option String) (name : String) :
    FailsWith Refusal.IsCallers (required value name) := by
  unfold required
  split
  · exact .ok _
  · exact .error (isCallers_badRequest _)

theorem limit_fails (value : Option String) : FailsWith Refusal.IsCallers (limit value) := by
  unfold limit
  split
  · exact .ok _
  · split
    · exact .error (isCallers_badRequest _)
    · split
      · exact .ok _
      · exact .error (isCallers_badRequest _)

theorem amountIsZero_fails (amount : String) :
    FailsWith Refusal.IsCallers (amountIsZero amount) :=
  .mapError fun _ => isCallers_badRequest _

section

variable {β : Type} (registry : Registry β) (exchange : String)

theorem side_fails (label : String) (name : Option String) :
    FailsWith Refusal.IsCallers (side registry exchange label name) := by
  unfold side
  split
  · exact .ok _
  · refine (registry.subaccountId?_fails exchange _).bind fun found => ?_
    split
    · exact .ok _
    · exact .error (isCallers_badRequest _)

theorem checkTransfer_fails (t : Transfer) :
    FailsWith Refusal.IsCallers (checkTransfer registry exchange t) := by
  unfold checkTransfer
  refine (required_fails _ _).bind fun symbol => ?_
  refine (amountIsZero_fails _).bind fun zero => ?_
  refine .guard _ (isCallers_badRequest _) (.guard _ (isCallers_badRequest _) ?_)
  refine (side_fails registry exchange _ _).bind fun source => ?_
  exact (side_fails registry exchange _ _).bind fun target => .ok _

theorem checkWithdrawal_fails (w : Withdrawal) :
    FailsWith Refusal.IsCallers (checkWithdrawal w) := by
  unfold checkWithdrawal
  refine .guard _ (isCallers_badRequest _) ?_
  refine (required_fails _ _).bind fun symbol => ?_
  refine (required_fails _ _).bind fun network => ?_
  exact (amountIsZero_fails _).discard.bind fun _ => .ok _

/-- What cannot be planned is the caller's fault. -/
theorem plan_fails (route : Route) (r : Request) :
    FailsWith Refusal.IsCallers (plan registry exchange route r) := by
  have account := registry.account_fails exchange
    (requestedSubAccount r.headers (Form.decode (bytesOf r.query)))
  cases route with
  | assets => exact .ok _
  | accountTypes => exact .ok _
  | balances => exact .ok _
  | subaccounts => exact .ok _
  | depositAddress =>
    refine account.discard.bind fun _ => ?_
    refine (required_fails _ _).bind fun symbol => ?_
    exact (required_fails _ _).bind fun network => .ok _
  | withdrawalHistory =>
    refine account.discard.bind fun _ => ?_
    exact (limit_fails _).bind fun limit => .ok _
  | transfer =>
    refine account.discard.bind fun _ => ?_
    refine (FailsWith.mapError fun _ => isCallers_badRequest _).bind fun asked => ?_
    exact (checkTransfer_fails registry exchange asked).bind fun t => .ok _
  | withdrawal =>
    refine account.discard.bind fun _ => ?_
    refine (FailsWith.mapError fun _ => isCallers_badRequest _).bind fun asked => ?_
    exact (checkWithdrawal_fails asked).bind fun w => .ok _

end

theorem isFailure_refusalOf (fault : Access.Fault) : (refusalOf fault).IsFailure := by
  rw [Refusal.IsFailure]
  rcases status_refusalOf fault with status | status
  all_goals omega

variable {g : Gateway} {r : Request}

/-- Where no backend is asked, the plan failed for want of one or of the account. -/
theorem status_run {exchange : String} {p : Plan} (none : (g.run exchange p).calls = []) :
    400 ≤ (g.run exchange p).response.status := by
  have found : FailsWith Refusal.IsFailure (do
      let account ← g.registry.account exchange p.subaccount
      let backend ← g.registry.backend exchange
      return (account, backend)) := by
    have account := (g.registry.account_fails exchange p.subaccount).mono
      fun _ => Refusal.IsCallers.isFailure
    refine account.bind fun account => ?_
    exact (g.registry.backend_fails exchange).bind fun backend => .ok _
  unfold run at none ⊢
  dsimp only at none ⊢
  split
  · rename_i refusal failed
    exact found refusal failed
  · rename_i account backend fine
    rw [fine] at none
    dsimp only at none
    split at none <;> cases none

theorem status_carryOut {segment : String} {route : Route}
    (none : (g.carryOut segment route r).calls = []) :
    400 ≤ (g.carryOut segment route r).response.status := by
  unfold carryOut at none ⊢
  cases read : exchangeId? segment with
  | none => exact Nat.le_refl 400
  | some exchange =>
    rw [read] at none
    dsimp only at none ⊢
    cases planned : plan g.registry exchange route r with
    | error refusal => exact ((plan_fails _ _ _ _) refusal planned).isFailure
    | ok p =>
      rw [planned] at none
      exact status_run none

theorem status_guarded {now : Int} {segment : String} {route : Route}
    (none : (g.guarded now segment route r).calls = []) :
    400 ≤ (g.guarded now segment route r).response.status := by
  unfold guarded at none ⊢
  split
  · exact show 400 ≤ 413 by decide
  · rename_i small
    rw [if_neg small] at none
    split
    · exact isFailure_refusalOf _
    · rename_i credential granted
      rw [granted] at none
      dsimp only at none ⊢
      split
      · rename_i allowed
        rw [if_pos allowed] at none
        exact status_carryOut none
      · exact show 400 ≤ 405 by decide

/-- A request that the guard of an exchange lets through. -/
structure Passed (g : Gateway) (r : Request) (segment : String) (route : Route) : Prop where
  place : Place.ofPath? r.path = some (.exchange segment route)
  small : r.body.length ≤ maxBody
  granted : ∃ credential, g.policy.grant route.kind r = .ok credential

/-- It is carried out if its method is one that the route takes. -/
theorem Passed.serve_eq {segment : String} {route : Route} (passed : Passed g r segment route)
    (now : Int) : ∃ served : Served,
      served = (if (Place.exchange segment route).allows r.method then g.carryOut segment route r
        else { response := .empty 405 }) ∧
      (g.serve now r).calls = served.calls ∧
      (g.serve now r).response = shaped (.exchange segment route) r.method served.response := by
  obtain ⟨place, small, credential, granted⟩ := passed
  refine ⟨_, rfl, ?_⟩
  rw [serve, place]
  dsimp only [atPlace]
  rw [guarded, if_neg (Nat.not_lt_of_le small), granted]
  exact ⟨rfl, rfl⟩

end Gateway

end Countersign
