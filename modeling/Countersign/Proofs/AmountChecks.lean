import Countersign.Proofs.Forwarded
import Countersign.Proofs.Refusals
import Countersign.Proofs.Transfers

/-! Two sides look at the amount of an order: the client before it sends anything, and the gateway before
it calls an exchange. They agree, but for withdrawals of nothing. -/
namespace Countersign

namespace Amount

/-- A number that is zero, however it is written. -/
def Zero (amount : String) : Prop :=
  ∃ whole fraction, Written (Text.trim amount).toList whole fraction ∧ value whole fraction = 0

theorem isZero_eq_ok_true_iff {amount : String} : isZero amount = .ok true ↔ Zero amount := by
  rw [isZero_eq_ok_iff, Zero]
  simp only [true_iff]

end Amount

namespace Client.Ask

/-- The same order over another amount. -/
def withAmount (amount : String) : Ask → Ask
  | transfer t => transfer { t with amount }
  | withdrawal w => withdrawal { w with amount }
  | ask => ask

/-- An order to withdraw an amount that is zero. -/
def WithdrawsNothing (ask : Ask) : Prop := ∃ w, ask = withdrawal w ∧ Amount.Zero w.amount

end Client.Ask

namespace Gateway

/-- What a gateway says to the amount of an order, if it has nothing to say to the rest. Zero is wrong
for a transfer only. -/
def judge (amount : String) (route : Route) : Except Refusal Unit := do
  if (← amountIsZero amount) && route == .transfer then
    throw (badRequest "amount must be greater than 0")

section

variable {β : Type} {registry : Registry β} {e : Exchange} {other : String}

theorem checkTransfer_eq_judge {entry : Registered β} (found : registry.get? e.id = some entry)
    (known : entry.exchange = e) {t : Transfer} (valid : ({ t with amount := other }).Valid e) :
    checkTransfer registry e.id t = (judge t.amount .transfer).map fun _ => t.resolved e := by
  obtain ⟨⟨symbol, named, notBlank⟩, _, sided, source, target⟩ := valid
  have first : required t.symbol "symbol" = .ok symbol := required_eq_ok_iff.2 ⟨named, notBlank⟩
  cases taken : amountIsZero t.amount with
  | error refusal =>
    rw [checkTransfer, first, Outcome.ok_bind, judge, taken]
    rfl
  | ok zero =>
    cases zero with
    | true =>
      rw [checkTransfer, first, Outcome.ok_bind, judge, taken]
      rfl
    | false =>
      have passes : checkTransfer registry e.id t = .ok (t.resolved e) :=
        (checkTransfer_eq_ok_iff found known).2
          ⟨⟨⟨symbol, named, notBlank⟩, amountIsZero_eq_ok_iff.1 taken, sided, source, target⟩, rfl⟩
      rw [passes, judge, taken]
      rfl

theorem checkWithdrawal_eq_judge {w : Withdrawal} (valid : ({ w with amount := other }).Valid) :
    checkWithdrawal w = (judge w.amount .withdrawal).map fun _ => w := by
  obtain ⟨address, ⟨symbol, named, symbolText⟩, ⟨network, there, networkText⟩, _⟩ := valid
  cases taken : amountIsZero w.amount with
  | error refusal =>
    have notBlank : ¬ Text.allBlank w.address = true := by
      rw [address]
      exact Bool.false_ne_true
    rw [checkWithdrawal, if_neg notBlank, required_eq_ok_iff.2 ⟨named, symbolText⟩, Outcome.ok_bind,
      required_eq_ok_iff.2 ⟨there, networkText⟩, Outcome.ok_bind, judge, taken]
    rfl
  | ok zero =>
    have passes : checkWithdrawal w = .ok w := checkWithdrawal_eq_ok_iff.2
      ⟨⟨address, ⟨symbol, named, symbolText⟩, ⟨network, there, networkText⟩, zero,
        amountIsZero_eq_ok_iff.1 taken⟩, rfl⟩
    rw [passes, judge, taken]
    cases zero <;> rfl

/-- If all but the amount is in order, the plan hangs on the amount alone. -/
theorem exists_plan_eq_judge {entry : Registered β} (found : registry.get? e.id = some entry)
    (known : entry.exchange = e) {r : Request} {name : Option String}
    (named : requestedSubAccount r.headers (Form.decode (bytesOf r.query)) = name)
    {account : Account} (acting : registry.account e.id name = .ok account)
    {ask : Client.Ask} {amount : String} (asks : Asks r.body ask amount)
    (valid : (ask.withAmount other).Valid e) :
    ∃ p, plan registry e.id ask.route r = (judge amount ask.route).map (fun _ => p) ∧
      p.operation = ask.operation e ∧ registry.account e.id p.subaccount = .ok account := by
  cases asks with
  | @transfer t read =>
    refine ⟨⟨name, .accountTransfer (t.resolved e), [notedTransfer e.id name (t.resolved e)]⟩, ?_,
      rfl, acting⟩
    rw [Client.Ask.route, plan_transfer_eq named acting read, checkTransfer_eq_judge found known valid]
    cases judge t.amount .transfer <;> rfl
  | @withdrawal w read =>
    refine ⟨⟨name, .createWithdrawal w, [notedWithdrawal e.id name w]⟩, ?_, rfl, acting⟩
    rw [Client.Ask.route, plan_withdrawal_eq named acting read, checkWithdrawal_eq_judge valid]
    cases judge w.amount .withdrawal <;> rfl

end

/-- An order that passed authentication, to an exchange with a backend and for an account there. Over
some amount it would be carried out. -/
structure Order (g : Gateway) (r : Request) (e : Exchange) (ask : Client.Ask) (amount : String) :
    Prop where
  passed : ∃ segment, Passed g r segment ask.route ∧ exchangeId? segment = some e.id
  posted : r.method = "POST"
  known : ∃ entry, g.registry.get? e.id = some entry ∧ entry.exchange = e
  acting : ∃ account, g.registry.account e.id
    (requestedSubAccount r.headers (Form.decode (bytesOf r.query))) = .ok account
  linked : ∃ backend, g.registry.backend e.id = .ok backend
  asks : Asks r.body ask amount
  otherwise : ∃ other, (ask.withAmount other).Valid e

variable {g : Gateway} {r : Request} {e : Exchange} {ask : Client.Ask} {amount : String}

/-- An order is carried out if its amount is taken, and else refused for it. -/
theorem Order.served (order : Order g r e ask amount) (now : Int) :
    (judge amount ask.route = .ok () →
        ∃ account, (g.serve now r).calls = [⟨ask.operation e, account⟩]) ∧
      ∀ refusal, judge amount ask.route = .error refusal →
        (g.serve now r).calls = [] ∧ (g.serve now r).response = .refused refusal := by
  obtain ⟨⟨segment, passed, read⟩, posted, ⟨entry, found, known⟩, ⟨account, acting⟩,
    ⟨backend, linked⟩, asks, _, valid⟩ := order
  have allowed : (Place.exchange segment ask.route).allows r.method = true := by
    rw [posted]
    cases asks <;> rfl
  have whole : r.method ≠ "HEAD" := by
    rw [posted]
    decide
  obtain ⟨p, planned, operation, subaccount⟩ :=
    exists_plan_eq_judge found known rfl acting asks valid
  obtain ⟨served, shape, calls, response⟩ := passed.serve_eq now
  rw [if_pos allowed, carryOut, read] at shape
  dsimp only at shape
  rw [planned] at shape
  rw [calls, response, shaped_of_allows allowed whole, shape]
  constructor
  · intro taken
    rw [taken]
    exact ⟨account, by rw [Except.map, calls_run, subaccount, linked, operation]⟩
  · intro refusal refused
    rw [refused]
    exact ⟨rfl, rfl⟩

/-- The client refuses an amount just if the gateway makes no call for it, and says the same. -/
structure Agree (amount : String) (served : Served) : Prop where
  refused : (∃ fault, Client.checkAmount amount = .error fault) ↔ served.calls = []
  told : ∀ fault, Client.checkAmount amount = .error fault →
    served.response = .refused (badRequest fault.message)

/-- Where something moves, a gateway says to an amount what the client says. -/
theorem judge_eq_checkAmount {body : Bytes} (asks : Asks body ask amount)
    (moves : ¬ ask.WithdrawsNothing) : judge amount ask.route =
      (Client.checkAmount amount).mapError fun fault => badRequest fault.message := by
  rw [judge, amountIsZero, Client.checkAmount]
  cases taken : Amount.isZero amount with
  | error why => rfl
  | ok zero =>
    cases zero with
    | false => rfl
    | true =>
      cases asks with
      | transfer read => rfl
      | @withdrawal w read =>
        exact absurd ⟨w, rfl, Amount.isZero_eq_ok_true_iff.1 taken⟩ moves

theorem Order.agree (order : Order g r e ask amount) (moves : ¬ ask.WithdrawsNothing) (now : Int) :
    Agree amount (g.serve now r) := by
  obtain ⟨taken, refused⟩ := order.served now
  rw [judge_eq_checkAmount order.asks moves] at taken refused
  cases checked : Client.checkAmount amount with
  | ok =>
    rw [checked] at taken
    obtain ⟨account, calls⟩ := taken rfl
    constructor
    · simp [checked, calls]
    · simp [checked]
  | error why =>
    rw [checked] at refused
    obtain ⟨calls, response⟩ := refused _ rfl
    constructor
    · simp [checked, calls]
    · intro fault failed
      rw [checked] at failed
      cases failed
      exact response

/-- A withdrawal of nothing is a call to the exchange that the client does not ask for. -/
theorem Order.call_of_nothing (order : Order g r e ask amount) (nothing : ask.WithdrawsNothing)
    (now : Int) : Client.checkAmount amount = .error .zero ∧
      ∃ account, (g.serve now r).calls = [⟨ask.operation e, account⟩] := by
  obtain ⟨w, rfl, zero⟩ := nothing
  have taken := (order.served now).1
  cases order.asks with
  | withdrawal read =>
    have zero := Amount.isZero_eq_ok_true_iff.2 zero
    refine ⟨by rw [Client.checkAmount, zero], taken ?_⟩
    rw [judge, amountIsZero_eq_ok_iff.2 zero]
    rfl

/-- Client and gateway agree on the amounts of all orders but those to withdraw nothing: these the client
refuses, and the gateway carries them out. -/
theorem agree_or_zero (order : Order g r e ask amount) (now : Int) :
    (Agree amount (g.serve now r) ↔ ¬ ask.WithdrawsNothing) ∧
      (ask.WithdrawsNothing → Client.checkAmount amount = .error .zero ∧
        ∃ account, (g.serve now r).calls = [⟨ask.operation e, account⟩]) := by
  refine ⟨⟨fun agree nothing => ?_, fun moves => order.agree moves now⟩, ?_⟩
  · obtain ⟨checked, account, calls⟩ := order.call_of_nothing nothing now
    rw [agree.refused.1 ⟨_, checked⟩] at calls
    cases calls
  · exact fun nothing => order.call_of_nothing nothing now

/-- The exchange of the desk. -/
def okx : Exchange := ⟨"okx", [⟨"1001", some "desk-a"⟩]⟩

theorem order_ordering {resource body : String} {ask : Client.Ask} {amount : String}
    (place : Place.ofPath? (ordering resource body).path = some (.exchange "okx" ask.route))
    (small : (bytesOf body).length ≤ maxBody)
    (granted : easyGateway.policy.grant ask.route.kind (ordering resource body) =
      .ok (.signature ⟨"iam", Signature.Params.requestParts, []⟩))
    (asks : Asks (bytesOf body) ask amount) (valid : (ask.withAmount "1").Valid okx) :
    Order easyGateway (ordering resource body) okx ask amount where
  passed := ⟨"okx", ⟨place, small, _, granted⟩, by decide⟩
  posted := rfl
  known := ⟨_, rfl, rfl⟩
  acting := ⟨⟨"okx", none⟩, rfl⟩
  linked := ⟨_, rfl⟩
  asks := asks
  otherwise := ⟨"1", valid⟩

/-- The transfer of an amount to a sub-account, by its nickname. -/
def toDesk (amount : String) : Transfer :=
  { symbol := some "USDT", amount, target := some "desk-a" }

theorem valid_toDesk {amount : String} (positive : Amount.isZero amount = .ok false) :
    (toDesk amount).Valid okx where
  symbol := ⟨"USDT", rfl, by decide⟩
  amount := positive
  sided := ⟨some "desk-a", .tail _ (.head _), by decide⟩
  source := nofun
  target := by
    intro name given
    obtain rfl : "desk-a" = name := Option.some.inj given
    exact ⟨_, List.mem_cons_self, .inr rfl⟩

/-- Zero with decimals is refused by both in the same words. -/
theorem agree_or_zero_transfer :
    Client.checkAmount "0.00" = .error .zero ∧
      (easyGateway.serve 0 (transferring "0.00")).response =
        .refused (badRequest "amount must be greater than 0") := by
  have read : Transfer.ofBytes (transferring "0.00").body = .ok (toDesk "0.00") := by
    decide +kernel
  have valid : (toDesk "1").Valid okx := valid_toDesk (by decide)
  have order : Order easyGateway (transferring "0.00") okx (.transfer (toDesk "0.00")) "0.00" :=
    order_ordering (by decide +kernel) (by decide +kernel) (by decide +kernel) (.transfer read) valid
  have checked : Client.checkAmount "0.00" = .error .zero := by decide
  have moves : ¬ (Client.Ask.transfer (toDesk "0.00")).WithdrawsNothing := by
    rintro ⟨w, same, _⟩
    cases same
  have agree := (agree_or_zero order 0).1.2 moves
  exact ⟨checked, agree.told .zero checked⟩

/-- The withdrawal of an amount to some address. -/
def withdrawing (amount : String) : Request :=
  ordering "withdrawal"
    ("\x7b\"address\":\"0xabc\",\"symbol\":\"USDT\",\"network\":\"ETH\",\"amount\":\"" ++ amount ++
      "\"\x7d")

def withdrawn (amount : String) : Withdrawal :=
  { address := "0xabc", symbol := some "USDT", network := some "ETH", amount }

/-- The client refuses to withdraw zero, whereas the gateway does it. -/
theorem zero_not_agreed :
    Order easyGateway (withdrawing "0") okx (.withdrawal (withdrawn "0")) "0" ∧
      Client.checkAmount "0" = .error .zero ∧
      (easyGateway.serve 0 (withdrawing "0")).calls =
        [⟨.createWithdrawal (withdrawn "0"), ⟨"okx", none⟩⟩] ∧
      ¬ Agree "0" (easyGateway.serve 0 (withdrawing "0")) := by
  have read : Withdrawal.ofBytes (withdrawing "0").body = .ok (withdrawn "0") := by decide +kernel
  have order : Order easyGateway (withdrawing "0") okx (.withdrawal (withdrawn "0")) "0" :=
    order_ordering (by decide +kernel) (by decide +kernel) (by decide +kernel)
      (.withdrawal read) ⟨by decide, ⟨_, rfl, by decide⟩, ⟨_, rfl, by decide⟩, ⟨false, by decide⟩⟩
  have checked : Client.checkAmount "0" = .error .zero := by decide
  have calls : (easyGateway.serve 0 (withdrawing "0")).calls =
      [⟨.createWithdrawal (withdrawn "0"), ⟨"okx", none⟩⟩] := by decide +kernel
  refine ⟨order, checked, calls, fun agree => ?_⟩
  rw [agree.refused.1 ⟨_, checked⟩] at calls
  cases calls

end Gateway

end Countersign
