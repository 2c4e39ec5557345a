import Countersign.Client.Ask
import Countersign.Gateway.Plan
import Countersign.Proofs.Configured
import Countersign.Proofs.HeaderText
import Countersign.Proofs.JsonText

/-! Which arguments a gateway takes, and the operation that it makes of them. -/
namespace Countersign

open Signature (subAccountName)

namespace Exchange

/-- A side of a transfer by its id; an empty side stays as it is. -/
def sideId (e : Exchange) (name : Option String) : Option String :=
  match Gateway.given name with
  | none => name
  | some name => (e.subaccount? name).map Subaccount.id

/-- A side of a transfer that is empty or goes by the name of a sub-account. -/
def HasSide (e : Exchange) (name : Option String) : Prop :=
  ∀ given ∈ Gateway.given name, ∃ sub ∈ e.subaccounts, sub.GoesBy given

end Exchange

/-- A transfer that a gateway takes: a symbol, an amount that is not zero, and at least one side or
type; its sides are known. -/
structure Transfer.Valid (e : Exchange) (t : Transfer) : Prop where
  symbol : ∃ symbol, t.symbol = some symbol ∧ Text.allBlank symbol = false
  amount : Amount.isZero t.amount = .ok false
  sided : ∃ name ∈ [t.source, t.target, t.sourceType, t.targetType], Gateway.given name ≠ none
  source : e.HasSide t.source
  target : e.HasSide t.target

/-- A withdrawal that a gateway takes. Any amount will do, zero as well. -/
structure Withdrawal.Valid (w : Withdrawal) : Prop where
  address : Text.allBlank w.address = false
  symbol : ∃ symbol, w.symbol = some symbol ∧ Text.allBlank symbol = false
  network : ∃ network, w.network = some network ∧ Text.allBlank network = false
  amount : ∃ zero, Amount.isZero w.amount = .ok zero

namespace Client.Ask

/-- Arguments that a gateway takes for an exchange. -/
def Valid (e : Exchange) : Ask → Prop
  | depositAddress symbol network => Text.allBlank symbol = false ∧ Text.allBlank network = false
  | withdrawalHistory limit _ => ∀ n ∈ limit, 0 < n ∧ n ≤ Gateway.greatestLimit
  | transfer t => t.Valid e
  | withdrawal w => w.Valid
  | _ => True

/-- What is asked of the exchange: an empty account type or page token counts as none, and the sides
of a transfer go by their ids. -/
def operation (e : Exchange) : Ask → Operation
  | assets => .listAssets
  | accountTypes => .listAccountTypes
  | balances accountType => .listBalances (Gateway.given accountType)
  | depositAddress symbol network => .getDepositAddress symbol network
  | subaccounts => .listSubaccounts
  | withdrawalHistory limit pageToken => .listWithdrawalHistory limit (Gateway.given pageToken)
  | transfer t =>
    .accountTransfer { t with source := e.sideId t.source, target := e.sideId t.target }
  | withdrawal w => .createWithdrawal w

end Client.Ask

namespace Form

/-- Pairs behind others come before them. -/
theorem get?_append (front back : List (String × String)) (key : String) :
    get? (front ++ back) key = (get? back key).or (get? front key) := by
  rw [get?, List.reverse_append, List.lookup_append]
  rfl

theorem get?_pair (name key : String) (value : Option String) :
    get? (Client.Ask.pair name value) key = if key = name then value else none := by
  cases value with
  | none => simp [Client.Ask.pair, get?]
  | some text =>
    by_cases same : key = name
    · simp [Client.Ask.pair, get?, same]
    · have differ : (key == name) = false := by simpa using same
      simp [Client.Ask.pair, get?, same, List.lookup_cons, differ]

end Form

namespace Gateway

theorem required_eq_ok_iff {value : Option String} {name text : String} :
    required value name = .ok text ↔ value = some text ∧ Text.allBlank text = false := by
  unfold required
  cases value with
  | none => simp
  | some s =>
    by_cases blank : Text.allBlank s = true
    · simp only [Option.filter_some, blank, Bool.not_true, Bool.false_eq_true, if_false,
        reduceCtorEq, Option.some.injEq, false_iff, not_and]
      rintro rfl
      simp [blank]
    · rw [Bool.not_eq_true] at blank
      simp only [Option.filter_some, blank, Bool.not_false, if_true, Except.ok.injEq,
        Option.some.injEq]
      constructor
      · rintro rfl
        exact ⟨rfl, blank⟩
      · exact And.left

theorem amountIsZero_eq_ok_iff {amount : String} {zero : Bool} :
    amountIsZero amount = .ok zero ↔ Amount.isZero amount = .ok zero :=
  Outcome.mapError_eq_ok_iff

theorem limit_ofInt {n : Nat} (positive : 0 < n) (small : n ≤ greatestLimit) :
    limit (some (Text.ofInt n)) = .ok (some n) := by
  have text : given (some (Text.ofInt n)) = some (Text.ofInt n) := by
    have notEmpty : (Text.ofInt n).isEmpty = false := by
      rw [String.isEmpty_eq_false_iff, ← String.toList_inj.ne, Text.ofInt, String.toList_ofList,
        if_neg (by omega)]
      exact Text.decimal_ne_nil _
    simp [given, notEmpty]
  have read : Text.int64? (Text.ofInt n) = some (n : Int) := by
    apply Text.int64?_ofInt
    · unfold Text.int64Min
      omega
    · unfold Text.int64Max
      unfold greatestLimit at small
      omega
  rw [limit, text]
  dsimp only
  rw [read]
  dsimp only
  rw [if_pos (by omega), Int.toNat_natCast, Nat.min_eq_left small]

section

variable {β : Type} {registry : Registry β} {e : Exchange} {entry : Registered β}
  (found : registry.get? e.id = some entry) (known : entry.exchange = e)
include found known

/-- A side is taken just if it is known, and goes by its id. -/
theorem side_eq_ok_iff {label : String} {name out : Option String} :
    side registry e.id label name = .ok out ↔ e.HasSide name ∧ e.sideId name = out := by
  unfold side Exchange.sideId Exchange.HasSide
  cases text : given name with
  | none => simp
  | some s =>
    have read : registry.subaccountId? e.id s = .ok ((e.subaccount? s).map Subaccount.id) := by
      rw [Registry.subaccountId?, Registry.registered_eq_ok_iff.2 found, Except.map, known]
    dsimp only
    rw [read, Outcome.ok_bind]
    cases resolved : e.subaccount? s with
    | none =>
      have unknown : ¬ ∃ sub ∈ e.subaccounts, sub.GoesBy s := by
        rintro ⟨sub, member, goes⟩
        obtain ⟨other, there⟩ := Exchange.exists_subaccount? member goes
        rw [resolved] at there
        cases there
      constructor
      · intro refused
        cases refused
      · rintro ⟨has, _⟩
        exact absurd (has s rfl) unknown
    | some sub =>
      have has : ∀ given ∈ some s, ∃ sub ∈ e.subaccounts, sub.GoesBy given := by
        intro name same
        cases same
        exact ⟨sub, Exchange.of_subaccount?_eq_some resolved⟩
      constructor
      · intro taken
        cases taken
        exact ⟨has, rfl⟩
      · rintro ⟨_, rfl⟩
        rfl

/-- A transfer passes its checks just if it is valid, and its sides go by their ids. -/
theorem checkTransfer_eq_ok_iff {t t' : Transfer} :
    checkTransfer registry e.id t = .ok t' ↔
      t.Valid e ∧ { t with source := e.sideId t.source, target := e.sideId t.target } = t' := by
  have sided : ¬ ([t.source, t.target, t.sourceType, t.targetType].all fun s =>
      (given s).isNone) = true ↔
        ∃ name ∈ [t.source, t.target, t.sourceType, t.targetType], given name ≠ none := by
    simp only [List.all_eq_true, Option.isNone_iff_eq_none, not_forall, exists_prop, ne_eq]
  simp only [checkTransfer, Outcome.bind_eq_ok_iff, required_eq_ok_iff, amountIsZero_eq_ok_iff,
    Outcome.guard_eq_ok_iff, Outcome.pure_eq_ok_iff, sided, side_eq_ok_iff found known]
  constructor
  · rintro ⟨symbol, ⟨named, notBlank⟩, zero, amount, positive, some, _, ⟨source, rfl⟩, _,
      ⟨target, rfl⟩, rfl⟩
    rw [Bool.not_eq_true] at positive
    subst positive
    exact ⟨⟨⟨symbol, named, notBlank⟩, amount, some, source, target⟩, by rw [named]⟩
  · rintro ⟨⟨⟨symbol, named, notBlank⟩, amount, some, source, target⟩, rfl⟩
    exact ⟨symbol, ⟨named, notBlank⟩, false, amount, Bool.false_ne_true, some, _, ⟨source, rfl⟩, _,
      ⟨target, rfl⟩, by rw [named]⟩

end

/-- A withdrawal passes its checks just if it is valid, and stays as it is. -/
theorem checkWithdrawal_eq_ok_iff {w w' : Withdrawal} :
    checkWithdrawal w = .ok w' ↔ w.Valid ∧ w = w' := by
  simp only [checkWithdrawal, Outcome.bind_eq_ok_iff, required_eq_ok_iff, amountIsZero_eq_ok_iff,
    Outcome.discard_eq_ok_iff, Outcome.guard_eq_ok_iff, Outcome.pure_eq_ok_iff]
  constructor
  · rintro ⟨address, symbol, ⟨named, symbolText⟩, network, ⟨there, networkText⟩, _, amount, rfl⟩
    rw [Bool.not_eq_true] at address
    exact ⟨⟨address, ⟨symbol, named, symbolText⟩, ⟨network, there, networkText⟩, amount⟩,
      by rw [← named, ← there]⟩
  · rintro ⟨⟨address, ⟨symbol, named, symbolText⟩, ⟨network, there, networkText⟩, amount⟩, rfl⟩
    have notBlank : ¬ Text.allBlank w.address = true := by
      rw [address]
      exact Bool.false_ne_true
    exact ⟨notBlank, symbol, ⟨named, symbolText⟩, network, ⟨there, networkText⟩, (), amount,
      by rw [← named, ← there]⟩

section

variable {β : Type} {registry : Registry β} {exchange : String} {r : Request} {name : Option String}
  (named : requestedSubAccount r.headers (Form.decode (bytesOf r.query)) = name) {account : Account}
  (acting : registry.account exchange name = .ok account)
include named acting

theorem looked_of_acting : discard (registry.account exchange
    (requestedSubAccount r.headers (Form.decode (bytesOf r.query)))) = .ok () := by
  rw [named, Outcome.discard_eq_ok_iff]
  exact ⟨account, acting⟩

/-- With an account and a body that can be read, the checks decide. -/
theorem plan_transfer_eq {t : Transfer} (read : Transfer.ofBytes r.body = .ok t) :
    plan registry exchange .transfer r = (checkTransfer registry exchange t).map fun t =>
      ⟨name, .accountTransfer t, [notedTransfer exchange name t]⟩ := by
  have body : decodeBody Transfer.ofBytes r.body = .ok t := Outcome.mapError_eq_ok_iff.2 read
  rw [plan, looked_of_acting named acting, Outcome.ok_bind, body, Outcome.ok_bind, ← named]
  cases checkTransfer registry exchange t <;> rfl

theorem plan_withdrawal_eq {w : Withdrawal} (read : Withdrawal.ofBytes r.body = .ok w) :
    plan registry exchange .withdrawal r = (checkWithdrawal w).map fun w =>
      ⟨name, .createWithdrawal w, [notedWithdrawal exchange name w]⟩ := by
  have body : decodeBody Withdrawal.ofBytes r.body = .ok w := Outcome.mapError_eq_ok_iff.2 read
  rw [plan, looked_of_acting named acting, Outcome.ok_bind, body, Outcome.ok_bind, ← named]
  cases checkWithdrawal w <;> rfl

end

/-- What is asked of an exchange is what is planned there, with its arguments as they were given; all
that is left open is what is noted about it. -/
theorem plan_of_valid {β : Type} {registry : Registry β} {e : Exchange} {entry : Registered β}
    (found : registry.get? e.id = some entry) (known : entry.exchange = e) {ask : Client.Ask}
    (valid : ask.Valid e) {r : Request} {name : Option String}
    (query : Form.decode (bytesOf r.query) = ask.query ++ Client.Ask.pair subAccountName name)
    (body : r.body = ask.body?.getD []) {account : Account}
    (acting : registry.account e.id
      (requestedSubAccount r.headers (Form.decode (bytesOf r.query))) = .ok account) :
    ∃ p, plan registry e.id ask.route r = .ok p ∧ p.operation = ask.operation e := by
  have value (key : String) (other : key ≠ subAccountName) :
      Form.get? (Form.decode (bytesOf r.query)) key = Form.get? ask.query key := by
    rw [query, Form.get?_append, Form.get?_pair, if_neg other, Option.none_or]
  have looked := looked_of_acting rfl acting
  cases ask with
  | assets => exact ⟨_, rfl, rfl⟩
  | accountTypes => exact ⟨_, rfl, rfl⟩
  | subaccounts => exact ⟨_, rfl, rfl⟩
  | balances accountType =>
    refine ⟨_, rfl, ?_⟩
    rw [value "type" (by decide), Client.Ask.query, Form.get?_pair, if_pos rfl]
    rfl
  | depositAddress symbol network =>
    have ofSymbol : Form.get? (Form.decode (bytesOf r.query)) "symbol" = some symbol :=
      value "symbol" (by decide)
    have ofNetwork : Form.get? (Form.decode (bytesOf r.query)) "network" = some network :=
      value "network" (by decide)
    rw [Client.Ask.route, plan, looked, Outcome.ok_bind, ofSymbol, ofNetwork,
      required_eq_ok_iff.2 ⟨rfl, valid.1⟩, Outcome.ok_bind, required_eq_ok_iff.2 ⟨rfl, valid.2⟩]
    exact ⟨_, rfl, rfl⟩
  | withdrawalHistory few pageToken =>
    have ofLimit : Form.get? (Form.decode (bytesOf r.query)) "limit" =
        few.map fun n : Nat => Text.ofInt n := by
      rw [value "limit" (by decide), Client.Ask.query, Form.get?_append, Form.get?_pair,
        Form.get?_pair, if_neg (by decide), if_pos rfl, Option.none_or]
      cases few <;> rfl
    have ofToken : Form.get? (Form.decode (bytesOf r.query)) "page_token" = pageToken := by
      rw [value "page_token" (by decide), Client.Ask.query, Form.get?_append, Form.get?_pair,
        Form.get?_pair, if_pos rfl, if_neg (by decide), Option.or_none]
    have read : limit (few.map fun n : Nat => Text.ofInt n) = .ok few := by
      cases few with
      | none => rfl
      | some n => exact limit_ofInt (valid n rfl).1 (valid n rfl).2
    rw [Client.Ask.route, plan, looked, Outcome.ok_bind, ofLimit, ofToken, read]
    exact ⟨_, rfl, rfl⟩
  | transfer t =>
    have read : Transfer.ofBytes r.body = .ok t := by
      rw [body]
      exact t.ofBytes_compact
    rw [Client.Ask.route, plan_transfer_eq rfl acting read,
      (checkTransfer_eq_ok_iff found known).2 ⟨valid, rfl⟩]
    exact ⟨_, rfl, rfl⟩
  | withdrawal w =>
    have read : Withdrawal.ofBytes r.body = .ok w := by
      rw [body]
      exact w.ofBytes_compact
    rw [Client.Ask.route, plan_withdrawal_eq rfl acting read,
      checkWithdrawal_eq_ok_iff.2 ⟨valid, rfl⟩]
    exact ⟨_, rfl, rfl⟩

end Gateway

end Countersign
