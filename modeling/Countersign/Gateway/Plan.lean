import Countersign.Exchange.Registry
import Countersign.Gateway.Route
import Countersign.Url.Form
import Countersign.Wire.Amount

/-! From a request that was let through to the operation that it asks for. -/
namespace Countersign.Gateway

def badRequest (message : String) : Refusal := ⟨400, message⟩

/-- The operation, the name of the sub-account that it is for, and what is noted about it. -/
structure Plan where
  subaccount : Option String
  operation : Operation
  noted : List Event
deriving DecidableEq, Repr

/-- The pairs of a request's query. -/
abbrev Query := List (String × String)

def given (value : Option String) : Option String := value.filter (!·.isEmpty)

/-- The sub-account that the header names, or else the query. -/
def requestedSubAccount (h : Headers) (query : Query) : Option String :=
  (given (h.text? Signature.subAccountName)).or
    (given (Form.get? query Signature.subAccountName))

/-- A value that has to be there and not be blank. -/
def required (value : Option String) (name : String) : Except Refusal String :=
  match value.filter (!Text.allBlank ·) with
  | some value => .ok value
  | none => .error (badRequest s!"{name} is required")

def greatestLimit : Nat := 4294967295

/-- A positive number, cut to what fits in 32 bits; empty is the same as absent. -/
def limit (value : Option String) : Except Refusal (Option Nat) :=
  match given value with
  | none => .ok none
  | some text =>
    match Text.int64? text with
    | none => .error (badRequest "invalid limit parameter: must be a number")
    | some n =>
      if n > 0 then .ok (some (min n.toNat greatestLimit))
      else .error (badRequest "invalid limit parameter: must be greater than 0")

def decodeBody {α : Type} (read : Bytes → Except Json.Fault α) (body : Bytes) : Except Refusal α :=
  (read body).mapError fun fault =>
    let reason := fault.message body
    badRequest s!"invalid request body: {reason}"

/-- Whether an amount is zero, if it is an amount. -/
def amountIsZero (amount : String) : Except Refusal Bool :=
  (Amount.isZero amount).mapError fun fault => badRequest fault.message

section

variable {β : Type} (registry : Registry β)

/-- One side of a transfer: a name turns into the id of the sub-account that it stands for. -/
def side (exchange label : String) (name : Option String) : Except Refusal (Option String) :=
  match given name with
  | none => .ok name
  | some name => do
    match ← registry.subaccountId? exchange name with
    | some id => return some id
    | none => throw (badRequest s!"invalid {label} account")

/-- The checks of a transfer in their order; sides come out as ids. -/
def checkTransfer (exchange : String) (t : Transfer) : Except Refusal Transfer := do
  let symbol ← required t.symbol "symbol"
  if ← amountIsZero t.amount then throw (badRequest "amount must be greater than 0")
  if [t.source, t.target, t.sourceType, t.targetType].all fun s => (given s).isNone then
    throw (badRequest "must specify at least one of to, from, from_type, to_type")
  let source ← side registry exchange "from" t.source
  let target ← side registry exchange "to" t.target
  return { t with symbol := some symbol, source, target }

/-- The checks of a withdrawal in their order. An amount of zero passes. -/
def checkWithdrawal (w : Withdrawal) : Except Refusal Withdrawal := do
  if Text.allBlank w.address then throw (badRequest "to address is required")
  let symbol ← required w.symbol "symbol"
  let network ← required w.network "network"
  discard (amountIsZero w.amount)
  return { w with symbol := some symbol, network := some network }

def shown (value : Option String) : String := Event.optional (value.map Text.quoted)

def notedTransfer (exchange : String) (subaccount : Option String) (t : Transfer) : Event :=
  ⟨.info, "account transfer requested",
    [("exchange", exchange), ("sub_account", shown subaccount), ("symbol", shown t.symbol),
      ("amount", t.amount)]⟩

def notedWithdrawal (exchange : String) (subaccount : Option String) (w : Withdrawal) : Event :=
  ⟨.info, "withdrawal requested",
    [("exchange", exchange), ("sub_account", shown subaccount), ("symbol", shown w.symbol),
      ("network", shown w.network), ("amount", w.amount)]⟩

/-- Reference data is about no sub-account. Where arguments are checked, the account is looked up
first. -/
def plan (exchange : String) (route : Route) (r : Request) : Except Refusal Plan :=
  let query := Form.decode (bytesOf r.query)
  let subaccount := requestedSubAccount r.headers query
  match route with
  | .assets => .ok ⟨none, .listAssets, []⟩
  | .accountTypes => .ok ⟨none, .listAccountTypes, []⟩
  | .balances => .ok ⟨subaccount, .listBalances (given (Form.get? query "type")), []⟩
  | .subaccounts => .ok ⟨subaccount, .listSubaccounts, []⟩
  | .depositAddress => do
    discard (registry.account exchange subaccount)
    let symbol ← required (Form.get? query "symbol") "symbol"
    let network ← required (Form.get? query "network") "network"
    return ⟨subaccount, .getDepositAddress symbol network, []⟩
  | .withdrawalHistory => do
    discard (registry.account exchange subaccount)
    let limit ← limit (Form.get? query "limit")
    return ⟨subaccount, .listWithdrawalHistory limit (given (Form.get? query "page_token")), []⟩
  | .transfer => do
    discard (registry.account exchange subaccount)
    let asked ← decodeBody Transfer.ofBytes r.body
    let t ← checkTransfer registry exchange asked
    return ⟨subaccount, .accountTransfer t, [notedTransfer exchange subaccount t]⟩
  | .withdrawal => do
    discard (registry.account exchange subaccount)
    let asked ← decodeBody Withdrawal.ofBytes r.body
    let w ← checkWithdrawal asked
    return ⟨subaccount, .createWithdrawal w, [notedWithdrawal exchange subaccount w]⟩

end

end Countersign.Gateway
