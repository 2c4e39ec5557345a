import Countersign.Gateway.Route
import Countersign.Text.Number
import Countersign.Wire.Amount
import Countersign.Wire.Withdrawal

/-! What a client asks a gateway about an exchange, and the request that says so. -/
namespace Countersign.Client

inductive Ask where
  | assets
  | accountTypes
  | balances (accountType : Option String)
  | depositAddress (symbol network : String)
  | subaccounts
  | withdrawalHistory (limit : Option Nat) (pageToken : Option String)
  | transfer (t : Transfer)
  | withdrawal (w : Withdrawal)
deriving DecidableEq, Repr

namespace Ask

def route : Ask → Gateway.Route
  | assets => .assets
  | accountTypes => .accountTypes
  | balances _ => .balances
  | depositAddress _ _ => .depositAddress
  | subaccounts => .subaccounts
  | withdrawalHistory _ _ => .withdrawalHistory
  | transfer _ => .transfer
  | withdrawal _ => .withdrawal

def pair (name : String) (value : Option String) : List (String × String) :=
  match value with
  | none => []
  | some value => [(name, value)]

/-- Only what is given is asked. -/
def query : Ask → List (String × String)
  | balances accountType => pair "type" accountType
  | depositAddress symbol network => [("symbol", symbol), ("network", network)]
  | withdrawalHistory limit pageToken =>
    pair "limit" (limit.map fun n => Text.ofInt n) ++ pair "page_token" pageToken
  | _ => []

def body? : Ask → Option Bytes
  | transfer t => some (bytesOf t.toJson.compact)
  | withdrawal w => some (bytesOf w.toJson.compact)
  | _ => none

def method (ask : Ask) : String := if ask.body?.isSome then "POST" else "GET"

/-- The amount that the request would move. -/
def amount? : Ask → Option String
  | transfer t => some t.amount
  | withdrawal w => some w.amount
  | _ => none

end Ask

/-- Why an amount is not even sent. -/
inductive AmountFault where
  | zero
  | invalid (why : Amount.Fault)
deriving DecidableEq, Repr

def AmountFault.message : AmountFault → String
  | .zero => "amount must be greater than 0"
  | .invalid why => why.message

/-- Only positive amounts are sent. -/
def checkAmount (amount : String) : Except AmountFault Unit :=
  match Amount.isZero amount with
  | .ok false => .ok ()
  | .ok true => .error .zero
  | .error why => .error (.invalid why)

/-- The path of a resource of an exchange. The name of the exchange is put in as it is. -/
def exchangePath (exchange : String) (route : Gateway.Route) : String :=
  "/v1/exchanges/" ++ exchange ++ "/" ++ route.resource

end Countersign.Client
