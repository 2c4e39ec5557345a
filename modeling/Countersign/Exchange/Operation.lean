import Countersign.Settings.Basic
import Countersign.Wire.Withdrawal

/-! What can be asked of an exchange, and for which account. -/
namespace Countersign

inductive Operation where
  | listAssets
  | listAccountTypes
  | listBalances (accountType : Option String)
  | getDepositAddress (symbol network : String)
  | listSubaccounts
  | listWithdrawalHistory (limit : Option Nat) (pageToken : Option String)
  | accountTransfer (transfer : Transfer)
  | createWithdrawal (withdrawal : Withdrawal)
deriving DecidableEq, Repr

namespace Operation

/-- Whether the operation moves funds. -/
def isWrite : Operation → Bool
  | accountTransfer _ => true
  | createWithdrawal _ => true
  | _ => false

def name : Operation → String
  | listAssets => "list assets"
  | listAccountTypes => "list account types"
  | listBalances _ => "list balances"
  | getDepositAddress _ _ => "get deposit address"
  | listSubaccounts => "list subaccounts"
  | listWithdrawalHistory _ _ => "list withdrawal history"
  | accountTransfer _ => "create account transfer"
  | createWithdrawal _ => "create withdrawal"

def tag : Operation → String
  | listAssets => "list_assets"
  | listAccountTypes => "list_account_types"
  | listBalances _ => "list_balances"
  | getDepositAddress _ _ => "get_deposit_address"
  | listSubaccounts => "list_subaccounts"
  | listWithdrawalHistory _ _ => "list_withdrawal_history"
  | accountTransfer _ => "account_transfer"
  | createWithdrawal _ => "create_withdrawal"

def fields : Operation → List (String × Json.Value)
  | listBalances accountType => [("account_type", Json.nullable accountType)]
  | getDepositAddress symbol network => [("symbol", .string symbol), ("network", .string network)]
  | listWithdrawalHistory limit pageToken =>
    [("limit", (limit.map fun n => Json.Value.int n).getD .null),
      ("page_token", Json.nullable pageToken)]
  | accountTransfer transfer => transfer.fields
  | createWithdrawal withdrawal => withdrawal.fields
  | _ => []

def toJson (operation : Operation) : Json.Value :=
  .object (("operation", .string operation.tag) :: operation.fields)

end Operation

/-- The main account of an exchange, or one of its sub-accounts. -/
structure Account where
  exchange : String
  subaccount : Option Subaccount
deriving DecidableEq, Repr

end Countersign
