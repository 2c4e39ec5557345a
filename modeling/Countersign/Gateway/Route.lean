import Countersign.Access.Policy
import Countersign.Url.Percent

/-! What the gateway can be asked for, and at which path. -/
namespace Countersign.Gateway

/-- What is asked of an exchange. -/
inductive Route where
  | assets
  | accountTypes
  | balances
  | depositAddress
  | subaccounts
  | withdrawalHistory
  | transfer
  | withdrawal
deriving DecidableEq, Repr

namespace Route

def all : List Route :=
  [assets, accountTypes, balances, depositAddress, subaccounts, withdrawalHistory, transfer,
    withdrawal]

/-- The last segment of the path. -/
def resource : Route → String
  | assets => "assets"
  | accountTypes => "account-types"
  | balances => "balances"
  | depositAddress => "deposit-address"
  | subaccounts => "subaccounts"
  | withdrawalHistory => "withdrawal-history"
  | transfer => "account-transfer"
  | withdrawal => "withdrawal"

def kind : Route → Access.RouteClass
  | assets => .reference
  | accountTypes => .reference
  | transfer => .write
  | withdrawal => .write
  | _ => .read

def ofResource? (name : String) : Option Route := all.find? (·.resource == name)

end Route

/-- A path that leads somewhere. The segment of the exchange is kept as it came. -/
inductive Place where
  | health
  | exchange (segment : String) (route : Route)
deriving DecidableEq, Repr

namespace Place

def ofPath? (path : String) : Option Place :=
  match Text.fields '/' path with
  | ["", "health"] => some .health
  | ["", "v1", "exchanges", segment, resource] =>
    (Route.ofResource? resource).map (.exchange segment)
  | _ => none

/-- Writes are posted, all else is got. -/
def isPosted : Place → Bool
  | .health => false
  | .exchange _ route => route.kind == .write

/-- What may be got may also be asked for its headers alone. -/
def allows (p : Place) (method : String) : Bool :=
  if p.isPosted then method == "POST" else method == "GET" || method == "HEAD"

def allowed (p : Place) : String := if p.isPosted then "POST" else "GET,HEAD"

end Place

/-- The id that a segment writes; `none` if that is no text. -/
def exchangeId? (segment : String) : Option String :=
  Utf8.decode? (Percent.decode (bytesOf segment))

theorem ofResource?_resource (route : Route) : Route.ofResource? route.resource = some route := by
  cases route <;> decide

end Countersign.Gateway
