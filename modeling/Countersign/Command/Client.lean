import Countersign.Client.Prepare
import Countersign.Command.Arguments
import Countersign.Command.Keys

/-! The client's command line. -/
namespace Countersign.Command

/-- How a program ends, and what it wrote. -/
structure Outcome where
  exit : Nat
  stdout : String := ""
  stderr : String := ""
deriving DecidableEq, Repr

namespace Outcome

def printed (text : String) : Outcome := { exit := 0, stdout := text }

/-- A failure on one line, what lies behind it after it. -/
def failed (reasons : List String) : Outcome :=
  { exit := 1, stderr := "Error: " ++ ": ".intercalate reasons ++ "\n" }

def halted (program usage : String) : Halt → Outcome
  | .version => printed (program ++ " 0.1.0\n")
  | .help => printed usage
  | .usage => { exit := 2, stderr := usage }

end Outcome

/-- What the client is to do. -/
inductive Task where
  | generateKey
  | showPublicKey (reference : String)
  | ask (exchange : String) (ask : Client.Ask)
deriving DecidableEq, Repr

structure ClientArguments where
  url : String
  bearer : Option String
  signingKey : Option String
  subAccount : Option String
  task : Task
deriving DecidableEq, Repr

def clientUsage : String :=
  "Offchain gateway CLI\n\nUsage: oc [OPTIONS] <COMMAND>\n\nCommands: keys, assets, account-types, " ++
    "balances, deposit-address, subaccounts, withdrawal-history, transfer, withdraw\n"

def anyValue (_ : String) : Bool := true

def isBelow (bound : Nat) (value : String) : Bool := (Text.below? bound value).isSome

def clientTakes : Takes where
  options := [("url", anyValue), ("bearer", anyValue), ("signing-key", anyValue),
    ("sub-account", anyValue), ("timeout", isBelow (Nat.pow 2 64)), ("log-level", anyValue)]
  subcommands := true
  version := true

/-- The one word of a command about an exchange, with the options that it takes. -/
def exchangeWord (options : List (String × (String → Bool))) (args : List String) :
    Except Halt (String × Given) := do
  let given ← scan { options, words := 1 } {} args
  match given.words with
  | [exchange] => return (exchange, given)
  | _ => throw .usage

def named (names : List String) : List (String × (String → Bool)) := names.map (·, anyValue)

def keysTask (args : List String) : Except Halt Task := do
  let given ← scan { options := [], subcommands := true } {} args
  match given.rest with
  | "generate" :: rest =>
    discard (scan { options := [] } {} rest)
    return .generateKey
  | "public" :: rest =>
    let given ← scan { options := named ["secret"] } {} rest
    return .showPublicKey (← given.need "secret")
  | ["help"] => throw .help
  | ["help", name] => throw (if ["generate", "public", "help"].contains name then .help else .usage)
  | _ => throw .usage

def taskNames : List String :=
  ["keys", "assets", "account-types", "balances", "deposit-address", "subaccounts",
    "withdrawal-history", "transfer", "withdraw", "help"]

/-- A subcommand and its own arguments. -/
def taskOf (name : String) (args : List String) : Except Halt Task := do
  match name with
  | "keys" => keysTask args
  | "assets" =>
    let (exchange, _) ← exchangeWord [] args
    return .ask exchange .assets
  | "account-types" =>
    let (exchange, _) ← exchangeWord [] args
    return .ask exchange .accountTypes
  | "balances" =>
    let (exchange, given) ← exchangeWord (named ["type"]) args
    return .ask exchange (.balances (given.value? "type"))
  | "deposit-address" =>
    let (exchange, given) ← exchangeWord (named ["symbol", "network"]) args
    return .ask exchange (.depositAddress (← given.need "symbol") (← given.need "network"))
  | "subaccounts" =>
    let (exchange, _) ← exchangeWord [] args
    return .ask exchange .subaccounts
  | "withdrawal-history" =>
    let (exchange, given) ←
      exchangeWord [("limit", isBelow (Nat.pow 2 32)), ("page-token", anyValue)] args
    let limit := (given.value? "limit").bind (Text.below? (Nat.pow 2 32))
    return .ask exchange (.withdrawalHistory limit (given.value? "page-token"))
  | "transfer" =>
    let (exchange, given) ←
      exchangeWord (named ["symbol", "amount", "from", "to", "from-type", "to-type"]) args
    return .ask exchange (.transfer {
      symbol := some (← given.need "symbol")
      amount := ← given.need "amount"
      source := given.value? "from"
      target := given.value? "to"
      sourceType := given.value? "from-type"
      targetType := given.value? "to-type" })
  | "withdraw" =>
    let (exchange, given) ← exchangeWord (named ["address", "symbol", "network", "amount"]) args
    return .ask exchange (.withdrawal {
      address := ← given.need "address"
      symbol := some (← given.need "symbol")
      network := some (← given.need "network")
      amount := ← given.need "amount" })
  | "help" =>
    match args with
    | [] => throw .help
    | name :: _ => throw (if taskNames.contains name then .help else .usage)
  | _ => throw .usage

/-- What the command line leaves open, the environment may say. -/
def clientArguments (around : Surroundings) (args : List String) : Except Halt ClientArguments := do
  let given ← scan clientTakes {} args
  match given.rest with
  | [] => throw .usage
  | name :: rest =>
    let task ← taskOf name rest
    let chosen (option env : String) := (given.value? option).or (around.env env)
    return {
      url := (chosen "url" "OFFCHAIN_URL").getD "http://127.0.0.1:6333"
      bearer := chosen "bearer" "OFFCHAIN_BEARER"
      signingKey := chosen "signing-key" "OFFCHAIN_SIGNING_KEY"
      subAccount := given.value? "sub-account"
      task }

/-- The client with the credentials that the arguments refer to, or what went wrong. -/
def clientOf (around : Surroundings) (a : ClientArguments) : Except (List String) Client := do
  let token ← match a.bearer with
    | none => pure none
    | some reference =>
      match Secret.load around reference with
      | .ok token => pure (some token)
      | .error why => throw ["Failed to load bearer token", (Failure.secret why).message]
  let signer ← match a.signingKey with
    | none => pure none
    | some reference =>
      match signingKey around reference with
      | .ok key => pure (some key.signer)
      | .error why => throw why.reasons
  return Client.new a.url token signer a.subAccount

def outcomeOf (result : Except (List String) String) : Outcome :=
  match result with
  | .ok text => .printed text
  | .error reasons => .failed reasons

/-- An answer as it is printed. -/
def answerText (value : Json.Value) : String := value.pretty ++ "\n"

/-- Carries out a task at a time. `fresh` is the key to show when a new one is asked for. -/
def carryOut (around : Surroundings) (transport : Client.Transport) (now : Int) (fresh : SigningKey)
    (a : ClientArguments) : Outcome :=
  match a.task with
  | .generateKey => .printed (newKeyText fresh)
  | .showPublicKey reference =>
    outcomeOf (((publicKeyOf around reference).mapError KeyFault.reasons).map (· ++ "\n"))
  | .ask exchange ask =>
    outcomeOf do
      let client ← clientOf around a
      let value ← (client.ask transport now exchange ask).mapError Client.Fault.reasons
      return answerText value

def client (around : Surroundings) (transport : Client.Transport) (now : Int) (fresh : SigningKey)
    (args : List String) : Outcome :=
  match clientArguments around args with
  | .error halt => .halted "oc" clientUsage halt
  | .ok a => carryOut around transport now fresh a

end Countersign.Command
