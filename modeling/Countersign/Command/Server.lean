import Countersign.Command.Client
import Countersign.Exchange.Registry
import Countersign.Gateway.Serve
import Countersign.Settings.Credentials
import Countersign.Settings.Load

/-! The gateway's command line, up to the moment when it listens. -/
namespace Countersign.Command

structure ServerArguments where
  config : Option String
  listen : Option String
  publicRead : Bool
deriving DecidableEq, Repr

def serverUsage : String :=
  "Offchain exchange gateway\n\nUsage: oc-server [OPTIONS]\n\nOptions: --config, --listen, " ++
    "--public-read-endpoints, --log-level\n"

def serverTakes : Takes where
  options := named ["config", "listen", "log-level"]
  flags := ["public-read-endpoints"]
  version := true

def serverArguments (args : List String) : Except Halt ServerArguments := do
  let given ← scan serverTakes {} args
  return {
    config := given.value? "config"
    listen := given.value? "listen"
    publicRead := given.flags.contains "public-read-endpoints" }

/-- A failure and, numbered if there are several, what lies behind it. -/
def report (reasons : List String) : Outcome :=
  let text := match reasons with
    | [] => "Error: \n"
    | [reason] => "Error: " ++ reason ++ "\n"
    | [reason, cause] => "Error: " ++ reason ++ "\n\nCaused by:\n    " ++ cause ++ "\n"
    | reason :: causes =>
      let numbered := causes.zipIdx.map fun (cause, i) => s!"    {i}: {cause}\n"
      "Error: " ++ reason ++ "\n\nCaused by:\n" ++ String.join numbered
  { exit := 1, stderr := text }

/-- Why an address cannot be listened on, as far as its text tells. -/
def listenFault (listen : String) : Option String :=
  match Text.cutLast ':' listen.toList with
  | none => some "invalid socket address"
  | some (_, port) =>
    if (Text.below? 65536 (String.ofList port)).isNone then some "invalid port value" else none

/-- The settings from the file, with what the arguments override. -/
def settingsOf (around : Surroundings) (a : ServerArguments) : Except (List String) Settings := do
  let path ← (Settings.resolvePath around a.config).mapError fun why =>
    [(Failure.settings why).message]
  let s ← (Settings.load around path).mapError fun failure =>
    ("could not read configuration " ++ path) :: failure.message :: failure.causes
  return {
    s with
    listen := a.listen.getD s.listen
    publicRead := a.publicRead || s.publicRead }

/-- A gateway that is ready to listen. -/
structure Ready where
  listen : String
  gateway : Gateway

/-- Loads settings and credentials. Any failure ends the start. -/
def start (around : Surroundings) (a : ServerArguments) : Except (List String) Ready := do
  let s ← settingsOf around a
  let policy ← (s.policy (.standard around)).mapError fun why =>
    ["failed to load credentials", (Failure.settings why).message]
  match listenFault s.listen with
  | some reason => throw ["failed to bind " ++ s.listen, reason]
  | none => return ⟨s.listen, ⟨policy, Registry.ofSettings s⟩⟩

/-- `listen` says why an address is not to be had, if it is not. -/
def server (around : Surroundings) (listen : String → Option String) (args : List String) : Outcome :=
  match serverArguments args with
  | .error halt => .halted "oc-server" serverUsage halt
  | .ok a =>
    match start around a with
    | .error reasons => report reasons
    | .ok ready =>
      match listen ready.listen with
      | some reason => report ["failed to bind " ++ ready.listen, reason]
      | none => .printed ""

end Countersign.Command
