import Countersign.Command.Server
import Std.Time.DateTime.Timestamp

/-! The program. With `serve` in front the arguments start the gateway, else they are the client's.
It looks at its surroundings first and leaves all decisions to the commands. It opens no connections:
the client reaches nothing, and the gateway ends when it would listen. -/
namespace Countersign.Program

def fileFaultOf : IO.Error → FileFault
  | .noFileOrDirectory .. => .notFound
  | .permissionDenied .. => .notPermitted
  | .inappropriateType .. => .isDirectory
  | e => .other (toString e)

def readPath (path : String) : IO (String × Except FileFault Bytes) := do
  try
    let content ← IO.FS.readBinFile path
    return (path, .ok content.data.toList)
  catch e => return (path, .error (fileFaultOf e))

def readVariable (name : String) : IO (String × Option String) := do
  return (name, ← IO.getEnv name)

/-- Looks at these variables and files, and at those that the references lead to. -/
def look (names paths references : List String) : IO Surroundings := do
  let home ← IO.getEnv "HOME"
  let sources := references.filterMap fun r => (Secret.Source.ofReference r).toOption
  let more := sources.filterMap fun source =>
    match source with
    | .env name => some name
    | _ => none
  let files := sources.filterMap fun source =>
    match source with
    | .file path => some (Secret.expandHome home path)
    | _ => none
  let values ← (names ++ more).mapM readVariable
  let contents ← (paths ++ files).mapM readPath
  return {
    env := fun name => (values.lookup name).getD none
    file := fun path => (contents.lookup path).getD (.error .notFound)
    home }

/-- Settings first, since they say which secrets to look at. -/
def serve (args : List String) : IO Command.Outcome := do
  let names := [Settings.pathVariable]
  let around ← look names [] []
  let path := (Command.serverArguments args).toOption.bind fun a =>
    (Settings.resolvePath around a.config).toOption
  let around ← look names path.toList []
  let settings := path.bind fun path => (Settings.load around path).toOption
  let references := (settings.map fun s => s.tokens.map TokenEntry.token).getD []
  let around ← look names path.toList references
  return Command.server around (fun _ => some "Address not available") args

def freshKey : IO SigningKey := do
  let seed := (← IO.getRandomBytes 32).data.toList
  if h : seed.length = 32 then return ⟨seed, h⟩
  else throw (IO.userError "too few random bytes")

def client (args : List String) : IO Command.Outcome := do
  let names := ["OFFCHAIN_URL", "OFFCHAIN_BEARER", "OFFCHAIN_SIGNING_KEY"]
  let around ← look names [] []
  let references := match Command.clientArguments around args with
    | .error _ => []
    | .ok a =>
      match a.task with
      | .showPublicKey reference => [reference]
      | _ => a.bearer.toList ++ a.signingKey.toList
  let around ← look names [] references
  let now ← Std.Time.Timestamp.now
  return Command.client around Client.unreachable now.toSecondsSinceUnixEpoch.val (← freshKey) args

end Countersign.Program

def main (args : List String) : IO UInt32 := do
  let outcome ← match args with
    | "serve" :: rest => Countersign.Program.serve rest
    | _ => Countersign.Program.client args
  IO.print outcome.stdout
  IO.eprint outcome.stderr
  return UInt32.ofNat outcome.exit
