import Countersign.Surroundings
import Countersign.Text.Blank
import Countersign.Text.Split

/-! References to secrets: a kind, a colon, and where to look. -/
namespace Countersign.Secret

inductive Fault where
  | noKind
  | notSet (name : String)
  | unreadable (path : String) (why : FileFault)
  | unsupported (kind : String)
  | unknownKind (kind : String)
deriving DecidableEq, Repr

def Fault.message : Fault → String
  | .noKind =>
    "missing prefix; secret should be in '<prefix>:<argument>' format, " ++
      "where prefix is one of env, file, raw"
  | .notSet name => s!"{name} not set"
  | .unreadable path why =>
    let reason := why.message
    s!"failed to read {path}: {reason}"
  | .unsupported kind => s!"secret backend '{kind}' is not supported by this build"
  | .unknownKind kind => s!"unknown secret type '{kind}'"

/-- Where a reference leads. -/
inductive Source where
  | literal (text : String)
  | env (name : String)
  | file (path : String)
deriving DecidableEq, Repr

/-- Kinds that are known and not served. -/
def foreignKinds : List String := ["vault", "gcp", "gsm", "aws", "keyring"]

/-- Kinds are read in any case. The argument ends at the first comma. -/
def Source.ofReference (reference : String) : Except Fault Source :=
  match Text.cut ':' reference.toList with
  | none => .error .noKind
  | some (kind, rest) =>
    let argument := String.ofList (rest.takeWhile (· != ','))
    let kind := Text.lower (String.ofList kind)
    match kind with
    | "raw" => .ok (.literal argument)
    | "env" => .ok (.env argument)
    | "file" => .ok (.file argument)
    | _ =>
      if foreignKinds.contains kind then .error (.unsupported kind) else .error (.unknownKind kind)

/-- A tilde at the front is the home directory, unless it stands alone. -/
def expandHome (home : Option String) (path : String) : String :=
  match path.toList, home with
  | '~' :: c :: rest, some home => home ++ String.ofList (c :: rest)
  | _, _ => path

/-- What a source holds, as it stands there. -/
def Source.read (around : Surroundings) : Source → Except Fault String
  | .literal text => .ok text
  | .env name =>
    match around.env name with
    | some text => .ok text
    | none => .error (.notSet name)
  | .file argument =>
    let path := expandHome around.home argument
    (around.text path).mapError (.unreadable path)

/-- The secret that a reference stands for, without blanks around it. -/
def load (around : Surroundings) (reference : String) : Except Fault String := do
  let source ← Source.ofReference reference
  let text ← source.read around
  return Text.trim text

end Countersign.Secret
