import Countersign.Event
import Countersign.Settings.Check
import Countersign.Toml.Document

/-! Reading settings from a file. The extension of its name picks the format. -/
namespace Countersign

namespace Settings

/-! ### From TOML. Unknown names are passed over. A record may also be an array of its values in the
order of the fields; what such an array has beyond them is passed over as well. -/

open Toml (Value)

/-- Where the values of a record's fields come from. -/
inductive Parts where
  | named (entries : List (String × Value))
  | ordered (items : List Value)

def partsOf? : Value → Option Parts
  | .table _ entries => some (.named entries)
  | .array items => some (.ordered items)
  | _ => none

/-- The value of the field with this name and index. -/
def Parts.get? (parts : Parts) (name : String) (index : Nat) : Option Value :=
  match parts with
  | .named entries => entries.lookup name
  | .ordered items => items[index]?

def asString? : Value → Option String
  | .string s => some s
  | _ => none

def asBool? : Value → Option Bool
  | .bool b => some b
  | _ => none

def asList? {α : Type} (read : Value → Option α) : Value → Option (List α)
  | .array items => items.mapM read
  | _ => none

/-- A field that has to be there. -/
def need {α : Type} (parts : Parts) (name : String) (index : Nat) (read : Value → Option α) :
    Option α :=
  (parts.get? name index).bind read

/-- A field that may be absent, but not wrong. -/
def may {α : Type} (parts : Parts) (name : String) (index : Nat) (default : α)
    (read : Value → Option α) : Option α :=
  match parts.get? name index with
  | none => some default
  | some v => read v

def isHollow : Value → Bool
  | .table _ [] => true
  | .array [] => true
  | _ => false

/-- By name, or as a table whose first entry has the name and nothing in it. Between braces that entry
is the only one. -/
def algorithmOf? : Value → Option KeyAlgorithm
  | .string name => KeyAlgorithm.ofName? name
  | .table true (_ :: _ :: _) => none
  | .table _ ((name, v) :: _) => if isHollow v then KeyAlgorithm.ofName? name else none
  | _ => none

def tokenOf? (v : Value) : Option TokenEntry := do
  let parts ← partsOf? v
  return { id := ← need parts "id" 0 asString?, token := ← need parts "token" 1 asString? }

def keyOf? (v : Value) : Option KeyEntry := do
  let parts ← partsOf? v
  return {
    algorithm := ← may parts "algorithm" 0 .ed25519 algorithmOf?
    key := ← need parts "key" 1 asString? }

def subaccountOf? (v : Value) : Option Subaccount := do
  let parts ← partsOf? v
  return {
    id := ← need parts "id" 0 asString?
    nickname := ← may parts "alias" 1 none fun v => (asString? v).map some }

def exchangeOf? (v : Value) : Option Exchange := do
  let parts ← partsOf? v
  return {
    id := ← need parts "id" 0 asString?
    subaccounts := ← may parts "subaccounts" 1 [] (asList? subaccountOf?) }

def ofTable? (entries : List (String × Value)) : Option Settings :=
  let parts := Parts.named entries
  let standard : Settings := {}
  return {
    listen := ← may parts "listen" 0 standard.listen asString?
    publicRead := ← may parts "public_read_endpoints" 1 standard.publicRead asBool?
    tokens := ← may parts "bearer_tokens" 2 [] (asList? tokenOf?)
    keys := ← may parts "public_keys" 3 [] (asList? keyOf?)
    exchanges := ← may parts "exchanges" 4 [] (asList? exchangeOf?) }

/-! ### From a file -/

/-- The file that is asked for, or else the one that the environment names. -/
def resolvePath (around : Surroundings) (explicit : Option String) : Except Fault String :=
  match explicit with
  | some path => .ok path
  | none =>
    match around.env pathVariable with
    | none => .error .noPath
    | some path => if path.isEmpty then .error .noPath else .ok path

/-- The last part of a path that is a name. Slashes at the end and dots alone count for nothing. -/
def fileName? (path : String) : Option String :=
  let names := (Text.fields '/' path).filter fun name => !name.isEmpty && name != "."
  names.getLast?.filter (· != "..")

/-- What follows the last point of the name, unless the name begins there. -/
def extension? (path : String) : Option String := do
  let name ← fileName? path
  let (before, after) ← Text.cutLast '.' name.toList
  if before.isEmpty then none else return String.ofList after

def ofText (path text : String) : Except Failure Settings :=
  match extension? path with
  | some "toml" =>
    match (Toml.parse text).bind ofTable? with
    | some s => .ok s
    | none => .error (.settings .badToml)
  | some "json" =>
    let bytes := bytesOf text
    (ofBytes bytes).mapError fun fault => .json (fault.message bytes)
  | some extension => .error (.settings (.unknownExtension extension))
  | none => .error (.settings .noExtension)

/-- Reads and checks the settings in a file. -/
def load (around : Surroundings) (path : String) : Except Failure Settings := do
  let text ← (around.text path).mapError Failure.file
  let s ← ofText path text
  (check s).mapError Failure.settings
  return s

def notedLoad (path : String) : Event := ⟨.info, "loaded configuration", [("config", path)]⟩

end Settings

end Countersign
