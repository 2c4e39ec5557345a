import Countersign.Secret
import Countersign.Settings.Basic
import Countersign.Signature.Key
import Countersign.Text.Number

/-! What can be wrong with settings, and the check that names are unique. -/
namespace Countersign

namespace Settings

inductive Fault where
  | noPath
  | badToml
  | unknownExtension (extension : String)
  | noExtension
  | emptyTokenId
  | duplicateToken (id : String)
  | emptyExchangeId
  | duplicateExchange (id : String)
  | duplicateSubaccount (name exchange : String)
  | tokenNotLoaded (id reason : String)
  | emptyToken (id : String)
  | badKey (index : Nat) (why : Key.Fault)
deriving DecidableEq, Repr

end Settings

/-- Why a program cannot start its work. -/
inductive Failure where
  | file (why : FileFault)
  | json (reason : String)
  | settings (why : Settings.Fault)
  | secret (why : Secret.Fault)
  | key (why : Key.Fault)
deriving DecidableEq, Repr

def secretMessage (why : Secret.Fault) : String := "Secret error: " ++ why.message

def keyMessage (why : Key.Fault) : String := "Key error: " ++ why.message

namespace Settings

/-- The variable that names the file when nothing else does. -/
def pathVariable : String := "OFFCHAIN_CONFIG"

def Fault.message : Fault → String
  | .noPath => s!"config path is required (maybe set {pathVariable})"
  | .badToml => "TOML parsing"
  | .unknownExtension extension => s!"unrecognized extension '{extension}'"
  | .noExtension => "failed figuring out file extension"
  | .emptyTokenId => "bearer token id must not be empty"
  | .duplicateToken id => s!"duplicate bearer token id '{id}'"
  | .emptyExchangeId => "exchange id must not be empty"
  | .duplicateExchange id => s!"duplicate exchange '{id}'"
  | .duplicateSubaccount name exchange => s!"duplicate sub-account '{name}' on exchange '{exchange}'"
  | .tokenNotLoaded id reason => s!"failed to load bearer token {id}: {reason}"
  | .emptyToken id => s!"bearer token {id} resolved to an empty value"
  | .badKey index why =>
    let reason := keyMessage why
    s!"failed to create ed25519 verifier {index}: {reason}"

end Settings

def Failure.message : Failure → String
  | .file why => "IO error: " ++ why.message
  | .json reason => "JSON error: " ++ reason
  | .settings why => "Configuration error: " ++ why.message
  | .secret why => secretMessage why
  | .key why => keyMessage why

/-- What lies behind a failure, where that is told on its own. -/
def Failure.causes : Failure → List String
  | .file why => [why.message]
  | .json reason => [reason]
  | _ => []

namespace Settings

/-- The first name that stands earlier in the list too. -/
def firstRepeated (seen : List String) : List String → Option String
  | [] => none
  | name :: rest => if seen.contains name then some name else firstRepeated (name :: seen) rest

def checkTokens (seen : List String) : List TokenEntry → Except Fault Unit
  | [] => .ok ()
  | entry :: rest =>
    if entry.id.isEmpty then .error .emptyTokenId
    else if seen.contains entry.id then .error (.duplicateToken entry.id)
    else checkTokens (entry.id :: seen) rest

/-- Ids and other names of an exchange's sub-accounts, in order. -/
def subaccountNames (e : Exchange) : List String :=
  e.subaccounts.flatMap fun s => s.id :: s.nickname.toList

def checkExchanges (seen : List String) : List Exchange → Except Fault Unit
  | [] => .ok ()
  | e :: rest =>
    if e.id.isEmpty then .error .emptyExchangeId
    else if seen.contains e.id then .error (.duplicateExchange e.id)
    else match firstRepeated [] (subaccountNames e) with
      | some name => .error (.duplicateSubaccount name e.id)
      | none => checkExchanges (e.id :: seen) rest

/-- Ids are not empty, and no name stands for two things. -/
def check (s : Settings) : Except Fault Unit := do
  checkTokens [] s.tokens
  checkExchanges [] s.exchanges

theorem firstRepeated_eq_none_iff {seen names : List String} :
    firstRepeated seen names = none ↔ names.Nodup ∧ ∀ name ∈ names, name ∉ seen := by
  induction names generalizing seen with
  | nil => simp [firstRepeated]
  | cons name rest ih =>
    by_cases h : name ∈ seen
    · simp [firstRepeated, h]
    · simp only [firstRepeated, List.contains_iff_mem, h, if_false, ih, List.nodup_cons,
        List.mem_cons, not_or, forall_eq_or_imp, not_false_eq_true, true_and]
      constructor
      · rintro ⟨distinct, fresh⟩
        exact ⟨⟨fun inside => (fresh name inside).1 rfl, distinct⟩, fun n hn => (fresh n hn).2⟩
      · rintro ⟨⟨outside, distinct⟩, fresh⟩
        exact ⟨distinct, fun n hn => ⟨fun same => outside (same ▸ hn), fresh n hn⟩⟩

end Settings

end Countersign
