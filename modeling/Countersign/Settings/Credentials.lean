import Countersign.Access.Policy
import Countersign.Settings.Check

/-! The tokens and keys that settings name, all of them or none. -/
namespace Countersign.Settings

/-- Finds the secret that a reference stands for, and puts into words why it cannot. -/
structure Resolver (ε : Type) where
  load : String → Except ε String
  message : ε → String

/-- The resolver that programs start with. -/
def Resolver.standard (around : Surroundings) : Resolver Secret.Fault where
  load := Secret.load around
  message := secretMessage

/-- The key with this index among all. -/
def verifierOf (index : Nat) (entry : KeyEntry) : Except Fault Verifier :=
  match entry.algorithm with
  | .ed25519 =>
    match VerifyingKey.ofHex entry.key with
    | .ok key => .ok key.verifier
    | .error why => .error (.badKey index why)

def verifiersFrom (index : Nat) : List KeyEntry → Except Fault (List Verifier)
  | [] => .ok []
  | entry :: rest => do
    let verifier ← verifierOf index entry
    let verifiers ← verifiersFrom (index + 1) rest
    return verifier :: verifiers

def verifiers (s : Settings) : Except Fault (List Verifier) := verifiersFrom 0 s.keys

section

variable {ε : Type} (resolver : Resolver ε)

def tokenOf (entry : TokenEntry) : Except Fault Access.Token :=
  match resolver.load entry.token with
  | .error why => .error (.tokenNotLoaded entry.id (resolver.message why))
  | .ok secret => if secret.isEmpty then .error (.emptyToken entry.id) else .ok ⟨entry.id, secret⟩

def tokensOf (s : Settings) : Except Fault (List Access.Token) := s.tokens.mapM (tokenOf resolver)

/-- Tokens come first: where both are at fault, a token is reported. -/
def policy (s : Settings) : Except Fault Access.Policy := do
  let tokens ← s.tokensOf resolver
  let verifiers ← s.verifiers
  return ⟨tokens, verifiers, s.publicRead⟩

end

/-- What is noted about a policy: which routes nobody can reach. -/
def notedPolicy (p : Access.Policy) : List Event :=
  let unreadable := p.tokens.isEmpty && p.verifiers.isEmpty && !p.publicRead
  (if unreadable then
    [⟨.warn, "no authentication means configured, read endpoints will be unreachable", []⟩]
  else []) ++
  (if p.verifiers.isEmpty then
    [⟨.warn, "no public keys configured, write endpoints will be unreachable", []⟩]
  else [])

end Countersign.Settings
