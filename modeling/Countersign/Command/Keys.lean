import Countersign.Settings.Check

/-! Making signing keys and showing their public halves. -/
namespace Countersign.Command

/-- Loading the key failed, or the text that was loaded is no key. -/
inductive KeyFault where
  | notLoaded (why : Secret.Fault)
  | notKey (why : Key.Fault)
deriving DecidableEq, Repr

def KeyFault.reasons : KeyFault → List String
  | .notLoaded why => ["Failed to load signing key", (Failure.secret why).message]
  | .notKey why => [(Failure.key why).message]

/-- The signing key that a reference leads to. -/
def signingKey (around : Surroundings) (reference : String) : Except KeyFault SigningKey :=
  match Secret.load around reference with
  | .error why => .error (.notLoaded why)
  | .ok text => (SigningKey.ofHex text).mapError .notKey

def publicKeyOf (around : Surroundings) (reference : String) : Except KeyFault String :=
  (signingKey around reference).map SigningKey.publicHex

/-- What is shown of a new key. -/
def newKeyText (key : SigningKey) : String :=
  "Signing key generated.\n\n  Private key: " ++ key.toHex ++ "\n  Public key:  " ++ key.publicHex ++
    "\n\nAdd the public key to public_keys in the gateway configuration.\n" ++
    "WARNING: Save the private key securely. It will not be shown again.\n"

end Countersign.Command
