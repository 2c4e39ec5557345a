import Countersign.Json.Record
import Countersign.Wire.Transfer

/-! What a gateway is told about itself, and its JSON form. -/
namespace Countersign

/-- A bearer token under a name; the token itself is named by a reference. -/
structure TokenEntry where
  id : String
  token : String
deriving DecidableEq, Repr

inductive KeyAlgorithm where
  | ed25519
deriving DecidableEq, Repr

/-- The public key of a caller. -/
structure KeyEntry where
  algorithm : KeyAlgorithm := .ed25519
  key : String
deriving DecidableEq, Repr

structure Subaccount where
  id : String
  nickname : Option String := none
deriving DecidableEq, Repr

structure Exchange where
  id : String
  subaccounts : List Subaccount := []
deriving DecidableEq, Repr

structure Settings where
  listen : String := "127.0.0.1:6333"
  publicRead : Bool := false
  tokens : List TokenEntry := []
  keys : List KeyEntry := []
  exchanges : List Exchange := []
deriving DecidableEq, Repr

/-- By id, or else by nickname. -/
def Exchange.subaccount? (e : Exchange) (name : String) : Option Subaccount :=
  (e.subaccounts.find? (·.id == name)).or (e.subaccounts.find? (·.nickname == some name))

open Json (Field string optional list bool)

namespace TokenEntry

def record : Json.Record TokenEntry where
  title := "BearerTokenConfig"
  blank := ⟨"", ""⟩
  fields :=
    [Field.of "id" true string fun v e => { e with id := v },
      Field.of "token" true string fun v e => { e with token := v }]

def toJson (e : TokenEntry) : Json.Value :=
  .object [("id", .string e.id), ("token", .string e.token)]

end TokenEntry

namespace KeyAlgorithm

def ofName? : String → Option KeyAlgorithm
  | "ed255" => some ed25519
  | "ed25519" => some ed25519
  | _ => none

def name : KeyAlgorithm → String
  | .ed25519 => "ed25519"

def reader : Json.Reader KeyAlgorithm := Json.variant ofName? "`ed255` or `ed25519`"

end KeyAlgorithm

namespace KeyEntry

def record : Json.Record KeyEntry where
  title := "PublicKeyConfig"
  blank := { key := "" }
  fields :=
    [Field.of "algorithm" false KeyAlgorithm.reader fun v e => { e with algorithm := v },
      Field.of "key" true string fun v e => { e with key := v }]

def toJson (e : KeyEntry) : Json.Value :=
  .object [("algorithm", .string e.algorithm.name), ("key", .string e.key)]

end KeyEntry

namespace Subaccount

def record : Json.Record Subaccount where
  title := "SubaccountConfig"
  blank := { id := "" }
  fields :=
    [Field.of "id" true string fun v s => { s with id := v },
      Field.of "alias" false (optional string) fun v s => { s with nickname := v }]

def toJson (s : Subaccount) : Json.Value :=
  .object (("id", .string s.id) :: Json.givenField "alias" s.nickname)

end Subaccount

namespace Exchange

def record : Json.Record Exchange where
  title := "ExchangeConfig"
  blank := { id := "" }
  fields :=
    [Field.of "id" true string fun v e => { e with id := v },
      Field.of "subaccounts" false (list Subaccount.record.reader) fun v e =>
        { e with subaccounts := v }]

def toJson (e : Exchange) : Json.Value :=
  .object [("id", .string e.id), ("subaccounts", .list (e.subaccounts.map Subaccount.toJson))]

end Exchange

namespace Settings

def record : Json.Record Settings where
  title := "ServerConfig"
  blank := {}
  fields :=
    [Field.of "listen" false string fun v s => { s with listen := v },
      Field.of "public_read_endpoints" false bool fun v s => { s with publicRead := v },
      Field.of "bearer_tokens" false (list TokenEntry.record.reader) fun v s =>
        { s with tokens := v },
      Field.of "public_keys" false (list KeyEntry.record.reader) fun v s => { s with keys := v },
      Field.of "exchanges" false (list Exchange.record.reader) fun v s => { s with exchanges := v }]

def toJson (s : Settings) : Json.Value :=
  .object
    [("listen", .string s.listen), ("public_read_endpoints", .bool s.publicRead),
      ("bearer_tokens", .list (s.tokens.map TokenEntry.toJson)),
      ("public_keys", .list (s.keys.map KeyEntry.toJson)),
      ("exchanges", .list (s.exchanges.map Exchange.toJson))]

def ofBytes (bytes : Bytes) : Except Json.Fault Settings := Json.whole record.reader bytes

end Settings

end Countersign
