import Countersign.Json.Record
import Countersign.Json.Value

/-! The body of a transfer between accounts. -/
namespace Countersign

/-- Sides are sub-accounts by id or alias; an empty or absent side is the main account. Types name
kinds of account. -/
structure Transfer where
  symbol : Option String := none
  amount : String := ""
  source : Option String := none
  target : Option String := none
  sourceType : Option String := none
  targetType : Option String := none
deriving DecidableEq, Repr

namespace Json

/-- An absent text leaves no field. -/
def givenField (name : String) : Option String → List (String × Value)
  | none => []
  | some s => [(name, .string s)]

/-- An absent text is null. -/
def nullable : Option String → Value
  | none => .null
  | some s => .string s

end Json

namespace Transfer

open Json (Field string optional givenField)

def record : Json.Record Transfer where
  title := "TransferRequest"
  blank := {}
  fields :=
    [Field.of "symbol" false (optional string) fun v t => { t with symbol := v },
      Field.of "amount" false string fun v t => { t with amount := v },
      Field.of "from" false (optional string) fun v t => { t with source := v },
      Field.of "to" false (optional string) fun v t => { t with target := v },
      Field.of "from_type" false (optional string) fun v t => { t with sourceType := v },
      Field.of "to_type" false (optional string) fun v t => { t with targetType := v }]

def fields (t : Transfer) : List (String × Json.Value) :=
  givenField "symbol" t.symbol ++ ("amount", .string t.amount) ::
    (givenField "from" t.source ++ givenField "to" t.target ++
      givenField "from_type" t.sourceType ++ givenField "to_type" t.targetType)

def toJson (t : Transfer) : Json.Value := .object t.fields

def ofBytes (bytes : Bytes) : Except Json.Fault Transfer := Json.whole record.reader bytes

end Transfer

end Countersign
