import Countersign.Wire.Transfer

/-! The body of a withdrawal to an address. -/
namespace Countersign

structure Withdrawal where
  address : String := ""
  symbol : Option String := none
  network : Option String := none
  amount : String := ""
deriving DecidableEq, Repr

namespace Withdrawal

open Json (Field string optional givenField)

def record : Json.Record Withdrawal where
  title := "WithdrawalRequest"
  blank := {}
  fields :=
    [Field.of "address" false string fun v w => { w with address := v },
      Field.of "symbol" false (optional string) fun v w => { w with symbol := v },
      Field.of "network" false (optional string) fun v w => { w with network := v },
      Field.of "amount" false string fun v w => { w with amount := v }]

def fields (w : Withdrawal) : List (String × Json.Value) :=
  ("address", .string w.address) ::
    (givenField "symbol" w.symbol ++ givenField "network" w.network ++
      [("amount", .string w.amount)])

def toJson (w : Withdrawal) : Json.Value := .object w.fields

def ofBytes (bytes : Bytes) : Except Json.Fault Withdrawal := Json.whole record.reader bytes

end Withdrawal

end Countersign
