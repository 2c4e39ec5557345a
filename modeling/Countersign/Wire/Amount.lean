import Countersign.Text.Blank
import Countersign.Text.Number
import Countersign.Text.Split

/-! Amounts of money: plain decimal numerals. -/
namespace Countersign.Amount

inductive Fault where
  | absent
  | notDecimal (text : String)
deriving DecidableEq, Repr

def Fault.message : Fault → String
  | .absent => "amount is required"
  | .notDecimal text => s!"invalid amount: {text}"

/-- What stands before and after the first point. -/
def parts (text : List Char) : List Char × List Char := (Text.cut '.' text).getD (text, [])

/-- ASCII digits with at most one point among them, and at least one digit. -/
def isNumeral (text : List Char) : Bool :=
  let (whole, fraction) := parts text
  !(whole.isEmpty && fraction.isEmpty) && whole.all Text.isDigit && fraction.all Text.isDigit

/-- Whether the amount is zero. Blanks around it do not count. -/
def isZero (amount : String) : Except Fault Bool :=
  let text := Text.trim amount
  if text.isEmpty then .error .absent
  else if !isNumeral text.toList then .error (.notDecimal text)
  else
    let (whole, fraction) := parts text.toList
    .ok ((whole ++ fraction).all (· == '0'))

end Countersign.Amount
