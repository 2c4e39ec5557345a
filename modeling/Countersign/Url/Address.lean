import Countersign.Bytes.Hex
import Countersign.Text.Number
import Countersign.Text.Split

/-! Network addresses as hosts: four bytes with points between them, or eight groups of sixteen bits
with colons between them. -/
namespace Countersign.Address

def digitsIn (radix : Nat) (digits : List Char) : Option Nat :=
  digits.foldl (fun acc c => do
    let n ← acc
    let d ← Hex.value? (UInt8.ofNat (if c.toNat < 256 then c.toNat else 0))
    if d < radix then return radix * n + d else none) (some 0)

/-- A part of an address: hexadecimal behind `0x`, octal behind another zero, else decimal. -/
def part? : List Char → Option Nat
  | [] => none
  | '0' :: 'x' :: digits => digitsIn 16 digits
  | '0' :: 'X' :: digits => digitsIn 16 digits
  | '0' :: c :: rest => digitsIn 8 (c :: rest)
  | digits => digitsIn 10 digits

/-- A host whose last part is a number is an address and nothing else. -/
def endsInNumber (host : List Char) : Bool :=
  let last := match (host.splitOn '.').reverse with
    | [] => none
    | [] :: last :: _ => some last
    | [[]] => none
    | last :: _ => some last
  match last with
  | none => false
  | some last => (!last.isEmpty && last.all Text.isDigit) || (part? last).isSome

/-- The last part fills all bytes that the others leave. -/
def four? (host : List Char) : Option Nat := do
  let parts := match (host.splitOn '.').reverse with
    | [] :: rest => rest
    | all => all
  if parts.length > 4 then none
  let numbers ← parts.mapM part?
  match numbers with
  | [] => none
  | last :: others =>
    if others.any (· > 255) then none
    if last ≥ Nat.pow 256 (4 - others.length) then none
    let high := others.reverse.foldl (fun n b => 256 * n + b) 0
    return high * Nat.pow 256 (4 - others.length) + last

def renderFour (n : Nat) : List Char :=
  List.intercalate ['.']
    [Text.decimal (n / 16777216), Text.decimal (n / 65536 % 256), Text.decimal (n / 256 % 256),
      Text.decimal (n % 256)]

/-- A decimal byte without leading zeros. -/
def byte? (digits : List Char) : Option Nat := do
  let n ← Text.natural? digits
  if n < 256 && (Text.decimal n).length == digits.length then return n else none

/-- Two groups written as four bytes. -/
def tail? (text : List Char) : Option (List Nat) := do
  match ← (text.splitOn '.').mapM byte? with
  | [a, b, c, d] => return [256 * a + b, 256 * c + d]
  | _ => none

/-- Groups of one to four digits; the last may be two groups written as four bytes. -/
def groups? : List (List Char) → Option (List Nat)
  | [] => some []
  | [last] =>
    if last.contains '.' then tail? last
    else if last.isEmpty || last.length > 4 then none
    else (digitsIn 16 last).map ([·])
  | digits :: rest => do
    if digits.isEmpty || digits.length > 4 then none
    let n ← digitsIn 16 digits
    let more ← groups? rest
    return n :: more

/-- What stands before and after the first pair of colons. -/
def cutPair : List Char → Option (List Char × List Char)
  | ':' :: ':' :: rest => some ([], rest)
  | c :: rest => (cutPair rest).map fun (before, after) => (c :: before, after)
  | [] => none

def groupsOf (text : List Char) : Option (List Nat) :=
  if text.isEmpty then some [] else groups? (text.splitOn ':')

/-- A pair of colons stands for one or more groups of zero. -/
def eight? (text : List Char) : Option (List Nat) := do
  match cutPair text with
  | none =>
    let groups ← groupsOf text
    if groups.length = 8 then return groups else none
  | some (before, after) =>
    if before.contains '.' then none
    let front ← groupsOf before
    let back ← groupsOf after
    if front.length + back.length < 8 then
      return front ++ List.replicate (8 - front.length - back.length) 0 ++ back
    else none

/-- How many zeros each position begins. -/
def zeroRuns : List Nat → List Nat
  | [] => []
  | n :: rest =>
    let runs := zeroRuns rest
    (if n = 0 then runs.headD 0 + 1 else 0) :: runs

def hexText (n : Nat) : List Char := Nat.toDigits 16 n

/-- The first of the longest runs of two or more zeros is left out. -/
def renderEight (groups : List Nat) : List Char :=
  let runs := zeroRuns groups
  let longest := runs.foldl max 0
  let written := groups.map hexText
  if longest < 2 then List.intercalate [':'] written
  else
    let start := runs.findIdx (· == longest)
    List.intercalate [':'] (written.take start) ++ [':', ':'] ++
      List.intercalate [':'] (written.drop (start + longest))

end Countersign.Address
