import Countersign.Bytes.Hex
import Countersign.Decimal.Binary64
import Countersign.Text.Number
import Countersign.Toml.Table

/-! The small parts of TOML: blanks, keys, strings, numbers, and points in time. Each reader yields
what it read and the rest of the text. -/
namespace Countersign.Toml

abbrev Reader (α : Type) := List Char → Option (α × List Char)

def isBlank (c : Char) : Bool := c == ' ' || c == '\t'

def skipBlanks (text : List Char) : List Char := text.dropWhile isBlank

/-- Anything but controls; the tab is none. -/
def isPrintable (c : Char) : Bool := c == '\t' || (0x20 ≤ c.toNat && c.toNat != 0x7f)

/-- The end of a line, which the end of the text is not. -/
def newline? : List Char → Option (List Char)
  | '\n' :: rest => some rest
  | '\r' :: '\n' :: rest => some rest
  | _ => none

/-- A comment up to the end of its line, if one begins here. -/
def skipComment : List Char → List Char
  | '#' :: rest => rest.dropWhile isPrintable
  | text => text

/-- What may stand behind a statement: blanks, a comment, and the end of the line or text. -/
def lineEnd (text : List Char) : Option (List Char) :=
  match skipComment (skipBlanks text) with
  | [] => some []
  | rest => newline? rest

/-! ### Strings -/

def shortEscape? (c : Char) : Option Char :=
  match c with
  | 'b' => some '\x08'
  | 't' => some '\t'
  | 'n' => some '\n'
  | 'f' => some '\x0c'
  | 'r' => some '\r'
  | '"' => some '"'
  | '\\' => some '\\'
  | _ => none

def hexDigit? (c : Char) : Option Nat :=
  if c.toNat < 0x80 then Hex.value? (UInt8.ofNat c.toNat) else none

/-- So many hexadecimal digits, as one number. -/
def hexDigits : Nat → Nat → Reader Nat
  | 0, n, text => some (n, text)
  | count + 1, n, c :: rest => (hexDigit? c).bind fun d => hexDigits count (16 * n + d) rest
  | _ + 1, _, [] => none

def scalar? (n : Nat) : Option Char := if n.isValidChar then some (Char.ofNat n) else none

/-- What follows a backslash. -/
def escapeSequence : Reader Char
  | 'u' :: rest => do
    let (n, rest) ← hexDigits 4 0 rest
    return (← scalar? n, rest)
  | 'U' :: rest => do
    let (n, rest) ← hexDigits 8 0 rest
    return (← scalar? n, rest)
  | c :: rest => (shortEscape? c).map fun c => (c, rest)
  | [] => none

/-- Up to the closing quote, on one line. `fuel` bounds the characters. -/
def basicBody : Nat → Reader (List Char)
  | 0, _ => none
  | _ + 1, [] => none
  | fuel + 1, c :: rest =>
    if c == '"' then some ([], rest)
    else if c == '\\' then do
      let (c, rest) ← escapeSequence rest
      let (body, rest) ← basicBody fuel rest
      return (c :: body, rest)
    else if isPrintable c then do
      let (body, rest) ← basicBody fuel rest
      return (c :: body, rest)
    else none

def literalBody (text : List Char) : Option (List Char × List Char) :=
  match text.dropWhile fun c => isPrintable c && c != '\'' with
  | '\'' :: rest => some (text.takeWhile fun c => isPrintable c && c != '\'', rest)
  | _ => none

/-- Three quotes in a row close; up to two more before them belong to the text. -/
def closing (quote : Char) (text : List Char) : Option (List Char × List Char) :=
  let count := (text.takeWhile (· == quote)).length
  if count < 3 then none
  else
    let kept := min (count - 3) 2
    some (List.replicate kept quote, text.drop (kept + 3))

/-- Behind a backslash at the end of a line: blanks and lines up to the next character. -/
def skipFolded : Nat → List Char → List Char
  | 0, text => text
  | fuel + 1, text =>
    let text := skipBlanks text
    match newline? text with
    | some rest => skipFolded fuel rest
    | none => text

/-- Up to three closing quotes, on any number of lines. Each line end counts as a line feed. -/
def longBody (quote : Char) : Nat → Reader (List Char)
  | 0, _ => none
  | fuel + 1, text =>
    match closing quote text with
    | some found => some found
    | none =>
      match newline? text with
      | some rest => (longBody quote fuel rest).map fun (body, rest) => ('\n' :: body, rest)
      | none =>
        match text with
        | [] => none
        | c :: rest =>
          if c == '\\' && quote == '"' then
            match newline? (skipBlanks rest) with
            | some folded => longBody quote fuel (skipFolded folded.length folded)
            | none => do
              let (c, rest) ← escapeSequence rest
              let (body, rest) ← longBody quote fuel rest
              return (c :: body, rest)
          else if isPrintable c then
            (longBody quote fuel rest).map fun (body, rest) => (c :: body, rest)
          else none

/-- A line end right behind the opening quotes counts for nothing. -/
def longString (quote : Char) (text : List Char) : Option (List Char × List Char) :=
  let text := (newline? text).getD text
  longBody quote (text.length + 1) text

def stringValue : Reader String
  | '"' :: '"' :: '"' :: rest => (longString '"' rest).map fun (s, rest) => (String.ofList s, rest)
  | '\'' :: '\'' :: '\'' :: rest =>
    (longString '\'' rest).map fun (s, rest) => (String.ofList s, rest)
  | '"' :: rest =>
    (basicBody (rest.length + 1) rest).map fun (s, rest) => (String.ofList s, rest)
  | '\'' :: rest => (literalBody rest).map fun (s, rest) => (String.ofList s, rest)
  | _ => none

/-! ### Keys -/

def isBareChar (c : Char) : Bool := c.isAlphanum || c == '_' || c == '-'

def simpleKey : Reader String
  | '"' :: rest =>
    (basicBody (rest.length + 1) rest).map fun (s, rest) => (String.ofList s, rest)
  | '\'' :: rest => (literalBody rest).map fun (s, rest) => (String.ofList s, rest)
  | text =>
    let name := text.takeWhile isBareChar
    if name.isEmpty then none else some (String.ofList name, text.dropWhile isBareChar)

/-- Nothing may be nested this deep, and no path may have so many names. -/
def maxNesting : Nat := 80

/-- Names with dots between them: those before the last one, and the last. Blanks around each count
for nothing. -/
def key : Nat → Reader (List String × String)
  | 0, _ => none
  | fuel + 1, text => do
    let (name, rest) ← simpleKey (skipBlanks text)
    match skipBlanks rest with
    | '.' :: rest =>
      let ((path, last), rest) ← key fuel rest
      return ((name :: path, last), rest)
    | rest => return (([], name), rest)

/-! ### Numbers and points in time -/

/-- Digits, and underscores that a digit follows. -/
def moreDigits (isDigit : Char → Bool) : List Char → List Char × List Char
  | [] => ([], [])
  | c :: rest =>
    if isDigit c then
      let (digits, rest) := moreDigits isDigit rest
      (c :: digits, rest)
    else if c == '_' && rest.head?.any isDigit then moreDigits isDigit rest
    else ([], c :: rest)

/-- Digits, with single underscores between them. -/
def digitRow (isDigit : Char → Bool) (text : List Char) : List Char × List Char :=
  if text.head?.any isDigit then moreDigits isDigit text else ([], text)

def fits (n : Int) : Option Int :=
  if Text.int64Min ≤ n && n ≤ Text.int64Max then some n else none

def digitsIn (radix : Nat) (digits : List Char) : Nat :=
  digits.foldl (fun n c => radix * n + (hexDigit? c).getD 0) 0

/-- A whole number in a radix other than ten, behind its mark. -/
def markedInteger (radix : Nat) (isDigit : Char → Bool) (text : List Char) :
    Option (Value × List Char) :=
  let (digits, rest) := digitRow isDigit text
  if digits.isEmpty then none else (fits (digitsIn radix digits)).map fun n => (.integer n, rest)

def isHexDigit (c : Char) : Bool := (hexDigit? c).isSome
def isOctalDigit (c : Char) : Bool := '0' ≤ c && c ≤ '7'
def isBinaryDigit (c : Char) : Bool := c == '0' || c == '1'

/-- An integer part: a zero that stands alone, or digits. -/
def wholeDigits : List Char → List Char × List Char
  | '0' :: rest => (['0'], rest)
  | text => digitRow Text.isDigit text

/-- Whether `digits * 10 ^ e` is a finite number. Sizes far off need no exact test. -/
def isFinite (digits : List Char) (e : Int) : Bool :=
  let digits := digits.dropWhile (· == '0')
  let size := (digits.length : Int) + e
  digits.isEmpty || size < 300 ||
    (size < 320 && (Binary64.ofDecimal false (Text.digitsValue digits) e).isSome)

/-- The letter, sign and digits of an exponent, if they are there. -/
def exponent? : List Char → Option (Int × List Char)
  | mark :: rest =>
    if mark == 'e' || mark == 'E' then
      let (down, rest) := match rest with
        | '+' :: rest => (false, rest)
        | '-' :: rest => (true, rest)
        | rest => (false, rest)
      let (digits, rest) := digitRow Text.isDigit rest
      if digits.isEmpty then none
      else
        let n : Int := Text.digitsValue digits
        some (if down then -n else n, rest)
    else none
  | [] => none

/-- A decimal number. One beyond all finite numbers is none, unless it is negative. -/
def decimalNumber (negative : Bool) (text : List Char) : Option (Value × List Char) := do
  let (whole, rest) := wholeDigits text
  if whole.isEmpty then none
  let real (digits : List Char) (e : Int) (rest : List Char) : Option (Value × List Char) :=
    if negative || isFinite digits e then some (.real, rest) else none
  match rest with
  | '.' :: behind =>
    let (fraction, behind) := digitRow Text.isDigit behind
    if fraction.isEmpty then none
    match exponent? behind with
    | some (e, rest) => real (whole ++ fraction) (e - fraction.length) rest
    | none => real (whole ++ fraction) (-fraction.length) behind
  | _ =>
    match exponent? rest with
    | some (e, rest) => real whole e rest
    | none =>
      let n : Int := Text.digitsValue whole
      (fits (if negative then -n else n)).map fun n => (.integer n, rest)

def numberValue : Reader Value
  | '0' :: 'x' :: rest => markedInteger 16 isHexDigit rest
  | '0' :: 'o' :: rest => markedInteger 8 isOctalDigit rest
  | '0' :: 'b' :: rest => markedInteger 2 isBinaryDigit rest
  | '+' :: 'i' :: 'n' :: 'f' :: rest => some (.real, rest)
  | '-' :: 'i' :: 'n' :: 'f' :: rest => some (.real, rest)
  | '+' :: 'n' :: 'a' :: 'n' :: rest => some (.real, rest)
  | '-' :: 'n' :: 'a' :: 'n' :: rest => some (.real, rest)
  | '+' :: rest => decimalNumber false rest
  | '-' :: rest => decimalNumber true rest
  | rest => decimalNumber false rest

/-- So many digits, as a number within bounds. -/
def fixedDigits (count low high : Nat) (text : List Char) : Option (Nat × List Char) :=
  let digits := text.take count
  let n := Text.digitsValue digits
  if digits.length == count && digits.all Text.isDigit && low ≤ n && n ≤ high then
    some (n, text.drop count)
  else none

def mark (c : Char) : Reader Unit
  | d :: rest => if c == d then some ((), rest) else none
  | [] => none

def isLeapYear (year : Nat) : Bool := year % 4 == 0 && (year % 100 != 0 || year % 400 == 0)

def daysIn (year month : Nat) : Nat :=
  if month = 2 then (if isLeapYear year then 29 else 28)
  else if [4, 6, 9, 11].contains month then 30
  else 31

def date (text : List Char) : Option (List Char) := do
  let (year, rest) ← fixedDigits 4 0 9999 text
  let ((), rest) ← mark '-' rest
  let (month, rest) ← fixedDigits 2 1 12 rest
  let ((), rest) ← mark '-' rest
  let (_, rest) ← fixedDigits 2 1 (daysIn year month) rest
  return rest

/-- Hours, minutes and seconds, of which there may be sixty, and parts of a second. -/
def time (text : List Char) : Option (List Char) := do
  let (_, rest) ← fixedDigits 2 0 23 text
  let ((), rest) ← mark ':' rest
  let (_, rest) ← fixedDigits 2 0 59 rest
  let ((), rest) ← mark ':' rest
  let (_, rest) ← fixedDigits 2 0 60 rest
  match rest with
  | '.' :: d :: behind =>
    if Text.isDigit d then return behind.dropWhile Text.isDigit else return rest
  | _ => return rest

/-- The distance from universal time, if there is one. -/
def zone (text : List Char) : Option (List Char) :=
  let distance (rest : List Char) : Option (List Char) := do
    let (_, rest) ← fixedDigits 2 0 23 rest
    let ((), rest) ← mark ':' rest
    let (_, rest) ← fixedDigits 2 0 59 rest
    return rest
  match text with
  | 'Z' :: rest => some rest
  | 'z' :: rest => some rest
  | '+' :: rest => distance rest
  | '-' :: rest => distance rest
  | _ => some text

def isTimeMark (c : Char) : Bool := c == 'T' || c == 't' || c == ' '

/-- A date, with or without a time, or a time alone. -/
def momentValue (text : List Char) : Option (Value × List Char) :=
  match date text with
  | none => (time text).map fun rest => (.moment, rest)
  | some rest =>
    match rest with
    | c :: behind =>
      if isTimeMark c then
        match time behind with
        | some rest => (zone rest).map fun rest => (.moment, rest)
        | none => some (.moment, rest)
      else some (.moment, rest)
    | [] => some (.moment, [])

end Countersign.Toml
