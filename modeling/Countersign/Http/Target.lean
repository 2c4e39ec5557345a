import Countersign.Text.Utf8

/-! Request targets: what a URI names once scheme, authority and fragment are set aside. -/
namespace Countersign.Target

/-- Why a text is not a URI. -/
inductive Fault where
  | empty
  | tooLong
  | badCharacter
  | badAuthority
  | badFormat
  | schemeTooLong
deriving DecidableEq, Repr

def Fault.message : Fault → String
  | .empty => "empty string"
  | .tooLong => "uri too long"
  | .badCharacter => "invalid uri character"
  | .badAuthority => "invalid authority"
  | .badFormat => "invalid format"
  | .schemeTooLong => "scheme too long"

/-- A URI that parsed. The path is empty for a bare authority, and only then. -/
structure Uri where
  scheme : Option Bytes
  authority : Bytes
  path : Bytes
  query : Option Bytes
deriving DecidableEq, Repr

def maxLength : Nat := 65534

def maxScheme : Nat := 64

def isBetween (low high b : UInt8) : Bool := low ≤ b && b ≤ high

def isLetter (b : UInt8) : Bool := isBetween 0x41 0x5a b || isBetween 0x61 0x7a b

def isNumeral (b : UInt8) : Bool := isBetween 0x30 0x39 b

/-- `+ - . ~`, digits and letters. -/
def isSchemeByte (b : UInt8) : Bool :=
  isLetter b || isNumeral b || b == 0x2b || b == 0x2d || b == 0x2e || b == 0x7e

/-- Letters, digits and the marks `! $ & ' ( ) * + , - . : ; = @ [ ] _ ~`. -/
def isAuthorityByte (b : UInt8) : Bool :=
  isLetter b || isNumeral b || b == 0x21 || b == 0x24 || isBetween 0x26 0x2e b ||
    b == 0x3a || b == 0x3b || b == 0x3d || b == 0x40 || b == 0x5b || b == 0x5d || b == 0x5f ||
    b == 0x7e

/-- What a path may hold unescaped: besides the bytes that need no escape also quotes and braces,
and everything beyond ASCII. -/
def isPathByte (b : UInt8) : Bool :=
  b == 0x21 || isBetween 0x24 0x3b b || b == 0x3d || isBetween 0x40 0x5f b ||
    isBetween 0x61 0x7a b || b == 0x7c || b == 0x7e || 0x80 ≤ b || b == 0x22 || b == 0x7b || b == 0x7d

def isQueryByte (b : UInt8) : Bool :=
  b == 0x21 || isBetween 0x24 0x3b b || b == 0x3d || (0x3f ≤ b && b != 0x7f)

/-- Slash, question mark and number sign end an authority. -/
def endsAuthority (b : UInt8) : Bool := b == 0x2f || b == 0x3f || b == 0x23

/-- What has been seen of an authority: colons and a percent sign since the last mark that forgets
them, brackets, and whether the last byte was an at sign. -/
structure Seen where
  colons : Nat := 0
  percent : Bool := false
  opened : Bool := false
  closed : Bool := false
  atSign : Bool := false

def Seen.step (seen : Seen) (b : UInt8) : Except Fault Seen :=
  let seen := { seen with atSign := b == 0x40 }
  if b == 0x3a then
    if seen.colons ≥ 8 then .error .badAuthority else .ok { seen with colons := seen.colons + 1 }
  else if b == 0x5b then
    if seen.percent || seen.opened then .error .badAuthority else .ok { seen with opened := true }
  else if b == 0x5d then
    if !seen.opened || seen.closed then .error .badAuthority
    else .ok { seen with closed := true, colons := 0, percent := false }
  else if b == 0x40 then .ok { seen with colons := 0, percent := false }
  else if b == 0x25 then .ok { seen with percent := true }
  else if isAuthorityByte b then .ok seen
  else .error .badCharacter

def Seen.check (seen : Seen) : Except Fault Unit :=
  if seen.opened != seen.closed || seen.colons > 1 || seen.atSign || seen.percent then
    .error .badAuthority
  else .ok ()

/-- The authority at the front and what follows it. -/
def splitAuthority (bytes : Bytes) : Except Fault (Bytes × Bytes) := do
  let authority := bytes.takeWhile (!endsAuthority ·)
  let seen ← authority.foldlM Seen.step {}
  seen.check
  return (authority, bytes.dropWhile (!endsAuthority ·))

/-- A path and a query; a fragment is dropped unread. -/
def pathAndQuery (bytes : Bytes) : Except Fault (Bytes × Option Bytes) := do
  let isMark (b : UInt8) := b == 0x3f || b == 0x23
  let path := bytes.takeWhile (!isMark ·)
  unless path.all isPathByte do throw .badCharacter
  let (query, kept) ← match bytes.dropWhile (!isMark ·) with
    | 0x3f :: rest =>
      let query := rest.takeWhile (· != 0x23)
      if query.all isQueryByte then pure (some query, path ++ 0x3f :: query)
      else throw .badCharacter
    | _ => pure (none, path)
  if (Utf8.decode? kept).isNone then throw .badCharacter
  return (if path.isEmpty then [0x2f] else path, query)

/-- The scheme before `://` and what follows it, if the text starts so. -/
def splitScheme (bytes : Bytes) : Except Fault (Option (Bytes × Bytes)) :=
  let scheme := bytes.takeWhile isSchemeByte
  match bytes.drop scheme.length with
  | 0x3a :: 0x2f :: 0x2f :: rest =>
    if scheme.length > maxScheme then .error .schemeTooLong
    else .ok (some (scheme, rest))
  | _ => .ok none

def bareAuthority (bytes : Bytes) : Except Fault Uri := do
  let (authority, rest) ← splitAuthority bytes
  unless rest.isEmpty do throw .badFormat
  return ⟨none, authority, [], none⟩

def parse (bytes : Bytes) : Except Fault Uri := do
  if bytes.length > maxLength then throw .tooLong
  match bytes with
  | [] => throw .empty
  | [0x2a] => return ⟨none, [], [0x2a], none⟩
  | 0x2f :: _ =>
    let (path, query) ← pathAndQuery bytes
    return ⟨none, [], path, query⟩
  | [_] => bareAuthority bytes
  | _ =>
    match ← splitScheme bytes with
    | none => bareAuthority bytes
    | some (scheme, rest) =>
      let (authority, rest) ← splitAuthority rest
      if authority.isEmpty then throw .badFormat
      let (path, query) ← pathAndQuery rest
      return ⟨some scheme, authority, path, query⟩

end Countersign.Target
