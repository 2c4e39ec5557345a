import Countersign.Text.Blank
import Countersign.Url.Address
import Countersign.Url.Basic
import Countersign.Url.Punycode

/-! Reading the address of a resource as browsers do: blanks around it and tabs and line ends within
count for nothing, backslashes count as slashes, dot segments are resolved, and what may not stand
as it is gets escaped. -/
namespace Countersign.Url

inductive Fault where
  | noScheme
  | emptyHost
  | badPort
  | badAddress4
  | badAddress6
  | badCharacter
  | badName
deriving DecidableEq, Repr

def Fault.message : Fault → String
  | .noScheme => "relative URL without a base"
  | .emptyHost => "empty host"
  | .badPort => "invalid port number"
  | .badAddress4 => "invalid IPv4 address"
  | .badAddress6 => "invalid IPv6 address"
  | .badCharacter => "invalid domain character"
  | .badName => "invalid international domain name"

/-- Schemes that everyone knows. -/
def isSpecial (scheme : List Char) : Bool :=
  ["http", "https", "ws", "wss", "ftp", "file"].contains (String.ofList scheme)

def isFile (scheme : List Char) : Bool := String.ofList scheme == "file"

def usualPort (scheme : List Char) : Option Nat :=
  match String.ofList scheme with
  | "http" => some 80
  | "ws" => some 80
  | "https" => some 443
  | "wss" => some 443
  | "ftp" => some 21
  | _ => none

def isSchemeChar (c : Char) : Bool := c.isAlphanum || c == '+' || c == '-' || c == '.'

/-- The scheme in lower case, and what follows its colon. -/
def splitScheme (text : List Char) : Option (List Char × List Char) :=
  let scheme := text.takeWhile isSchemeChar
  match scheme, text.dropWhile isSchemeChar with
  | c :: _, ':' :: rest => if c.isAlpha then some (scheme.map Char.toLower, rest) else none
  | _, _ => none

def isSlash (special : Bool) (c : Char) : Bool := c == '/' || (special && c == '\\')

/-- Besides controls and blanks the marks that have a meaning of their own. -/
def isForbidden (c : Char) : Bool :=
  c.toNat ≤ 0x20 || c.toNat == 0x7f || "#/:<>?@[\\]^|%".toList.contains c

/-- A host without a place in any name system. -/
def opaqueHost (host : List Char) : Except Fault (List Char) :=
  if host.any fun c => c.toNat == 0 || " #/:<>?@[\\]^|".toList.contains c then .error .badCharacter
  else .ok (Percent.encode Percent.isControl host)

/-- A host between brackets. -/
def bracketed (host : List Char) : Except Fault (List Char) :=
  match host.reverse with
  | ']' :: inside =>
    match Address.eight? inside.reverse with
    | some groups => .ok ('[' :: Address.renderEight groups ++ [']'])
    | none => .error .badAddress6
  | _ => .error .badAddress6

/-- A name or an address; escapes are resolved first. -/
def namedHost (host : List Char) : Except Fault (List Char) :=
  match Utf8.decode? (Percent.decode (bytesOf (String.ofList host))) with
  | none => .error .badName
  | some name =>
    let labels := (name.toList.splitOn '.').map Punycode.asciiLabel
    let host := List.intercalate ['.'] labels
    if host.any isForbidden then .error .badName
    else if host.isEmpty then .error .emptyHost
    else if Address.endsInNumber host then
      match Address.four? host with
      | some n => .ok (Address.renderFour n)
      | none => .error .badAddress4
    else .ok host

def parseHost (special : Bool) (host : List Char) : Except Fault (List Char) :=
  match host with
  | '[' :: inside => bracketed inside
  | [] => if special then .error .emptyHost else .ok []
  | _ => if special then namedHost host else opaqueHost host

/-- The host is cut at the first colon that no brackets enclose. -/
def splitPort (inside : Bool) : List Char → List Char × Option (List Char)
  | [] => ([], none)
  | c :: rest =>
    if c == ':' && !inside then ([], some rest)
    else
      let (host, port) := splitPort (c == '[' || (inside && c != ']')) rest
      (c :: host, port)

/-- Digits up to 65535. No digits are no port, and so is the usual one. -/
def parsePort (scheme digits : List Char) : Except Fault (Option Nat) :=
  if !digits.all Text.isDigit || Text.digitsValue digits > 65535 then .error .badPort
  else if digits.isEmpty || some (Text.digitsValue digits) == usualPort scheme then .ok none
  else .ok (some (Text.digitsValue digits))

/-- User and password, with the at sign if either is there. -/
def userInfo (text : List Char) : List Char :=
  let (user, password) := (Text.cut ':' text).getD (text, [])
  let written := Percent.encode Percent.inUserInfo user ++
    (if password.isEmpty then [] else ':' :: Percent.encode Percent.inUserInfo password)
  if written.isEmpty then [] else written ++ ['@']

/-- Everything before the last at sign is about the user. -/
def parseAuthority (scheme text : List Char) : Except Fault Authority := do
  let special := isSpecial scheme
  let (user, hostPort) := (Text.cutLast '@' text).getD ([], text)
  let user := userInfo user
  let (hostText, portText) := splitPort false hostPort
  let host ← parseHost special hostText
  if host.isEmpty && (portText.isSome || !user.isEmpty) then throw .emptyHost
  let port ← parsePort scheme (portText.getD [])
  return ⟨user, host, port⟩

/-- Which segments stay where they are and which go one up, escaped or not. -/
def dots (segment : List Char) : Option Nat :=
  match segment.map Char.toLower with
  | ['.'] => some 1
  | ['%', '2', 'e'] => some 1
  | ['.', '.'] => some 2
  | ['.', '%', '2', 'e'] => some 2
  | ['%', '2', 'e', '.'] => some 2
  | ['%', '2', 'e', '%', '2', 'e'] => some 2
  | _ => none

def isDriveLetter : List Char → Bool
  | [c, mark] => c.isAlpha && (mark == ':' || mark == '|')
  | _ => false

/-- Leaves the last segment, unless that is a drive letter. `done` holds the last one first. -/
def up (done : List (List Char)) : List (List Char) :=
  match done with
  | [] => []
  | last :: before => if isDriveLetter last then done else before

/-- Resolves dot segments; one at the end leaves an empty segment. -/
def resolve (done : List (List Char)) : List (List Char) → List (List Char)
  | [] => done.reverse
  | segment :: rest =>
    match dots segment with
    | none => resolve (segment :: done) rest
    | some n =>
      let done := if n = 2 then up done else done
      if rest.isEmpty then ([] :: done).reverse else resolve done rest

def splitSegments (special : Bool) (text : List Char) : List (List Char) :=
  (text.map fun c => if isSlash special c then '/' else c).splitOn '/'

/-- The path behind its first slash. -/
def parsePath (special : Bool) (text : List Char) : UrlPath :=
  .segments (resolve [] ((splitSegments special text).map (Percent.encode Percent.inPath)))

/-- What follows a slash at the front, and what follows two. -/
def pastSlash? (special : Bool) : List Char → Option (List Char)
  | c :: rest => if isSlash special c then some rest else none
  | [] => none

def pastSlashes? (special : Bool) (text : List Char) : Option (List Char) :=
  (pastSlash? special text).bind (pastSlash? special)

/-- The authority of files on the own machine. -/
def nobody : Authority := ⟨[], [], none⟩

/-- An authority and a path. A scheme that everyone knows never has an empty path. -/
def parseSlashed (scheme text : List Char) : Except Fault (Option Authority × UrlPath) := do
  let special := isSpecial scheme
  let isPart (c : Char) := !isSlash special c
  let name := text.takeWhile isPart
  let authority ←
    if isFile scheme && name.isEmpty then pure nobody else parseAuthority scheme name
  match text.dropWhile isPart with
  | [] => return (some authority, .segments (if special then [[]] else []))
  | _ :: path => return (some authority, parsePath special path)

/-- Whatever stands before query and fragment. -/
def parseTarget (scheme text : List Char) : Except Fault (Option Authority × UrlPath) :=
  let special := isSpecial scheme
  if special && !isFile scheme then parseSlashed scheme (text.dropWhile (isSlash special))
  else match pastSlashes? special text with
    | some rest => parseSlashed scheme rest
    | none =>
      if isFile scheme then
        .ok (some nobody, parsePath special ((pastSlash? special text).getD text))
      else match pastSlash? special text with
        | some rest => .ok (none, parsePath special rest)
        | none => .ok (none, .opaqueText (Percent.encode Percent.isControl text))

def isPadding (c : Char) : Bool := c.toNat ≤ 0x20

def isIgnored (c : Char) : Bool := c == '\t' || c == '\n' || c == '\r'

/-- What stands before a mark, and what follows it if it is there. -/
def splitMark (mark : Char) (text : List Char) : List Char × Option (List Char) :=
  match Text.cut mark text with
  | none => (text, none)
  | some (before, after) => (before, some after)

def parse (text : String) : Except Fault Url := do
  let text := (Text.dropEnds isPadding text.toList).filter (!isIgnored ·)
  match splitScheme text with
  | none => throw .noScheme
  | some (scheme, rest) =>
    let (rest, fragment) := splitMark '#' rest
    let (target, query) := splitMark '?' rest
    let (authority, path) ← parseTarget scheme target
    let inQuery := if isSpecial scheme then Percent.inSpecialQuery else Percent.inQuery
    return ⟨scheme, authority, path, query.map (Percent.encode inQuery),
      fragment.map (Percent.encode Percent.inFragment)⟩

end Countersign.Url
