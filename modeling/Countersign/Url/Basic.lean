import Countersign.Text.Number
import Countersign.Url.Form

/-! Addresses of resources: their parts, and the text that they make. -/
namespace Countersign

/-- Who is asked: user and password with their at sign, or nothing, a host, and a port unless it is
the usual one. -/
structure Authority where
  user : List Char
  host : List Char
  port : Option Nat
deriving DecidableEq, Repr

/-- A path is a row of segments, or a text that is not cut at all. -/
inductive UrlPath where
  | segments (all : List (List Char))
  | opaqueText (text : List Char)
deriving DecidableEq, Repr

structure Url where
  scheme : List Char
  authority : Option Authority
  path : UrlPath
  query : Option (List Char)
  fragment : Option (List Char)
deriving DecidableEq, Repr

def Authority.render (a : Authority) : List Char :=
  a.user ++ a.host ++ (match a.port with
    | none => []
    | some port => ':' :: Text.decimal port)

def UrlPath.render : UrlPath → List Char
  | .segments all => all.flatMap ('/' :: ·)
  | .opaqueText text => text

namespace Url

/-- Without its fragment. -/
def renderAddress (url : Url) : List Char :=
  url.scheme ++ ':' :: (match url.authority with
    | none => []
    | some authority => '/' :: '/' :: authority.render) ++
    url.path.render ++ (match url.query with
      | none => []
      | some query => '?' :: query)

def render (url : Url) : String :=
  String.ofList (url.renderAddress ++ (match url.fragment with
    | none => []
    | some fragment => '#' :: fragment))

/-- Adds pairs to the query. Without pairs nothing changes. -/
def addPairs (url : Url) (pairs : List (String × String)) : Url :=
  if pairs.isEmpty then url
  else { url with query := some (Form.extend (url.query.getD []) pairs) }

end Url

end Countersign
