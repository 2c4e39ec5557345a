import Countersign.Http.Headers
import Countersign.Http.Target

/-! Requests as signer, verifier and gateway see them. -/
namespace Countersign

/-- The query is what stands after the question mark, empty if there is none. -/
structure Request where
  method : String
  path : String
  query : String
  headers : Headers
  body : Bytes
deriving DecidableEq, Repr

/-- A request for a URI; `none` if that or the method is none. -/
def Request.ofUri? (method uri : String) (headers : Headers) (body : Bytes) : Option Request :=
  match Target.parse (bytesOf uri) with
  | .error _ => none
  | .ok parsed =>
    if Headers.isToken method then
      some ⟨method, Utf8.decodeLossy parsed.path, Utf8.decodeLossy (parsed.query.getD []), headers, body⟩
    else none

end Countersign
