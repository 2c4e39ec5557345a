import Countersign.Http.Status
import Countersign.Json.Record
import Countersign.Json.Value

/-! The body of every response that reports a failure, and the body that reports health. -/
namespace Countersign

structure Envelope where
  code : Int32
  status : String
  message : String
deriving DecidableEq, Repr

namespace Envelope

open Json (Field string int32)

def record : Json.Record Envelope where
  title := "ErrorResponse"
  blank := ⟨0, "", ""⟩
  fields :=
    [Field.of "code" true int32 fun v e => { e with code := v },
      Field.of "status" true string fun v e => { e with status := v },
      Field.of "message" true string fun v e => { e with message := v }]

def toJson (e : Envelope) : Json.Value :=
  .object [("code", .int e.code.toInt), ("status", .string e.status), ("message", .string e.message)]

def ofBytes (bytes : Bytes) : Except Json.Fault Envelope := Json.whole record.reader bytes

end Envelope

structure Health where
  status : String
deriving DecidableEq, Repr

namespace Health

open Json (Field string)

def record : Json.Record Health where
  title := "HealthResponse"
  blank := ⟨""⟩
  fields := [Field.of "status" true string fun v h => { h with status := v }]

def toJson (h : Health) : Json.Value := .object [("status", .string h.status)]

def ofBytes (bytes : Bytes) : Except Json.Fault Health := Json.whole record.reader bytes

end Health

/-- A failure as a status code and a message. -/
structure Refusal where
  status : Nat
  message : String
deriving DecidableEq, Repr

namespace Refusal

/-- Code and name of the call status that stands for an HTTP status. -/
def callStatus (status : Nat) : Int32 × String :=
  match status with
  | 200 => (0, "OK")
  | 400 => (3, "InvalidArgument")
  | 401 => (16, "Unauthenticated")
  | 403 => (7, "PermissionDenied")
  | 404 => (5, "NotFound")
  | 409 => (6, "AlreadyExists")
  | 429 => (8, "ResourceExhausted")
  | 501 => (12, "Unimplemented")
  | 503 => (14, "Unavailable")
  | 504 => (4, "DeadlineExceeded")
  | _ => if Status.isClientError status then (3, "InvalidArgument") else (13, "Internal")

def envelope (r : Refusal) : Envelope :=
  let (code, name) := callStatus r.status
  ⟨code, name, r.message⟩

/-- On one line. -/
def describe (r : Refusal) : String := Status.line r.status ++ ": " ++ r.message

end Refusal

end Countersign
