import Countersign.Bytes.Base64
import Countersign.Hash.Sha2
import Countersign.Signature.Fault
import Countersign.Text.Blank
import Countersign.Text.Split

/-! Bytes under a label, written `label=:base64:`. Both the digest of a body and a signature travel
in this form. -/
namespace Countersign.Signature

structure Labelled where
  label : String
  bytes : Bytes
deriving DecidableEq, Repr

namespace Labelled

def render (l : Labelled) : String := l.label ++ "=:" ++ Base64.encode l.bytes ++ ":"

/-- The label ends at the first equals sign. Any number of colons may surround the base64. -/
def read (value : String) : Except Malformation Labelled :=
  match Text.cut '=' value.toList with
  | none => .error .missingEquals
  | some (label, encoded) =>
    match Base64.bytes? (Text.dropEnds (· == ':') encoded) with
    | none => .error .badBase64
    | some bytes => .ok ⟨String.ofList label, bytes⟩

/-- Reads the value of the header called `name`. -/
def parse (name value : String) : Except Fault Labelled :=
  (read value).mapError (.malformedHeader name)

/-- The digest of a body. -/
def ofBody (body : Bytes) : Labelled := ⟨"sha-256", Sha2.sha256 body⟩

/-- The label of the one signature that a request carries. -/
def signatureLabel : String := "iam"

def ofSignature (bytes : Bytes) : Labelled := ⟨signatureLabel, bytes⟩

theorem read_eq_missingEquals_iff {value : String} :
    read value = .error .missingEquals ↔ '=' ∉ value.toList := by
  rw [← Text.cut_eq_none_iff]
  unfold read
  cases Text.cut '=' value.toList with
  | none => simp
  | some parts =>
    simp only [reduceCtorEq, iff_false]
    split <;> simp

end Labelled

end Countersign.Signature
