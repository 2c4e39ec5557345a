import Countersign.Text.Utf8

/-! What a program finds around it: variables of its environment, files, and a home directory. -/
namespace Countersign

/-- Why a file gives no text. -/
inductive FileFault where
  | notFound
  | isDirectory
  | notDirectory
  | notPermitted
  | notText
  | badPath
  | nameTooLong
  | other (reason : String)
deriving DecidableEq, Repr

def FileFault.message : FileFault → String
  | .notFound => "No such file or directory (os error 2)"
  | .isDirectory => "Is a directory (os error 21)"
  | .notDirectory => "Not a directory (os error 20)"
  | .notPermitted => "Permission denied (os error 13)"
  | .notText => "stream did not contain valid UTF-8"
  | .badPath => "file name contained an unexpected NUL byte"
  | .nameTooLong => "File name too long (os error 36)"
  | .other reason => reason

structure Surroundings where
  env : String → Option String
  file : String → Except FileFault Bytes
  home : Option String

namespace Surroundings

/-- Nothing is set and nothing is there. -/
def bare : Surroundings := ⟨fun _ => none, fun _ => .error .notFound, none⟩

/-- A file as text. -/
def text (s : Surroundings) (path : String) : Except FileFault String :=
  match s.file path with
  | .error why => .error why
  | .ok bytes =>
    match Utf8.decode? bytes with
    | some text => .ok text
    | none => .error .notText

end Surroundings

end Countersign
