import Countersign.Text.Split

/-! Reading a command line: options with values, flags, and words. -/
namespace Countersign.Command

/-- Why a command line is not carried out. -/
inductive Halt where
  | version
  | help
  | usage
deriving DecidableEq, Repr

/-- What a command takes: options by name, each with a test for its values, flags, and up to so many
words. A command that takes subcommands stops at the first word. -/
structure Takes where
  options : List (String × (String → Bool))
  flags : List String := []
  words : Nat := 0
  subcommands : Bool := false
  version : Bool := false

structure Given where
  values : List (String × String) := []
  flags : List String := []
  words : List String := []
  rest : List String := []
deriving Repr

namespace Given

def value? (g : Given) (name : String) : Option String := g.values.lookup name

/-- A value that has to be given. -/
def need (g : Given) (name : String) : Except Halt String :=
  match g.value? name with
  | some value => .ok value
  | none => .error .usage

end Given

/-- An option without its dashes, and the value behind an equals sign. -/
def splitOption (text : List Char) : String × Option String :=
  match Text.cut '=' text with
  | none => (String.ofList text, none)
  | some (name, value) => (String.ofList name, some (String.ofList value))

/-- A text that cannot be the value of the option before it. -/
def looksLikeOption (text : String) : Bool :=
  match text.toList with
  | '-' :: _ :: _ => true
  | _ => false

def addValue (takes : Takes) (given : Given) (name value : String) : Except Halt Given :=
  match takes.options.lookup name with
  | none => .error .usage
  | some accepts =>
    if given.values.any (·.1 == name) || !accepts value then .error .usage
    else .ok { given with values := given.values ++ [(name, value)] }

/-- An option that stands alone. -/
def addFlag (takes : Takes) (given : Given) (name : String) : Except Halt Given :=
  if name = "help" then .error .help
  else if name = "version" && takes.version then .error .version
  else if takes.flags.contains name && !given.flags.contains name then
    .ok { given with flags := given.flags ++ [name] }
  else .error .usage

def addWord (takes : Takes) (given : Given) (word : String) : Except Halt Given :=
  if given.words.length < takes.words then .ok { given with words := given.words ++ [word] }
  else .error .usage

/-- Options of one letter stand for no more than help and version. -/
def shortOption (takes : Takes) (letter : Char) : Halt :=
  if letter = 'h' then .help else if letter = 'V' && takes.version then .version else .usage

/-- Reads from the front. Behind two dashes all are words. -/
def scan (takes : Takes) (given : Given) : List String → Except Halt Given
  | [] => .ok given
  | arg :: rest =>
    match arg.toList with
    | ['-', '-'] => rest.foldlM (addWord takes) given
    | '-' :: '-' :: text =>
      match splitOption text with
      | (name, some value) => (addValue takes given name value).bind fun given => scan takes given rest
      | (name, none) =>
        if (takes.options.lookup name).isSome then
          match rest with
          | [] => .error .usage
          | value :: rest =>
            if looksLikeOption value then .error .usage
            else (addValue takes given name value).bind fun given => scan takes given rest
        else (addFlag takes given name).bind fun given => scan takes given rest
    | '-' :: letter :: _ => .error (shortOption takes letter)
    | _ =>
      if takes.subcommands then .ok { given with rest := arg :: rest }
      else (addWord takes given arg).bind fun given => scan takes given rest

end Countersign.Command
