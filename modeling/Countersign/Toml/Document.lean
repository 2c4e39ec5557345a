import Countersign.Toml.Lexeme
import Countersign.Toml.Table

/-! Reading TOML documents. -/
namespace Countersign.Toml

/-- Blanks, comments and line ends between the items of an array. -/
def skipLines : Nat → List Char → List Char
  | 0, text => text
  | fuel + 1, text =>
    let text := skipBlanks text
    match text with
    | '#' :: _ =>
      match newline? (skipComment text) with
      | some rest => skipLines fuel rest
      | none => text
    | _ =>
      match newline? text with
      | some rest => skipLines fuel rest
      | none => text

/-- A path of names that is not too long. -/
def path (text : List Char) : Option ((List String × String) × List Char) := do
  let ((names, last), rest) ← key (text.length + 1) text
  if names.length + 1 < maxNesting then return ((names, last), rest) else none

mutual

/-- `room` more arrays and tables may be opened. -/
def value (fuel room : Nat) (text : List Char) : Option (Value × List Char) :=
  match fuel with
  | 0 => none
  | fuel + 1 =>
    match text with
    | '[' :: rest =>
      if room = 0 then none
      else (items fuel (room - 1) rest).map fun (all, rest) => (.array all, rest)
    | '\x7b' :: rest =>
      if room = 0 then none
      else (inline fuel (room - 1) true [] rest).map fun (entries, rest) =>
        (.table true (closeEntries true entries), rest)
    | 't' :: 'r' :: 'u' :: 'e' :: rest => some (.bool true, rest)
    | 'f' :: 'a' :: 'l' :: 's' :: 'e' :: rest => some (.bool false, rest)
    | 'i' :: 'n' :: 'f' :: rest => some (.real, rest)
    | 'n' :: 'a' :: 'n' :: rest => some (.real, rest)
    | '"' :: _ => (stringValue text).map fun (s, rest) => (.string s, rest)
    | '\'' :: _ => (stringValue text).map fun (s, rest) => (.string s, rest)
    | _ => (momentValue text).or (numberValue text)

/-- Items up to the bracket; a comma may follow the last. -/
def items (fuel room : Nat) (text : List Char) : Option (List Value × List Char) :=
  match fuel with
  | 0 => none
  | fuel + 1 =>
    match skipLines text.length text with
    | ']' :: rest => some ([], rest)
    | text => do
      let (v, rest) ← value fuel room text
      match skipLines rest.length rest with
      | ']' :: rest => return ([v], rest)
      | ',' :: rest =>
        let (all, rest) ← items fuel room rest
        return (v :: all, rest)
      | _ => none

/-- Entries up to the brace, all on one line but for what arrays hold; no comma follows the last. -/
def inline (fuel room : Nat) (first : Bool) (entries : Entries) (text : List Char) :
    Option (Entries × List Char) :=
  match fuel with
  | 0 => none
  | fuel + 1 =>
    match first, skipBlanks text with
    | true, '\x7d' :: rest => some (entries, rest)
    | _, text => do
      let ((names, last), rest) ← path text
      let ((), rest) ← mark '=' rest
      let (v, rest) ← value fuel room (skipBlanks rest)
      let entries ← entries.assign names last (.value v) .header
      match skipBlanks rest with
      | '\x7d' :: rest => return (entries, rest)
      | ',' :: rest => inline fuel room false entries rest
      | _ => none

end

/-- A document under way: its tables, and the path of the one that is being filled. -/
structure Draft where
  entries : Entries
  current : List String

/-- A line with a header, behind its first bracket. -/
def headerLine (draft : Draft) (text : List Char) : Option (Draft × List Char) := do
  let (another, text) := match text with
    | '[' :: rest => (true, rest)
    | rest => (false, rest)
  let ((names, last), rest) ← path text
  let ((), rest) ← mark ']' rest
  let rest ← if another then (mark ']' rest).map (·.2) else some rest
  let rest ← lineEnd rest
  let entries ← if another then draft.entries.openAnother names last
    else draft.entries.openTable names last
  return (⟨entries, names ++ [last]⟩, rest)

/-- A line that gives a name a value. -/
def valueLine (draft : Draft) (text : List Char) : Option (Draft × List Char) := do
  let ((names, last), rest) ← path text
  let ((), rest) ← mark '=' rest
  let (v, rest) ← value (2 * rest.length + 2) (maxNesting - 1) (skipBlanks rest)
  let rest ← lineEnd rest
  let entries ← draft.entries.within false (fun origin entries =>
    entries.assign names last (.value v) origin) draft.current .header
  return ({ draft with entries }, rest)

/-- Line after line; each takes at least one character. -/
def lines : Nat → Draft → List Char → Option Entries
  | 0, _, _ => none
  | fuel + 1, draft, text =>
    match skipBlanks text with
    | [] => some draft.entries
    | '#' :: rest => (lineEnd ('#' :: rest)).bind (lines fuel draft)
    | '[' :: rest => (headerLine draft rest).bind fun (draft, rest) => lines fuel draft rest
    | text =>
      match newline? text with
      | some rest => lines fuel draft rest
      | none => (valueLine draft text).bind fun (draft, rest) => lines fuel draft rest

/-- The table that a document writes. A byte order mark in front counts for nothing. -/
def parse (text : String) : Option (List (String × Value)) :=
  let chars := match text.toList with
    | '\ufeff' :: rest => rest
    | all => all
  (lines (chars.length + 1) ⟨[], []⟩ chars).map (closeEntries false)

end Countersign.Toml
