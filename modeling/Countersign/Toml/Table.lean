/-! TOML values, and documents as they grow: tables that are still open to additions. -/
namespace Countersign.Toml

/-- Numbers that are not whole and points in time are known by kind alone; of tables it is known
whether they stood between braces. -/
inductive Value where
  | string (s : String)
  | integer (n : Int)
  | real
  | moment
  | bool (b : Bool)
  | array (items : List Value)
  | table (braced : Bool) (entries : List (String × Value))

/-- How a table came to be: by its own header, by the header of a table within it, or by dots in a
key. -/
inductive Origin where
  | header
  | implied
  | dotted
deriving DecidableEq, Repr

/-- What a name stands for. -/
inductive Node where
  | value (v : Value)
  | table (origin : Origin) (entries : List (String × Node))
  | tables (all : List (List (String × Node)))

abbrev Entries := List (String × Node)

namespace Entries

def get? (entries : Entries) (name : String) : Option Node := entries.lookup name

/-- A name that is there gets the new node. -/
def put (name : String) (node : Node) : Entries → Entries
  | [] => [(name, node)]
  | (other, old) :: rest =>
    if other = name then (other, node) :: rest else (other, old) :: put name node rest

/-- Changes the table at the end of a path. Tables on the way that are not there are made; of
tables under one name the last is entered. By dots no table can be entered that has a header. -/
def within (byDots : Bool) (change : Origin → Entries → Option Entries) :
    List String → Origin → Entries → Option Entries
  | [], origin, entries => change origin entries
  | name :: rest, _, entries =>
    match get? entries name with
    | none =>
      let origin := if byDots then .dotted else .implied
      (within byDots change rest origin []).map fun inner => put name (.table origin inner) entries
    | some (.value _) => none
    | some (.table origin inner) =>
      if byDots && origin == .header then none
      else (within byDots change rest origin inner).map fun inner =>
        put name (.table origin inner) entries
    | some (.tables all) =>
      match all.reverse with
      | [] => none
      | last :: before => (within byDots change rest .header last).map fun inner =>
          put name (.tables (inner :: before).reverse) entries

/-- Sets a new name in the table at the end of a dotted path. Behind dots that table has to be made
by dots too. -/
def assign (path : List String) (name : String) (node : Node) (origin : Origin)
    (entries : Entries) : Option Entries :=
  let insert (origin : Origin) (entries : Entries) : Option Entries :=
    if (origin == .dotted) == path.isEmpty || (get? entries name).isSome then none
    else some (entries ++ [(name, node)])
  within true insert path origin entries

/-- Opens a table by a header. One that only the header of an inner table has made may still get
its own. -/
def openTable (path : List String) (name : String) (entries : Entries) : Option Entries :=
  let make (_ : Origin) (entries : Entries) : Option Entries :=
    match get? entries name with
    | none => some (put name (.table .header []) entries)
    | some (.table .implied inner) => some (put name (.table .header inner) entries)
    | _ => none
  within false make path .header entries

/-- Opens one more of the tables under one name. -/
def openAnother (path : List String) (name : String) (entries : Entries) : Option Entries :=
  let make (_ : Origin) (entries : Entries) : Option Entries :=
    match get? entries name with
    | none => some (put name (.tables [[]]) entries)
    | some (.tables all) => some (put name (.tables (all ++ [[]])) entries)
    | _ => none
  within false make path .header entries

end Entries

mutual

/-- The value that a node has in the end, between braces or in a document. -/
def Node.close (braced : Bool) : Node → Value
  | .value v => v
  | .table _ entries => .table braced (closeEntries braced entries)
  | .tables all => .array (closeTables braced all)

def closeEntries (braced : Bool) : List (String × Node) → List (String × Value)
  | [] => []
  | (name, node) :: rest => (name, node.close braced) :: closeEntries braced rest

def closeTables (braced : Bool) : List (List (String × Node)) → List Value
  | [] => []
  | entries :: rest => .table braced (closeEntries braced entries) :: closeTables braced rest

end

end Countersign.Toml
