import Countersign.Exchange.Operation
import Countersign.Wire.Envelope

/-! The exchanges of the settings and what is linked to them. -/
namespace Countersign

/-- An exchange, and what carries out its operations. -/
structure Registered (β : Type) where
  exchange : Exchange
  backend : Option β

/-- One entry for each exchange. -/
structure Registry (β : Type) where
  entries : List (String × Registered β)

namespace Registry

variable {β : Type}

/-- Puts an entry in the place of the one of the same name, or behind all others. -/
def put (id : String) (entry : Registered β) :
    List (String × Registered β) → List (String × Registered β)
  | [] => [(id, entry)]
  | (other, old) :: rest =>
    if other = id then (id, entry) :: rest else (other, old) :: put id entry rest

/-- Of two exchanges with the same id the later one counts. Nothing is linked. -/
def ofSettings (s : Settings) : Registry β :=
  ⟨s.exchanges.foldl (fun entries e => put e.id ⟨e, none⟩ entries) []⟩

def get? (r : Registry β) (id : String) : Option (Registered β) := r.entries.lookup id

def size (r : Registry β) : Nat := r.entries.length

/-- `none` for an exchange that is not configured. -/
def link? (r : Registry β) (id : String) (backend : β) : Option (Registry β) :=
  (r.get? id).map fun entry => ⟨put id { entry with backend := some backend } r.entries⟩

def notConfigured (id : String) : String := s!"exchange {id} is not configured"

def registered (r : Registry β) (id : String) : Except Refusal (Registered β) :=
  match r.get? id with
  | some entry => .ok entry
  | none => .error ⟨404, s!"exchange not found: {id}"⟩

/-- The account of a name; without a name, the main account. -/
def account (r : Registry β) (id : String) (name : Option String) : Except Refusal Account := do
  let entry ← r.registered id
  match name with
  | none => return ⟨id, none⟩
  | some name =>
    match entry.exchange.subaccount? name with
    | some subaccount => return ⟨id, some subaccount⟩
    | none => throw ⟨404, s!"subaccount {name} for exchange {id} not found"⟩

/-- The id of the sub-account that a name stands for. -/
def subaccountId? (r : Registry β) (id name : String) : Except Refusal (Option String) :=
  (r.registered id).map fun entry => (entry.exchange.subaccount? name).map Subaccount.id

def backend (r : Registry β) (id : String) : Except Refusal β := do
  let entry ← r.registered id
  match entry.backend with
  | some backend => return backend
  | none => throw ⟨501, s!"exchange {id} has no backend linked"⟩

end Registry

end Countersign
