import Countersign.Signature.Labelled
import Countersign.Text.Number

/-! What a signature covers: the value of the signature-input header. -/
namespace Countersign.Signature

/-- The components in the order of signing, and attributes whose values keep their quotes. -/
structure Params where
  label : String
  components : List String
  attributes : List (String × String)
deriving DecidableEq, Repr

namespace Params

/-- The parts of a request that every signature must cover. -/
def requestParts : List String := ["@method", "@path", "@query"]

def standard : List String := requestParts ++ [contentDigestName]

/-- The name of a component as it is declared. -/
def componentName (extra : String) : String := Text.lower (Text.trim extra)

/-- Blank names and names that are there already add nothing. -/
def addComponent (components : List String) (extra : String) : List String :=
  let name := componentName extra
  if name.isEmpty || components.contains name then components else components ++ [name]

/-- A number of seconds between quotes. -/
def createdText (created : Int) : String := "\"" ++ Text.ofInt created ++ "\""

def new (created : Int) (extra : List String) : Params where
  label := Labelled.signatureLabel
  components := extra.foldl addComponent standard
  attributes := [("created", createdText created)]

def renderPair (pair : String × String) : String := pair.1 ++ "=" ++ pair.2

/-- Without the label. -/
def render (params : Params) : String :=
  "(" ++ Text.join ' ' params.components ++ ");" ++ Text.join ';' (params.attributes.map renderPair)

def header (params : Params) : String := params.label ++ "=" ++ params.render

/-- Blank segments count for nothing; any other holds one equals sign. -/
def readPairs : List (List Char) → Except Malformation (List (String × String))
  | [] => .ok []
  | segment :: rest =>
    if segment.all Text.isBlank then readPairs rest
    else match segment.splitOn '=' with
      | [key, value] =>
        (readPairs rest).map ((String.ofList key, String.ofList value) :: ·)
      | _ => .error (.badPair (String.ofList segment))

/-- Components stand between the first pair of parentheses, attributes after it. -/
def read (value : String) : Except Malformation Params :=
  match Text.cut '=' value.toList with
  | none => .error .missingEquals
  | some (label, rest) =>
    match Text.cut '(' rest with
    | none => .error .missingParentheses
    | some (before, inside) =>
      match Text.cut ')' inside with
      | none => .error .missingParentheses
      | some (components, after) =>
        if before.contains ')' then .error .missingParentheses
        else (readPairs (after.splitOn ';')).map fun attributes =>
          { label := String.ofList label
            components := (components.splitOn ' ').map String.ofList
            attributes }

def parse (value : String) : Except Fault Params :=
  (read value).mapError (.malformedHeader inputName)

def attribute? (params : Params) (key : String) : Option String := params.attributes.lookup key

/-- The seconds of the created attribute, if it is there and is a number. -/
def created? (params : Params) : Option Int :=
  (params.attribute? "created").bind fun value =>
    Text.int64? (String.ofList (Text.dropEnds (· == '"') value.toList))

def covers (params : Params) (component : String) : Bool := params.components.contains component

theorem nodup_addComponent {components : List String} (extra : String) (h : components.Nodup) :
    (addComponent components extra).Nodup := by
  unfold addComponent
  simp only
  split
  · exact h
  · rename_i fresh
    simp only [Bool.or_eq_true, List.contains_iff_mem, not_or] at fresh
    rw [List.nodup_append]
    refine ⟨h, by simp, fun a ha b hb => ?_⟩
    rw [List.mem_singleton] at hb
    exact fun same => fresh.2 (hb ▸ same ▸ ha)

end Params

end Countersign.Signature
