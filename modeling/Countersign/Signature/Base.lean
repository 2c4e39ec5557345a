import Countersign.Http.Request
import Countersign.Signature.Params

/-! The text that is signed: a line for each covered component and one for the parameters. -/
namespace Countersign.Signature

def line (name value : String) : String := "\"" ++ name ++ "\": " ++ value ++ "\n"

/-- What a component stands for. A header counts by its first value; an absent one, and one that is
no text, count as empty. -/
def componentValue (r : Request) (digest : Labelled) (component : String) : Except Fault String :=
  if component = "@method" then .ok r.method
  else if component = "@path" then .ok r.path
  else if component = "@query" then .ok r.query
  else if component = contentDigestName then .ok digest.render
  else if component.toList.head? = some '@' then .error (.unsupportedComponent component)
  else .ok ((r.headers.text? component).getD "")

def componentLine (r : Request) (digest : Labelled) (component : String) : Except Fault String :=
  (componentValue r digest component).map (line component)

/-- Fails at the first component that stands for nothing. -/
def base (params : Params) (r : Request) (digest : Labelled) : Except Fault String := do
  let lines ← params.components.mapM (componentLine r digest)
  return String.join lines ++ line "@signature-params" params.render

end Countersign.Signature
