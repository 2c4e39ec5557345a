import Countersign.Proofs.Readback

/-! When there is a text to sign, and what two requests with the same text have in common. -/
namespace Countersign.Signature

/-- The first of the components that looks like a part of a request and is none. -/
def FirstUnsupported (components : List String) (c : String) : Prop :=
  ∃ front back, components = front ++ c :: back ∧ (∀ d ∈ front, Supported d) ∧ ¬ Supported c

theorem componentLine_eq_error_iff {r : Request} {digest : Labelled} {component : String}
    {fault : Fault} :
    componentLine r digest component = .error fault ↔
      ¬ Supported component ∧ fault = .unsupportedComponent component := by
  have parts : component ∈ Params.requestParts ↔
      component = "@method" ∨ component = "@path" ∨ component = "@query" := by
    simp [Params.requestParts]
  unfold Supported componentLine componentValue
  rw [parts]
  by_cases isMethod : component = "@method"
  · simp [isMethod, Except.map]
  by_cases isPath : component = "@path"
  · simp [isPath, Except.map]
  by_cases isQuery : component = "@query"
  · simp [isQuery, Except.map]
  by_cases isDigest : component = contentDigestName
  · simp [isDigest, contentDigestName, Except.map]
  by_cases isOther : component.toList.head? = some '@'
  · simp [isMethod, isPath, isQuery, isDigest, isOther, Except.map, eq_comm]
  · simp [isMethod, isPath, isQuery, isDigest, isOther, Except.map]

theorem base_eq_error_iff {params : Params} {r : Request} {digest : Labelled} {fault : Fault} :
    base params r digest = .error fault ↔
      ∃ c, FirstUnsupported params.components c ∧ fault = .unsupportedComponent c := by
  have lines : base params r digest = .error fault ↔
      params.components.mapM (componentLine r digest) = .error fault :=
    Outcome.bind_pure_eq_error_iff
  have supported (c : String) : (∃ text, componentLine r digest c = .ok text) ↔ Supported c := by
    simp only [componentLine_eq_ok_iff, exists_and_left, exists_eq', and_true]
  rw [lines, Outcome.mapM_eq_error_iff]
  simp only [supported, componentLine_eq_error_iff]
  constructor
  · rintro ⟨front, c, back, shape, before, here, why⟩
    exact ⟨c, ⟨front, back, shape, before, here⟩, why⟩
  · rintro ⟨c, ⟨front, back, shape, before, here⟩, why⟩
    exact ⟨front, c, back, shape, before, here, why⟩

/-- A text that can be signed and told from every other: the parameters were read off one line, and
neither the parts of the request nor the label of the digest break a line. -/
structure Legible (params : Params) (r : Request) (digest : Labelled) : Prop where
  read : ∃ value, Text.OneLine value ∧ Params.parse value = .ok params
  lines : r.OneLine
  label : Text.OneLine digest.label

namespace Legible

variable {params : Params} {r : Request} {digest : Labelled} (legible : Legible params r digest)
include legible

theorem plain : Plain params r digest := by
  obtain ⟨value, line, found⟩ := legible.read
  exact plain_of_read (Outcome.mapError_eq_ok_iff.1 found) line legible.lines legible.label

theorem wellFormed : params.WellFormed := by
  obtain ⟨value, _, found⟩ := legible.read
  exact Params.wellFormed_of_read (Outcome.mapError_eq_ok_iff.1 found)

end Legible

/-- The same is signed: the same components, which stand for the same values, and the same
attributes. -/
structure SameSigned (params params' : Params) (r r' : Request) (digest digest' : Labelled) :
    Prop where
  components : params.components = params'.components
  attributes : params.attributes = params'.attributes
  values : ∀ c ∈ params.components,
    componentValue r digest c = componentValue r' digest' c
  method : "@method" ∈ params.components → r.method = r'.method
  path : "@path" ∈ params.components → r.path = r'.path
  query : "@query" ∈ params.components → r.query = r'.query
  /-- A header that is absent, or no text, counts as empty. -/
  headers : ∀ c ∈ params.components, c.toList.head? ≠ some '@' → c ≠ contentDigestName →
    (r.headers.text? c).getD "" = (r'.headers.text? c).getD ""
  digest : contentDigestName ∈ params.components → '=' ∉ digest.label.toList →
    '=' ∉ digest'.label.toList → digest = digest'

/-- The values decide the rest. -/
theorem SameSigned.of_shownValue {params params' : Params} {r r' : Request}
    {digest digest' : Labelled} (components : params.components = params'.components)
    (attributes : params.attributes = params'.attributes)
    (supported : ∀ c ∈ params.components, Supported c)
    (shown : ∀ c ∈ params.components, shownValue r digest c = shownValue r' digest' c) :
    SameSigned params params' r r' digest digest' where
  components := components
  attributes := attributes
  values c covered := by
    have value := componentValue_eq_ok_iff.2 ⟨supported c covered, shown c covered⟩
    rw [value, componentValue_eq_ok_iff.2 ⟨supported c covered, rfl⟩]
  method covered := by simpa using shown _ covered
  path covered := by simpa using shown _ covered
  query covered := by simpa using shown _ covered
  headers c covered noMark notDigest := by
    have notPart : c ∉ Params.requestParts := by
      intro part
      simp only [Params.requestParts, List.mem_cons, List.not_mem_nil, or_false] at part
      rcases part with rfl | rfl | rfl
      all_goals exact noMark (by decide)
    have same := shown c covered
    rwa [shownValue_header r digest notPart notDigest noMark,
      shownValue_header r' digest' notPart notDigest noMark] at same
  digest covered plain plain' := by
    have same := shown _ covered
    rw [shownValue_digest, shownValue_digest] at same
    exact Labelled.render_injective plain plain' same

/-- The signed text is a canonical form. It is missing just if a component stands for nothing, and
the first such component is the fault; where it is there, it tells what is signed. -/
theorem base_canonical :
    (∀ params r digest fault, base params r digest = .error fault ↔
      ∃ c, FirstUnsupported params.components c ∧ fault = .unsupportedComponent c) ∧
    ∀ params params' r r' digest digest' text,
      Legible params r digest → Legible params' r' digest' →
      base params r digest = .ok text → base params' r' digest' = .ok text →
      SameSigned params params' r r' digest digest' := by
  refine ⟨fun params r digest fault => base_eq_error_iff, ?_⟩
  intro params params' r r' digest digest' text legible legible' made made'
  obtain ⟨_, render, shown⟩ := base_injective legible.plain legible'.plain made made'
  obtain ⟨components, attributes⟩ :=
    Params.eq_of_render_eq legible.wellFormed legible'.wellFormed render
  exact .of_shownValue components attributes (base_eq_ok_iff.1 made).1 shown

/-- Names that hold a quote, a colon and a parenthesis, and one that is not there. -/
def quoted : Params :=
  ⟨"iam", ["@method", "x\":(y", "content-digest", ""], [("created", "\"1\""), ("", "(")]⟩

def quotedRequest (headers : Headers) : Request := ⟨"POST", "/", "", headers, bytesOf "[]"⟩

/-- A header that is no text and one that is absent leave the same text, which is the same signed. -/
theorem base_canonical_quoted :
    ∃ text,
      base quoted (quotedRequest .empty) ⟨"sha-256", [1]⟩ = .ok text ∧
      base quoted (quotedRequest (Headers.empty.append "x\":(y" [0xff])) ⟨"sha-256", [1]⟩ =
        .ok text ∧
      SameSigned quoted quoted (quotedRequest .empty)
        (quotedRequest (Headers.empty.append "x\":(y" [0xff])) ⟨"sha-256", [1]⟩
        ⟨"sha-256", [1]⟩ := by
  have line : Text.OneLine "iam=(@method x\":(y content-digest );;created=\"1\";=(" := by decide
  have read : Params.parse "iam=(@method x\":(y content-digest );;created=\"1\";=(" = .ok quoted := by
    decide +kernel
  have plain : Text.OneLine "POST" ∧ Text.OneLine "/" ∧ Text.OneLine "" := by decide
  have legible (headers : Headers) : Legible quoted (quotedRequest headers) ⟨"sha-256", [1]⟩ :=
    ⟨⟨_, line, read⟩, ⟨plain.1, plain.2.1, plain.2.2⟩, by decide⟩
  obtain ⟨text, made⟩ := exists_base (quotedRequest .empty) ⟨"sha-256", [1]⟩
    (show ∀ c ∈ quoted.components, Supported c by unfold Supported; decide)
  have made' : base quoted (quotedRequest (Headers.empty.append "x\":(y" [0xff])) ⟨"sha-256", [1]⟩ =
      .ok text :=
    base_congr (by decide +kernel) made
  exact ⟨text, made, made',
    base_canonical.2 _ _ _ _ _ _ _ (legible _) (legible _) made made'⟩

end Countersign.Signature
