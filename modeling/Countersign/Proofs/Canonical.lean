import Countersign.Signature.Base
import Countersign.Proofs.HeaderValue
import Countersign.Proofs.Outcome

/-! The signed text is canonical: it tells which components are covered and what each of them
stands for. -/
namespace Countersign

/-- Method, path and query are each on one line. -/
structure Request.OneLine (r : Request) : Prop where
  method : Text.OneLine r.method
  path : Text.OneLine r.path
  query : Text.OneLine r.query

namespace Signature

/-- Names that stand for something. -/
def Supported (component : String) : Prop :=
  component ∈ Params.requestParts ∨ component.toList.head? ≠ some '@'

instance (component : String) : Decidable (Supported component) :=
  inferInstanceAs (Decidable (component ∈ Params.requestParts ∨ component.toList.head? ≠ some '@'))

/-- What a supported component stands for. -/
def shownValue (r : Request) (digest : Labelled) (component : String) : String :=
  (componentValue r digest component).toOption.getD ""

theorem componentValue_eq_ok_iff {r : Request} {digest : Labelled} {component value : String} :
    componentValue r digest component = .ok value ↔
      Supported component ∧ shownValue r digest component = value := by
  have parts : component ∈ Params.requestParts ↔
      component = "@method" ∨ component = "@path" ∨ component = "@query" := by
    simp [Params.requestParts]
  unfold Supported shownValue componentValue
  rw [parts]
  by_cases isMethod : component = "@method"
  · simp [isMethod, Except.toOption]
  by_cases isPath : component = "@path"
  · simp [isPath, Except.toOption]
  by_cases isQuery : component = "@query"
  · simp [isQuery, Except.toOption]
  by_cases isDigest : component = contentDigestName
  · simp [isDigest, Except.toOption, contentDigestName]
  by_cases isOther : component.toList.head? = some '@'
  · simp [isMethod, isPath, isQuery, isDigest, isOther]
  · simp [isMethod, isPath, isQuery, isDigest, isOther, Except.toOption]

section

variable (r : Request) (digest : Labelled)

@[simp] theorem shownValue_method : shownValue r digest "@method" = r.method := rfl

@[simp] theorem shownValue_path : shownValue r digest "@path" = r.path := rfl

@[simp] theorem shownValue_query : shownValue r digest "@query" = r.query := rfl

@[simp] theorem shownValue_digest : shownValue r digest contentDigestName = digest.render := rfl

theorem shownValue_header {name : String} (notPart : name ∉ Params.requestParts)
    (notDigest : name ≠ contentDigestName) (noMark : name.toList.head? ≠ some '@') :
    shownValue r digest name = (r.headers.text? name).getD "" := by
  simp only [Params.requestParts, List.mem_cons, List.not_mem_nil, or_false, not_or] at notPart
  simp [shownValue, componentValue, notPart, notDigest, noMark, Except.toOption]

theorem shownValue_subAccount :
    shownValue r digest subAccountName = (r.headers.text? subAccountName).getD "" :=
  shownValue_header r digest (by decide) (by decide) (by decide)

theorem oneLine_shownValue (plain : r.OneLine) (label : Text.OneLine digest.label)
    (component : String) : Text.OneLine (shownValue r digest component) := by
  have empty : Text.OneLine "" := by simp [Text.OneLine]
  unfold shownValue componentValue
  by_cases isMethod : component = "@method"
  · simpa [isMethod, Except.toOption] using plain.method
  by_cases isPath : component = "@path"
  · simpa [isPath, Except.toOption] using plain.path
  by_cases isQuery : component = "@query"
  · simpa [isQuery, Except.toOption] using plain.query
  by_cases isDigest : component = contentDigestName
  · simpa [isDigest, Except.toOption, contentDigestName] using Labelled.oneLine_render label
  by_cases isOther : component.toList.head? = some '@'
  · simpa [isMethod, isPath, isQuery, isDigest, isOther, Except.toOption] using empty
  · simp only [isMethod, isPath, isQuery, isDigest, isOther, if_false, Except.toOption,
      Option.getD_some]
    exact Headers.oneLine_getD_text? r.headers component

end

/-- A line without its end. -/
def lineChars (name value : String) : List Char :=
  '"' :: name.toList ++ '"' :: ':' :: ' ' :: value.toList

/-- The lines that are signed. -/
def baseLines (params : Params) (r : Request) (digest : Labelled) : List (List Char) :=
  params.components.map (fun c => lineChars c (shownValue r digest c)) ++
    [lineChars "@signature-params" params.render]

/-- Lines one after the other, each with its end. -/
def joinLines (lines : List (List Char)) : List Char := lines.flatMap (· ++ ['\n'])

@[simp] theorem joinLines_cons (l : List Char) (rest : List (List Char)) :
    joinLines (l :: rest) = l ++ '\n' :: joinLines rest := by
  simp [joinLines]

@[simp] theorem joinLines_append (front back : List (List Char)) :
    joinLines (front ++ back) = joinLines front ++ joinLines back := by
  simp [joinLines]

theorem toList_line (name value : String) :
    (line name value).toList = lineChars name value ++ ['\n'] := by
  simp [line, lineChars, String.toList_append]

theorem componentLine_eq_ok_iff {r : Request} {digest : Labelled} {component text : String} :
    componentLine r digest component = .ok text ↔
      Supported component ∧ line component (shownValue r digest component) = text := by
  rw [componentLine, Outcome.map_eq_ok_iff]
  constructor
  · rintro ⟨value, shown, rfl⟩
    obtain ⟨supported, rfl⟩ := componentValue_eq_ok_iff.1 shown
    exact ⟨supported, rfl⟩
  · rintro ⟨supported, rfl⟩
    exact ⟨_, componentValue_eq_ok_iff.2 ⟨supported, rfl⟩, rfl⟩

theorem componentLines_eq_ok_iff {r : Request} {digest : Labelled}
    {components lines : List String} :
    components.mapM (componentLine r digest) = .ok lines ↔
      (∀ c ∈ components, Supported c) ∧
        components.map (fun c => line c (shownValue r digest c)) = lines := by
  rw [Outcome.mapM_eq_ok_iff]
  simp only [componentLine_eq_ok_iff]
  rw [List.forall₂_and_left, ← List.forall₂_map_left_iff (f := fun c => line c _)]
  rw [List.forall₂_eq_eq_eq]

/-- The text exists if all components are supported, and is its lines. -/
theorem base_eq_ok_iff {params : Params} {r : Request} {digest : Labelled} {text : String} :
    base params r digest = .ok text ↔
      (∀ c ∈ params.components, Supported c) ∧
        text.toList = joinLines (baseLines params r digest) := by
  have shape : (String.join (params.components.map fun c => line c (shownValue r digest c)) ++
      line "@signature-params" params.render).toList = joinLines (baseLines params r digest) := by
    rw [String.toList_append, String.toList_join, toList_line, baseLines, joinLines_append]
    simp [joinLines, List.flatMap_map, toList_line]
  rw [base, Outcome.bind_eq_ok_iff, ← shape, String.toList_inj]
  constructor
  · rintro ⟨lines, each, whole⟩
    obtain ⟨supported, rfl⟩ := componentLines_eq_ok_iff.1 each
    exact ⟨supported, (Outcome.pure_eq_ok_iff.1 whole).symm⟩
  · rintro ⟨supported, rfl⟩
    exact ⟨_, componentLines_eq_ok_iff.2 ⟨supported, rfl⟩, rfl⟩

/-- Names that stand for the same values on both sides make the same text. -/
theorem base_congr {params : Params} {r r' : Request} {digest digest' : Labelled} {text : String}
    (values : ∀ c ∈ params.components, shownValue r' digest' c = shownValue r digest c)
    (made : base params r digest = .ok text) : base params r' digest' = .ok text := by
  obtain ⟨supported, lines⟩ := base_eq_ok_iff.1 made
  have same : baseLines params r' digest' = baseLines params r digest := by
    rw [baseLines, baseLines]
    congr 1
    apply List.map_congr_left
    intro c listed
    rw [values c listed]
  exact base_eq_ok_iff.2 ⟨supported, by rw [lines, same]⟩

theorem exists_base {params : Params} (r : Request) (digest : Labelled)
    (supported : ∀ c ∈ params.components, Supported c) :
    ∃ text, base params r digest = .ok text :=
  ⟨String.ofList (joinLines (baseLines params r digest)),
    base_eq_ok_iff.2 ⟨supported, String.toList_ofList⟩⟩

/-- Two lines that start alike end at their first line breaks. -/
theorem value_eq_of_lineChars_eq {name value value' : String} {rest rest' : List Char}
    (plain : Text.OneLine value) (plain' : Text.OneLine value')
    (same : lineChars name value ++ '\n' :: rest = lineChars name value' ++ '\n' :: rest') :
    value = value' := by
  have behind : value.toList ++ '\n' :: rest = value'.toList ++ '\n' :: rest' := by
    simpa [lineChars] using same
  exact String.toList_inj.1 (fronts_eq_of_append_eq plain plain' behind).1

/-- Over the same components, lines that agree agree in every value, if a value that holds a line
break is the same on both sides. -/
theorem values_eq_of_joinLines_eq {components : List String} {f g : String → String}
    {rest rest' : List Char}
    (alike : ∀ c ∈ components, f c = g c ∨ (Text.OneLine (f c) ∧ Text.OneLine (g c)))
    (same : joinLines (components.map fun c => lineChars c (f c)) ++ rest =
      joinLines (components.map fun c => lineChars c (g c)) ++ rest') :
    (∀ c ∈ components, f c = g c) ∧ rest = rest' := by
  induction components with
  | nil => exact ⟨nofun, same⟩
  | cons c others ih =>
    simp only [List.map_cons, joinLines_cons, List.append_assoc, List.cons_append] at same
    have here : f c = g c := by
      rcases alike c List.mem_cons_self with equal | ⟨plain, plain'⟩
      · exact equal
      · exact value_eq_of_lineChars_eq plain plain' same
    rw [here, List.append_cancel_left_eq, List.cons.injEq] at same
    obtain ⟨later, ends⟩ := ih (fun d member => alike d (List.mem_cons_of_mem _ member)) same.2
    refine ⟨fun d member => ?_, ends⟩
    rcases List.mem_cons.1 member with rfl | other
    · exact here
    · exact later d other

theorem joinLines_injective {lines lines' : List (List Char)} (plain : ∀ l ∈ lines, '\n' ∉ l)
    (plain' : ∀ l ∈ lines', '\n' ∉ l) (same : joinLines lines = joinLines lines') :
    lines = lines' := by
  induction lines generalizing lines' with
  | nil =>
    cases lines' with
    | nil => rfl
    | cons l rest => simp [joinLines] at same
  | cons l rest ih =>
    cases lines' with
    | nil => simp [joinLines] at same
    | cons l' rest' =>
      rw [joinLines_cons, joinLines_cons] at same
      obtain ⟨rfl, others⟩ := fronts_eq_of_append_eq (plain l List.mem_cons_self)
        (plain' l' List.mem_cons_self) same
      rw [ih (fun m member => plain m (List.mem_cons_of_mem _ member))
        (fun m member => plain' m (List.mem_cons_of_mem _ member)) others]

namespace Params

/-- What is written between the parentheses. -/
def inside (components : List String) : List Char :=
  List.intercalate [' '] (components.map String.toList)

theorem toList_render (p : Params) :
    p.render.toList = '(' :: (inside p.components ++ ')' :: ';' ::
      List.intercalate [';'] ((p.attributes.map renderPair).map String.toList)) := by
  simp [render, inside, Text.join, String.toList_append]

/-- What no component holds stands nowhere between the parentheses, but for the blanks. -/
theorem not_mem_inside {x : Char} (other : x ≠ ' ') {components : List String}
    (fresh : ∀ c ∈ components, x ∉ c.toList) : x ∉ inside components := by
  intro member
  rcases mem_of_mem_intercalate member with blank | ⟨piece, inPieces, here⟩
  · exact other blank
  · obtain ⟨c, listed, rfl⟩ := List.mem_map.1 inPieces
    exact fresh c listed here

theorem oneLine_render {p : Params} (names : ∀ c ∈ p.components, Text.OneLine c)
    (pairs : ∀ pair ∈ p.attributes, Text.OneLine pair.1 ∧ Text.OneLine pair.2) :
    Text.OneLine p.render := by
  have components : '\n' ∉ inside p.components := not_mem_inside (by decide) names
  have attributes : '\n' ∉ List.intercalate [';'] (p.attributes.map (String.toList ∘ renderPair)) := by
    intro member
    rcases mem_of_mem_intercalate member with mark | ⟨piece, inPieces, newline⟩
    · cases mark
    · obtain ⟨pair, listed, rfl⟩ := List.mem_map.1 inPieces
      have parts : '\n' ∈ pair.1.toList ∨ '\n' ∈ pair.2.toList := by
        simpa [renderPair] using newline
      exact parts.elim (pairs pair listed).1 (pairs pair listed).2
  rw [Text.OneLine, toList_render]
  simp [components, attributes]

theorem Listed.splitOn_inside {components : List String} (listed : Listed components) :
    (inside components).splitOn ' ' = components.map String.toList := by
  apply List.splitOn_intercalate
  · simpa using listed.noBlank
  · simpa using listed.nonempty

/-- The list of components can be told from what is written. -/
theorem components_eq_of_render_eq {p q : Params} (hp : Listed p.components)
    (hq : Listed q.components) (same : p.render = q.render) : p.components = q.components := by
  have chars : p.render.toList = q.render.toList := congrArg _ same
  rw [toList_render, toList_render, List.cons.injEq] at chars
  obtain ⟨insides, _⟩ := fronts_eq_of_append_eq (not_mem_inside (by decide) hp.noClose)
    (not_mem_inside (by decide) hq.noClose) chars.2
  have lists : p.components.map String.toList = q.components.map String.toList := by
    rw [← hp.splitOn_inside, ← hq.splitOn_inside, insides]
  exact List.map_injective_iff.2 (fun _ _ => String.toList_inj.1) lists

end Params

/-- A signed text that no value can blur: no value, no name and no attribute breaks a line. -/
structure Plain (params : Params) (r : Request) (digest : Labelled) : Prop where
  listed : Params.Listed params.components
  names : ∀ c ∈ params.components, Text.OneLine c
  values : ∀ c ∈ params.components, Text.OneLine (shownValue r digest c)
  params : Text.OneLine params.render

/-- What was read off one line, and stands for parts of a request on one line each, is signed as
plain text. -/
theorem plain_of_read {value : String} {params : Params} {r : Request} {digest : Labelled}
    (found : Params.read value = .ok params) (line : Text.OneLine value) (lines : r.OneLine)
    (label : Text.OneLine digest.label) : Plain params r digest := by
  obtain ⟨names, pairs⟩ := Params.mem_of_read found
  have plainNames : ∀ c ∈ params.components, Text.OneLine c :=
    fun c covered newline => line (names c covered _ newline)
  refine ⟨Params.listed_of_read found, plainNames,
    fun c _ => oneLine_shownValue r digest lines label c, Params.oneLine_render plainNames ?_⟩
  intro pair listed
  obtain ⟨key, value⟩ := pairs pair listed
  exact ⟨fun newline => line (key _ newline), fun newline => line (value _ newline)⟩

theorem not_mem_lineChars {name value : String} (plainName : Text.OneLine name)
    (plainValue : Text.OneLine value) : '\n' ∉ lineChars name value := by
  rw [Text.OneLine] at plainName plainValue
  simp [lineChars, plainName, plainValue]

theorem Plain.not_mem_baseLines {params : Params} {r : Request} {digest : Labelled}
    (plain : Plain params r digest) : ∀ l ∈ baseLines params r digest, '\n' ∉ l := by
  intro l member
  rcases List.mem_append.1 member with component | last
  · obtain ⟨c, covered, rfl⟩ := List.mem_map.1 component
    exact not_mem_lineChars (plain.names c covered) (plain.values c covered)
  · rw [List.mem_singleton.1 last]
    exact not_mem_lineChars (by simp [Text.OneLine]) plain.params

/-- The signed text determines the components and what each of them stands for. -/
theorem base_injective {params params' : Params} {r r' : Request} {digest digest' : Labelled}
    {text : String} (plain : Plain params r digest) (plain' : Plain params' r' digest')
    (made : base params r digest = .ok text) (made' : base params' r' digest' = .ok text) :
    params.components = params'.components ∧ params.render = params'.render ∧
      ∀ c ∈ params.components, shownValue r digest c = shownValue r' digest' c := by
  have lines : baseLines params r digest = baseLines params' r' digest' := by
    apply joinLines_injective plain.not_mem_baseLines plain'.not_mem_baseLines
    rw [← (base_eq_ok_iff.1 made).2, ← (base_eq_ok_iff.1 made').2]
  obtain ⟨front, last⟩ := List.append_inj' lines rfl
  have render : params.render = params'.render := by
    simpa [lineChars, String.toList_inj] using last
  have components := Params.components_eq_of_render_eq plain.listed plain'.listed render
  refine ⟨components, render, fun c covered => ?_⟩
  rw [← components, List.map_inj_left] at front
  simpa [lineChars, String.toList_inj] using front c covered

end Signature

end Countersign
