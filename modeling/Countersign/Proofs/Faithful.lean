import Countersign.Proofs.Sealed
import Countersign.Proofs.SignedText

/-! What a signer declares and what a verifier reads. Signing takes any extra that fits into a header;
a name that ends early between the parentheses, or that covers a header of the seal, is signed all the
same, and then no verifier gets back to the text that was signed. -/
namespace Countersign.Signature

/-- A character that ends a name between the parentheses. -/
def endsName (c : Char) : Bool := c == ' ' || c == ')'

/-- A name that a verifier reads as it was declared. -/
structure Declarable (name : String) : Prop where
  text : Headers.IsText name
  noBlank : ' ' ∉ name.toList
  noClose : ')' ∉ name.toList

/-- A name that signing takes. -/
structure Signable (name : String) : Prop where
  supported : Supported name
  value : Headers.IsValue name

instance (name : String) : Decidable (Declarable name) :=
  decidable_of_iff (Headers.IsText name ∧ ' ' ∉ name.toList ∧ ')' ∉ name.toList)
    ⟨fun ⟨text, noBlank, noClose⟩ => ⟨text, noBlank, noClose⟩,
      fun ⟨text, noBlank, noClose⟩ => ⟨text, noBlank, noClose⟩⟩

instance (name : String) : Decidable (Signable name) :=
  decidable_of_iff (Supported name ∧ Headers.IsValue name)
    ⟨fun ⟨supported, value⟩ => ⟨supported, value⟩, fun ⟨supported, value⟩ => ⟨supported, value⟩⟩

/-- A header that the seal goes into counts for the same before and after. -/
def Settled (name : String) (r signed : Request) : Prop :=
  name = inputName ∨ name = signatureName →
    (signed.headers.text? name).getD "" = (r.headers.text? name).getD ""

/-- From what a signed request says of itself, this text is rebuilt. -/
def Faithful (text : String) (signed : Request) : Prop :=
  ∃ said : Carried, said.In signed.headers ∧ base said.params signed said.digest = .ok text

/-- Where no character ends a name, neither mark stands. -/
theorem apart_of_endsName {l : List Char} (none : ∀ d ∈ l, endsName d = false) :
    ' ' ∉ l ∧ ')' ∉ l :=
  ⟨fun blank => absurd (none _ blank) (by decide), fun close => absurd (none _ close) (by decide)⟩

namespace Params

/-- The first of the names that ends early, cut where it ends. -/
theorem exists_cut {names : List String} {name : String} {c : Char} (listed : name ∈ names)
    (member : c ∈ name.toList) (ends : endsName c = true) :
    ∃ front word mark rest back, names = front ++ String.ofList (word ++ mark :: rest) :: back ∧
      (∀ n ∈ front, ∀ d ∈ n.toList, endsName d = false) ∧ (∀ d ∈ word, endsName d = false) ∧
      endsName mark = true := by
  have someName : (names.find? (·.toList.any endsName)).isSome := by
    rw [List.find?_isSome]
    exact ⟨name, listed, List.any_eq_true.2 ⟨c, member, ends⟩⟩
  obtain ⟨first, foundName⟩ := Option.isSome_iff_exists.1 someName
  obtain ⟨early, front, back, rfl, before⟩ := List.find?_eq_some_iff_append.1 foundName
  have someMark : (first.toList.find? endsName).isSome := by
    rw [List.find?_isSome]
    exact List.any_eq_true.1 early
  obtain ⟨mark, foundMark⟩ := Option.isSome_iff_exists.1 someMark
  obtain ⟨endsHere, word, rest, shape, beforeMark⟩ := List.find?_eq_some_iff_append.1 foundMark
  refine ⟨front, word, mark, rest, back, ?_, ?_, ?_, endsHere⟩
  · rw [← shape, String.ofList_toList]
  · intro n isBefore d inside
    have none := before n isBefore
    simp only [Bool.not_eq_true', List.any_eq_false, Bool.not_eq_true] at none
    exact none d inside
  · intro d inside
    simpa using beforeMark d inside

variable {p q : Params} {front back : List String} {word rest : List Char} {mark : Char}

/-- Names that end where they should are split off one by one. -/
theorem splitOn_names (plain : ∀ n ∈ front, ' ' ∉ n.toList) (behind : List Char) :
    (front.flatMap (fun n => n.toList ++ [' ']) ++ behind).splitOn ' ' =
      front.map String.toList ++ behind.splitOn ' ' := by
  induction front with
  | nil => rfl
  | cons n others ih =>
    rw [List.flatMap_cons, List.append_assoc, List.append_assoc, List.singleton_append,
      List.splitOn_append_cons_self_of_not_mem (plain n List.mem_cons_self),
      ih fun m member => plain m (List.mem_cons_of_mem _ member)]
    rfl

theorem inside_append (front back : List String) (name : String) : ∃ behind,
    inside (front ++ name :: back) =
      front.flatMap (fun n => n.toList ++ [' ']) ++ (name.toList ++ behind) := by
  induction front with
  | nil =>
    cases back with
    | nil => exact ⟨[], by simp [inside]⟩
    | cons next others =>
      refine ⟨' ' :: inside (next :: others), ?_⟩
      simp [inside, List.intercalate_cons_cons]
  | cons n others ih =>
    obtain ⟨behind, shape⟩ := ih
    refine ⟨behind, ?_⟩
    have more : inside (n :: (others ++ name :: back)) =
        n.toList ++ ' ' :: inside (others ++ name :: back) := by
      cases others with
      | nil => simp [inside, List.intercalate_cons_cons]
      | cons m more => simp [inside, List.intercalate_cons_cons]
    rw [List.cons_append, more, shape]
    simp

/-- What stands before the first closing parenthesis reaches at least up to a mark. -/
theorem reaches_mark {start read after behind : List Char} (ends : endsName mark = true)
    (noCloseStart : ')' ∉ start) (noCloseRead : ')' ∉ read)
    (same : start ++ mark :: behind = read ++ ')' :: after) :
    read = start ∨ ∃ later, read = start ++ ' ' :: later := by
  rcases List.append_eq_append_iff.1 same with ⟨more, rfl, further⟩ | ⟨less, rfl, further⟩
  · cases more with
    | nil => exact .inl (List.append_nil _)
    | cons c later =>
      obtain ⟨rfl, _⟩ := List.cons.inj further
      have other : mark ≠ ')' := by
        rintro rfl
        exact noCloseRead (by simp)
      have blank : mark = ' ' := by simpa [endsName, other] using ends
      exact .inr ⟨later, by rw [blank]⟩
  · cases less with
    | nil => exact .inl (List.append_nil _).symm
    | cons c others =>
      obtain ⟨rfl, _⟩ := List.cons.inj further
      exact absurd (by simp) noCloseStart

/-- A name that ends early is read only up to there, behind the names before it. -/
theorem components_of_cut (label : '=' ∉ p.label.toList)
    (shape : p.components = front ++ String.ofList (word ++ mark :: rest) :: back)
    (before : ∀ n ∈ front, ∀ d ∈ n.toList, endsName d = false)
    (plain : ∀ d ∈ word, endsName d = false) (ends : endsName mark = true)
    (found : read p.header = .ok q) :
    ∃ others, q.components = front ++ String.ofList word :: others := by
  obtain ⟨noBlank, noClose⟩ := apart_of_endsName plain
  have blanks : ∀ n ∈ front, ' ' ∉ n.toList :=
    fun n member => (apart_of_endsName (before n member)).1
  let start := front.flatMap (fun n => n.toList ++ [' ']) ++ word
  have noCloseStart : ')' ∉ start := by
    simp only [start, List.mem_append, List.mem_flatMap, List.mem_singleton, not_or, not_exists,
      not_and]
    exact ⟨fun n member => ⟨(apart_of_endsName (before n member)).2, by decide⟩, noClose⟩
  obtain ⟨ahead, inner, after, value, ⟨qLabel, noOpen, noCloseInner⟩, components, _⟩ :=
    read_eq_ok found
  obtain ⟨behind, written⟩ := inside_append front back (String.ofList (word ++ mark :: rest))
  rw [header, String.toList_append, String.toList_append, toList_render, shape, written,
    List.append_assoc] at value
  obtain ⟨_, value⟩ := fronts_eq_of_append_eq label qLabel value
  have opensAtOnce : '(' ∉ ([] : List Char) := List.not_mem_nil
  obtain ⟨_, value⟩ := fronts_eq_of_append_eq opensAtOnce noOpen value
  have reached : inner = start ∨ ∃ later, inner = start ++ ' ' :: later := by
    apply reaches_mark ends noCloseStart noCloseInner
    simpa [start] using value
  rw [components]
  rcases reached with rfl | ⟨later, rfl⟩
  · refine ⟨[], ?_⟩
    rw [splitOn_names blanks, List.splitOn_eq_singleton noBlank]
    simp
  · refine ⟨(later.splitOn ' ').map String.ofList, ?_⟩
    rw [List.append_assoc, splitOn_names blanks, List.splitOn_append_cons_self_of_not_mem noBlank]
    simp

end Params

/-- Requests that differ in their headers alone show the same, or at least no line break. -/
theorem shownValue_alike (r : Request) (headers : Headers) (digest : Labelled) (name : String) :
    shownValue r digest name = shownValue { r with headers } digest name ∨
      (Text.OneLine (shownValue r digest name) ∧
        Text.OneLine (shownValue { r with headers } digest name)) := by
  by_cases isPart : name ∈ Params.requestParts
  · simp only [Params.requestParts, List.mem_cons, List.not_mem_nil, or_false] at isPart
    rcases isPart with rfl | rfl | rfl
    all_goals exact .inl rfl
  by_cases isDigest : name = contentDigestName
  · exact .inl (by rw [isDigest, shownValue_digest, shownValue_digest])
  by_cases isOther : name.toList.head? = some '@'
  · simp only [Params.requestParts, List.mem_cons, List.not_mem_nil, or_false, not_or] at isPart
    exact .inl (by simp [shownValue, componentValue, isPart, isDigest, isOther])
  · rw [shownValue_header _ _ isPart isDigest isOther, shownValue_header _ _ isPart isDigest isOther]
    exact .inr ⟨Headers.oneLine_getD_text? _ _, Headers.oneLine_getD_text? _ _⟩

/-- Where one list has a name and the other what is left of it, the signed texts part. -/
theorem base_ne_of_cut {p q : Params} {r : Request} {headers : Headers} {digest : Labelled}
    {text : String} {front back others : List String} {word rest : List Char} {mark : Char}
    (whole : p.components = front ++ String.ofList (word ++ mark :: rest) :: back)
    (cut : q.components = front ++ String.ofList word :: others) (ends : endsName mark = true)
    (made : base p r digest = .ok text) :
    base q { r with headers } digest ≠ .ok text := by
  intro made'
  have same := (base_eq_ok_iff.1 made).2.symm.trans (base_eq_ok_iff.1 made').2
  simp only [baseLines, whole, cut, List.map_append, List.map_cons, List.append_assoc,
    List.cons_append, joinLines_append, joinLines_cons] at same
  obtain ⟨_, behind⟩ := values_eq_of_joinLines_eq
    (fun c _ => shownValue_alike r headers digest c) same
  have quote : mark = '"' := by
    simp only [lineChars, String.toList_ofList, List.cons_append, List.cons.injEq, true_and,
      List.append_assoc, List.append_cancel_left_eq] at behind
    exact behind.1
  rw [quote] at ends
  cases ends

/-- Signing takes just the names that are supported and fit into a header. -/
theorem sign_succeeds_iff {signer : Signer} {created : Int} {extra : List String} {r : Request} :
    (sign signer created extra r).1 = .ok () ↔ ∀ e ∈ extra, Signable (Params.componentName e) := by
  have value : Headers.IsValue (Params.new created extra).header ↔
      ∀ e ∈ extra, Headers.IsValue (Params.componentName e) :=
    Params.forall_mem_header_new fun _ text => (Headers.byte_of_isTextChar text).2
  constructor
  · intro done
    obtain ⟨text, made, signedText, _, fits, _⟩ := sign_eq_ok_iff.1 (Prod.ext done rfl)
    have supported : ∀ e ∈ extra, Supported (Params.componentName e) :=
      Params.forall_named (.inr (by decide)) (base_eq_ok_iff.1 signedText).1
    exact fun e listed => ⟨supported e listed, value.1 fits e listed⟩
  · intro signable
    have supported : ∀ name ∈ (Params.new created extra).components, Supported name :=
      Params.forall_mem_new (by decide) fun e listed => (signable e listed).supported
    obtain ⟨text, signedText⟩ := exists_base r (Labelled.ofBody r.body) supported
    have fits := value.2 fun e listed => (signable e listed).value
    exact congrArg Prod.fst (sign_eq_ok_iff.2 ⟨text, _, signedText, rfl, fits, rfl⟩)

/-! ### What a signed request says -/

/-- The header of a signed request parses as what was declared reads. -/
theorem parsed_eq_ok_iff {made : Seal} {digest signature : String} {params p : Params}
    (parts : Seal.mk digest params.header signature = made) {headers : Headers} :
    (givenText (made.headers headers) inputName >>= Params.parse) = .ok p ↔
      Headers.IsText params.header ∧ Params.read params.header = .ok p := by
  rw [Outcome.bind_eq_ok_iff, ← Seal.exists_input_iff parts headers]
  simp only [Params.parse, Outcome.mapError_eq_ok_iff]

section

variable {signer : Signer} {created : Int} {extra : List String} {r : Request} {text : String}
  {made : Seal} (signedText : base (Params.new created extra) r (Labelled.ofBody r.body) = .ok text)
  (parts : Seal.mk (Labelled.ofBody r.body).render (Params.new created extra).header
    (Labelled.ofSignature (signer.sign (bytesOf text))).render = made)

/-- The list reads back as it was declared if each name does. -/
theorem read_header_new_iff :
    Headers.IsText (Params.new created extra).header ∧
        Params.read (Params.new created extra).header = .ok (Params.new created extra) ↔
      ∀ e ∈ extra, Declarable (Params.componentName e) := by
  rw [Params.isText_header_new_iff]
  constructor
  · rintro ⟨plain, found⟩
    have separate := Params.listed_of_read found
    have noBlank := Params.forall_named (P := fun name => ' ' ∉ name.toList) (by decide)
      separate.noBlank
    have noClose := Params.forall_named (P := fun name => ')' ∉ name.toList) (by decide)
      separate.noClose
    exact fun e listed => ⟨plain e listed, noBlank e listed, noClose e listed⟩
  · intro declarable
    have listed : Params.Listed (Params.new created extra).components :=
      Params.listed_new_of_apart fun e listed =>
        ⟨(declarable e listed).noBlank, (declarable e listed).noClose⟩
    exact ⟨fun e listed => (declarable e listed).text,
      Params.read_header (Params.wellFormed_new listed)⟩

section

include signedText

/-- What is rebuilt was read as it was declared. -/
theorem apart_of_rebuilt {said : Carried} {headers : Headers}
    (found : Params.read (Params.new created extra).header = .ok said.params)
    (rebuilt : base said.params { r with headers } (Labelled.ofBody r.body) = .ok text) :
    ∀ name ∈ (Params.new created extra).components, ∀ c ∈ name.toList, endsName c = false := by
  intro name declared c member
  by_contra ends
  rw [Bool.not_eq_false] at ends
  obtain ⟨front, word, mark, rest, back, whole, before, plain, endsHere⟩ :=
    Params.exists_cut declared member ends
  obtain ⟨others, cut⟩ := Params.components_of_cut (show '=' ∉ "iam".toList by decide) whole before
    plain endsHere found
  exact base_ne_of_cut whole cut endsHere signedText rebuilt

/-- Values that make the same text are the same. -/
theorem shownValue_of_rebuilt {headers : Headers}
    (rebuilt : base (Params.new created extra) { r with headers } (Labelled.ofBody r.body) = .ok text) :
    ∀ name ∈ (Params.new created extra).components,
      shownValue r (Labelled.ofBody r.body) name =
        shownValue { r with headers } (Labelled.ofBody r.body) name := by
  have same := (base_eq_ok_iff.1 signedText).2.symm.trans (base_eq_ok_iff.1 rebuilt).2
  simp only [baseLines, joinLines_append] at same
  exact (values_eq_of_joinLines_eq (fun c _ => shownValue_alike r headers _ c) same).1

/-- The same list makes the same text of the signed request just if the headers of the seal keep what
they counted for. -/
theorem base_eq_ok_iff_settled :
    base (Params.new created extra) { r with headers := made.headers r.headers }
        (Labelled.ofBody r.body) = .ok text ↔
      ∀ e ∈ extra, Settled (Params.componentName e) r
        { r with headers := made.headers r.headers } := by
  have header (name : String) (isSeal : name = inputName ∨ name = signatureName) (q : Request) :
      shownValue q (Labelled.ofBody r.body) name = (q.headers.text? name).getD "" := by
    rcases isSeal with rfl | rfl
    all_goals exact shownValue_header _ _ (by decide) (by decide) (by decide)
  constructor
  · intro rebuilt e listed isSeal
    have given : Params.componentName e ≠ "" := by
      rcases isSeal with same | same
      all_goals
        rw [same]
        decide
    have value := shownValue_of_rebuilt signedText rebuilt _
      (Params.mem_new.2 (.inr ⟨e, listed, rfl, given⟩))
    rw [header _ isSeal, header _ isSeal] at value
    exact value.symm
  · intro settled
    refine base_congr (fun name declared => ?_) signedText
    by_cases isSeal : name = inputName ∨ name = signatureName
    · have apart : ∀ n ∈ Params.standard, ¬ (n = inputName ∨ n = signatureName) := by decide
      rw [header _ isSeal, header _ isSeal]
      rcases Params.mem_new.1 declared with isBase | ⟨e, listed, rfl, _⟩
      · exact absurd isSeal (apart name isBase)
      · exact settled e listed isSeal
    · rw [not_or] at isSeal
      exact Seal.shownValue_headers_of_ne declared isSeal.1 isSeal.2

end

include parts

/-- What a signed request says of itself, if every name is read as it was declared. -/
theorem carried_of_declarable (declarable : ∀ e ∈ extra, Declarable (Params.componentName e)) :
    Carried.In ⟨Labelled.ofBody r.body, Labelled.ofSignature (signer.sign (bytesOf text)),
      Params.new created extra⟩ (made.headers r.headers) :=
  (Seal.in_headers_iff parts _).2 ⟨⟨rfl, rfl⟩, read_header_new_iff.2 declarable⟩

include signedText

/-- Who gets back to the signed text has read the list as it was declared. -/
theorem declarable_of_faithful
    (faithful : Faithful text { r with headers := made.headers r.headers }) :
    (∀ e ∈ extra, Declarable (Params.componentName e)) ∧
      base (Params.new created extra) { r with headers := made.headers r.headers }
        (Labelled.ofBody r.body) = .ok text := by
  obtain ⟨said, inside, rebuilt⟩ := faithful
  obtain ⟨⟨digest, _⟩, plain, found⟩ := (Seal.in_headers_iff parts _).1 inside
  rw [digest] at rebuilt
  have apart : ∀ e ∈ extra, ∀ c ∈ (Params.componentName e).toList, endsName c = false :=
    Params.forall_named (P := fun name => ∀ c ∈ name.toList, endsName c = false) (by simp)
      (apart_of_rebuilt signedText found rebuilt)
  have declarable : ∀ e ∈ extra, Declarable (Params.componentName e) := by
    intro e listed
    obtain ⟨noBlank, noClose⟩ := apart_of_endsName (apart e listed)
    exact ⟨Params.isText_header_new_iff.1 plain e listed, noBlank, noClose⟩
  obtain ⟨_, back⟩ := read_header_new_iff.2 declarable
  rw [found, Except.ok.injEq] at back
  rw [back] at rebuilt
  exact ⟨declarable, rebuilt⟩

/-- A verifier gets back to the signed text just if every name is read as it was declared and counts
for what it counted for. -/
theorem faithful_iff : Faithful text { r with headers := made.headers r.headers } ↔
    ∀ e ∈ extra, Declarable (Params.componentName e) ∧
      Settled (Params.componentName e) r { r with headers := made.headers r.headers } := by
  constructor
  · intro faithful e listed
    obtain ⟨declarable, rebuilt⟩ := declarable_of_faithful signedText parts faithful
    exact ⟨declarable e listed, (base_eq_ok_iff_settled signedText).1 rebuilt e listed⟩
  · intro each
    refine ⟨_, carried_of_declarable parts fun e listed => (each e listed).1, ?_⟩
    exact (base_eq_ok_iff_settled signedText).2 fun e listed => (each e listed).2

variable {verifiers : List Verifier} {required : List String}

theorem verify_of_faithful
    (faithful : Faithful text { r with headers := made.headers r.headers })
    (known : ∃ v ∈ verifiers, ∀ m, v.accepts m (signer.sign m) = true)
    (covered : ∀ name ∈ required, name ∈ (Params.new created extra).components) :
    verify verifiers required { r with headers := made.headers r.headers } =
      .ok (Params.new created extra) := by
  obtain ⟨declarable, rebuilt⟩ := declarable_of_faithful signedText parts faithful
  have inside := carried_of_declarable parts declarable
  exact verify_of_carried inside rebuilt known covered

theorem verify_ne_ok_of_not_faithful
    (unfaithful : ¬ Faithful text { r with headers := made.headers r.headers })
    (sole : ∀ v ∈ verifiers, ∀ m, v.accepts m (signer.sign (bytesOf text)) = true → m = bytesOf text)
    (params : Params) :
    verify verifiers required { r with headers := made.headers r.headers } ≠ .ok params := by
  intro accepted
  obtain ⟨said, inside, judged⟩ := verify_eq_ok_iff.1 accepted
  obtain ⟨_, _, _, rebuilt, madeText, agreed⟩ := Carried.judge_eq_ok_iff.1 judged
  obtain ⟨⟨_, signature⟩, _, _⟩ := (Seal.in_headers_iff parts _).1 inside
  obtain ⟨v, isKey, accepts⟩ := List.any_eq_true.1 agreed
  rw [signature] at accepts
  obtain rfl := bytesOf_injective (sole v isKey _ accepts)
  exact unfaithful ⟨said, inside, madeText⟩

end

/-- Signing takes every name that is supported and fits into a header. What it declares reads back just
if each name is text and does not end early, and a verifier gets back to the signed text just if,
besides, the headers of the seal keep their values. All who know the signer then accept; otherwise
nobody does for whom the signature belongs to the signed text alone. -/
theorem faithful_or_lost (signer : Signer) (created : Int) (extra : List String) (r : Request) :
    ((sign signer created extra r).1 = .ok () ↔ ∀ e ∈ extra, Signable (Params.componentName e)) ∧
    ∀ signed, sign signer created extra r = (.ok (), signed) →
      ((givenText signed.headers inputName >>= Params.parse) = .ok (Params.new created extra) ↔
        ∀ e ∈ extra, Declarable (Params.componentName e)) ∧
      ∃ text, base (Params.new created extra) r (Labelled.ofBody r.body) = .ok text ∧
        (Faithful text signed ↔ ∀ e ∈ extra, Declarable (Params.componentName e) ∧
          Settled (Params.componentName e) r signed) ∧
        ∀ verifiers required,
          (Faithful text signed → (∃ v ∈ verifiers, ∀ m, v.accepts m (signer.sign m) = true) →
            (∀ name ∈ required, name ∈ (Params.new created extra).components) →
              verify verifiers required signed = .ok (Params.new created extra)) ∧
          (¬ Faithful text signed →
            (∀ v ∈ verifiers, ∀ m, v.accepts m (signer.sign (bytesOf text)) = true →
              m = bytesOf text) →
            ∀ params, verify verifiers required signed ≠ .ok params) := by
  refine ⟨sign_succeeds_iff, fun signed done => ?_⟩
  obtain ⟨text, made, signedText, parts, _, rfl⟩ := sign_eq_ok_iff.1 done
  refine ⟨(parsed_eq_ok_iff parts).trans read_header_new_iff, text, signedText,
    faithful_iff signedText parts, fun verifiers required => ⟨?_, ?_⟩⟩
  · exact verify_of_faithful signedText parts
  · exact verify_ne_ok_of_not_faithful signedText parts

/-- Names to be tidied first; one keeps a tab, a quote and marks of the header. -/
def oddExtras : List String := [" Sub-Account", "X\t(\"y;z=\u00a0"]

/-- Odd as they are, these names are declared and accepted. A letter beyond ASCII is signed as well, and
lost. -/
theorem faithful_or_lost_odd :
    (∃ signed, sign someKey.signer 1 oddExtras stale = (.ok (), signed) ∧
      (givenText signed.headers inputName >>= Params.parse) = .ok (Params.new 1 oddExtras) ∧
      verify [knowing someKey.signer] ["sub-account"] signed = .ok (Params.new 1 oddExtras)) ∧
    ∃ signed text, sign someKey.signer 1 ["x-f\u00fcr"] stale = (.ok (), signed) ∧
      ∀ params, verify [⟨fun m _ => m == bytesOf text⟩] [] signed ≠ .ok params := by
  constructor
  · have signable : ∀ e ∈ oddExtras, Signable (Params.componentName e) := by decide
    have declarable : ∀ e ∈ oddExtras, Declarable (Params.componentName e) := by decide
    have apart : ∀ e ∈ oddExtras,
        ¬ (Params.componentName e = inputName ∨ Params.componentName e = signatureName) := by decide
    obtain ⟨succeeds, rest⟩ := faithful_or_lost someKey.signer 1 oddExtras stale
    have done : sign someKey.signer 1 oddExtras stale = (.ok (), _) :=
      Prod.ext (succeeds.2 signable) rfl
    obtain ⟨parsed, text, _, faithful, judged⟩ := rest _ done
    have rebuilt := faithful.2 fun e listed =>
      ⟨declarable e listed, fun isSeal => absurd isSeal (apart e listed)⟩
    refine ⟨_, done, parsed.2 declarable,
      (judged _ _).1 rebuilt ⟨_, List.mem_singleton_self _, ?_⟩ (by decide)⟩
    intro m
    exact beq_self_eq_true _
  · have signable : ∀ e ∈ ["x-f\u00fcr"], Signable (Params.componentName e) := by decide
    obtain ⟨succeeds, rest⟩ := faithful_or_lost someKey.signer 1 ["x-f\u00fcr"] stale
    have done : sign someKey.signer 1 ["x-f\u00fcr"] stale = (.ok (), _) :=
      Prod.ext (succeeds.2 signable) rfl
    obtain ⟨_, text, _, faithful, judged⟩ := rest _ done
    refine ⟨_, text, done, (judged _ _).2 ?_ ?_⟩
    · intro rebuilt
      exact absurd (faithful.1 rebuilt _ (List.mem_singleton_self _)).1 (by decide)
    · intro v listed m accepts
      obtain rfl := List.mem_singleton.1 listed
      simpa using accepts

/-- A transfer that nobody has signed yet. -/
def unsigned : Request where
  method := "POST"
  path := "/v1/exchanges/okx/account-transfer"
  query := ""
  headers := .empty
  body := bytesOf "\x7b\x7d"

/-- Two names in one extra: signing succeeds, two headers are declared where one name was signed, and
nobody accepts. -/
theorem lost_to_blank : ∃ signed text,
    sign someKey.signer 1 ["x-trace x-user"] unsigned = (.ok (), signed) ∧
      base (Params.new 1 ["x-trace x-user"]) unsigned (Labelled.ofBody unsigned.body) = .ok text ∧
      (Params.new 1 ["x-trace x-user"]).components = Params.standard ++ ["x-trace x-user"] ∧
      (givenText signed.headers inputName >>= Params.parse) =
        .ok ⟨"iam", Params.standard ++ ["x-trace", "x-user"], [("created", "\"1\"")]⟩ ∧
      ∀ verifiers required,
        (∀ v ∈ verifiers, ∀ m, v.accepts m (someKey.signer.sign (bytesOf text)) = true →
          m = bytesOf text) →
        ∀ params, verify verifiers required signed ≠ .ok params := by
  have plain : Headers.IsText (Params.new 1 ["x-trace x-user"]).header :=
    Params.isText_header_new_iff.2 (by decide)
  have supported : ∀ name ∈ (Params.new 1 ["x-trace x-user"]).components, Supported name := by
    decide
  have read : Params.read (Params.new 1 ["x-trace x-user"]).header =
      .ok ⟨"iam", Params.standard ++ ["x-trace", "x-user"], [("created", "\"1\"")]⟩ := by
    decide +kernel
  obtain ⟨text, signedText⟩ := exists_base unsigned (Labelled.ofBody unsigned.body) supported
  obtain ⟨made, parts⟩ : ∃ made, Seal.mk (Labelled.ofBody unsigned.body).render
      (Params.new 1 ["x-trace x-user"]).header
      (Labelled.ofSignature (someKey.signer.sign (bytesOf text))).render = made := ⟨_, rfl⟩
  have lost : ¬ Faithful text { unsigned with headers := made.headers unsigned.headers } := by
    intro faithful
    obtain ⟨declarable, _⟩ :=
      (faithful_iff signedText parts).1 faithful _ (List.mem_singleton_self _)
    exact absurd declarable.noBlank (by decide)
  refine ⟨_, text, sign_eq_ok_iff.2 ⟨text, made, signedText, parts, plain.isValue, rfl⟩, signedText,
    by decide, (parsed_eq_ok_iff parts).2 ⟨plain, read⟩, ?_⟩
  intro verifiers required sole params
  exact verify_ne_ok_of_not_faithful signedText parts lost sole params

end Countersign.Signature
