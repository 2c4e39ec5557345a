import Countersign.Proofs.Acceptance
import Countersign.Proofs.Declared
import Countersign.Proofs.HeaderText
import Countersign.Proofs.Readback

/-! What is signed verifies: the headers of a seal are text, read back as they were made, and leave
every covered value as it was when it was signed. -/
namespace Countersign

theorem Headers.isTextChar_of_isTokenChar {c : Char} (token : isTokenChar c = true) :
    isTextChar c = true := by
  have ascii := isTokenChar_ascii token
  revert token
  exact forall_ascii c ascii (by decide +kernel)

namespace Signature

namespace Params

/-- The seconds of a declared time read back, in the whole range of 64 bits. -/
theorem created?_new {created : Int} (extra : List String) (low : Text.int64Min ≤ created)
    (high : created ≤ Text.int64Max) : (new created extra).created? = some created := by
  have found : (new created extra).attribute? "created" = some (createdText created) := by
    simp [attribute?, new]
  have shape : (createdText created).toList = '"' :: (Text.ofInt created).toList ++ ['"'] := by
    simp [createdText, String.toList_append]
  have unquoted : '"' ∉ (Text.ofInt created).toList := by
    intro quote
    rcases Text.mem_ofInt quote with sign | digit
    · cases sign
    · exact (Text.isTextChar_of_isDigit digit).2 rfl
  rw [created?, found, Option.bind_some, shape, Text.dropEnds_between unquoted,
    String.ofList_toList, Text.int64?_ofInt low high]

section

variable {created : Int} {extra : List String}

/-- All of the header but the names is text, whatever is covered. -/
theorem forall_mem_header_new {P : Char → Prop} (text : ∀ c, Headers.isTextChar c = true → P c) :
    (∀ c ∈ (new created extra).header.toList, P c) ↔
      ∀ e ∈ extra, ∀ c ∈ (componentName e).toList, P c := by
  have shape : (new created extra).header.toList = (new created extra).label.toList ++
      '=' :: '(' :: (inside (new created extra).components ++
        ')' :: ';' :: List.intercalate [';']
          (((new created extra).attributes.map renderPair).map String.toList)) := by
    rw [header, String.toList_append, String.toList_append, toList_render]
    simp
  constructor
  · intro all
    have declared : ∀ name ∈ (new created extra).components, ∀ c ∈ name.toList, P c := by
      intro name listed c member
      have within : c ∈ inside (new created extra).components :=
        (sublist_intercalate (List.mem_map_of_mem listed)).subset member
      refine all c ?_
      rw [shape]
      simp [within]
    exact forall_named (P := fun name => ∀ c ∈ name.toList, P c) (by simp) declared
  · intro names
    have label : ∀ c ∈ (new created extra).label.toList, P c := by
      have plain : Headers.IsText "iam" := by decide
      exact fun c member => text c (plain c member)
    have pairs : ∀ c ∈ List.intercalate [';']
        (((new created extra).attributes.map renderPair).map String.toList), P c := by
      have plain : Headers.IsText "created" := by decide
      intro c member
      simp only [new, renderPair, createdText, List.map_cons, List.map_nil,
        List.intercalate_singleton, String.toList_append, List.mem_append] at member
      apply text
      rcases member with (inKey | equals) | (front | number) | back
      · exact plain c inKey
      · obtain rfl : c = '=' := by simpa using equals
        decide
      · obtain rfl : c = '"' := by simpa using front
        decide
      · rcases Text.mem_ofInt number with rfl | digit
        · decide
        · exact (Text.isTextChar_of_isDigit digit).1
      · obtain rfl : c = '"' := by simpa using back
        decide
    have components : ∀ c ∈ inside (new created extra).components, P c := by
      have base : ∀ name ∈ standard, Headers.IsText name := by decide
      have all : ∀ name ∈ (new created extra).components, ∀ c ∈ name.toList, P c :=
        forall_mem_new (fun name isBase c here => text c (base name isBase c here)) names
      intro c member
      rcases mem_of_mem_intercalate member with rfl | ⟨piece, inPieces, here⟩
      · exact text ' ' (by decide)
      · obtain ⟨name, declared, rfl⟩ := List.mem_map.1 inPieces
        exact all name declared c here
    intro c member
    rw [shape] at member
    simp only [List.mem_append, List.mem_cons] at member
    rcases member with inLabel | rfl | rfl | inList | rfl | rfl | inPairs
    · exact label c inLabel
    · exact text '=' (by decide)
    · exact text '(' (by decide)
    · exact components c inList
    · exact text ')' (by decide)
    · exact text ';' (by decide)
    · exact pairs c inPairs

/-- Names are declared in lower case. -/
theorem lower_of_mem_new {name : String} (declared : name ∈ (new created extra).components) :
    Text.lower name = name := by
  have base : ∀ n ∈ standard, Text.lower n = n := by decide
  exact forall_mem_new (P := fun n => Text.lower n = n) base (fun _ _ => Text.lower_lower _) name
    declared

theorem isText_header_new_iff : Headers.IsText (new created extra).header ↔
    ∀ e ∈ extra, Headers.IsText (componentName e) :=
  forall_mem_header_new fun _ text => text

/-- A name of a header is text. -/
theorem isText_of_isToken {name : String} (token : Headers.isToken name = true) :
    Headers.IsText name :=
  fun _ member => Headers.isTextChar_of_isTokenChar (isTokenChar_of_mem token member)

theorem wellFormed_new (listed : Listed (new created extra).components) :
    WellFormed (new created extra) where
  label := by
    show '=' ∉ "iam".toList
    decide
  listed := listed
  keys := by
    intro pair listed
    obtain rfl := List.mem_singleton.1 listed
    have plain : '=' ∉ "created".toList ∧ ';' ∉ "created".toList := by decide
    exact plain
  values := by
    intro pair listed
    obtain rfl := List.mem_singleton.1 listed
    have apart (mark : Char) (other : mark ≠ '-') (noDigit : Text.isDigit mark = false) :
        mark ∉ (Text.ofInt created).toList := by
      intro member
      rcases Text.mem_ofInt member with same | digit
      · exact other same
      · rw [noDigit] at digit
        cases digit
    have equals := apart '=' (by decide) (by decide)
    have semicolon := apart ';' (by decide) (by decide)
    constructor
    · simpa [createdText, String.toList_append] using equals
    · simpa [createdText, String.toList_append] using semicolon

end

end Params

/-- The headers of a request once it carries a seal. -/
def Seal.headers (s : Seal) (h : Headers) : Headers :=
  ((h.insert contentDigestName (bytesOf s.contentDigest)).insert inputName
    (bytesOf s.signatureInput)).insert signatureName (bytesOf s.signature)

/-- Texts go in if each of them is a value. -/
theorem place_eq_ok_iff {pairs : List (String × String)} {h h' : Headers} :
    place pairs h = (.ok (), h') ↔
      (∀ pair ∈ pairs, Headers.IsValue pair.2) ∧
        h' = pairs.foldl (fun h pair => h.insert pair.1 (bytesOf pair.2)) h := by
  induction pairs generalizing h with
  | nil => simp [place, eq_comm]
  | cons pair rest ih =>
    rw [place, List.forall_mem_cons, List.foldl_cons]
    cases value : Headers.valueOf? pair.2 with
    | none =>
      have unfit : ¬ Headers.IsValue pair.2 := by
        intro fits
        rw [Headers.valueOf?_eq_some_iff.2 ⟨fits, rfl⟩] at value
        cases value
      simp [unfit]
    | some bytes =>
      obtain ⟨fits, rfl⟩ := Headers.valueOf?_eq_some_iff.1 value
      simp only [ih, fits, true_and]

namespace Seal

variable {signer : Signer} {created : Int} {extra : List String} {r : Request} {made : Seal}

theorem get?_headers_of_ne {h : Headers} {name : String}
    (notDigest : Text.lower name ≠ contentDigestName) (notInput : Text.lower name ≠ inputName)
    (notSignature : Text.lower name ≠ signatureName) :
    (made.headers h).get? name = h.get? name := by
  have lowered : Text.lower contentDigestName = contentDigestName ∧
      Text.lower inputName = inputName ∧ Text.lower signatureName = signatureName := by decide
  rw [headers, Headers.get?_insert, lowered.2.2, if_neg notSignature, Headers.get?_insert,
    lowered.2.1, if_neg notInput, Headers.get?_insert, lowered.1, if_neg notDigest]

theorem get?_headers_digest (h : Headers) :
    (made.headers h).get? contentDigestName = some (bytesOf made.contentDigest) := by
  have apart : Text.lower contentDigestName ≠ Text.lower signatureName ∧
      Text.lower contentDigestName ≠ Text.lower inputName := by decide
  rw [headers, Headers.get?_insert, if_neg apart.1, Headers.get?_insert, if_neg apart.2,
    Headers.get?_insert, if_pos rfl]

theorem get?_headers_input (h : Headers) :
    (made.headers h).get? inputName = some (bytesOf made.signatureInput) := by
  have apart : Text.lower inputName ≠ Text.lower signatureName := by decide
  rw [headers, Headers.get?_insert, if_neg apart, Headers.get?_insert, if_pos rfl]

theorem get?_headers_signature (h : Headers) :
    (made.headers h).get? signatureName = some (bytesOf made.signature) := by
  rw [headers, Headers.get?_insert, if_pos rfl]

end Seal

theorem render_ne_empty (l : Labelled) : l.render ≠ "" := by
  intro empty
  have chars := Labelled.toList_render l
  rw [empty] at chars
  simp at chars

theorem header_ne_empty (p : Params) : p.header ≠ "" := by
  intro empty
  have chars : p.header.toList = p.label.toList ++ '=' :: p.render.toList := by
    simp [Params.header, String.toList_append]
  rw [empty] at chars
  simp at chars

/-- A header that holds the bytes of a text shows that text, if it shows any. -/
theorem givenText_bytesOf_iff {h : Headers} {name s text : String}
    (value : h.get? name = some (bytesOf s)) (notEmpty : s ≠ "") :
    givenText h name = .ok text ↔ Headers.IsText s ∧ text = s := by
  rw [givenText_eq_ok_iff, Headers.isGiven, Headers.text?, value, Option.any_some,
    Option.bind_some, Headers.textOf?_bytesOf_eq_some_iff]
  constructor
  · rintro ⟨_, shown⟩
    exact shown
  · rintro ⟨plain, rfl⟩
    refine ⟨?_, plain, rfl⟩
    rw [Headers.bytesOf_of_isText plain]
    simpa using notEmpty

/-- Such a header means what its text means. -/
theorem exists_given_iff {α : Type} {h : Headers} {name s : String}
    {read : String → Except Malformation α} {meaning : α}
    (value : h.get? name = some (bytesOf s)) (notEmpty : s ≠ "") :
    (∃ text, givenText h name = .ok text ∧ read text = .ok meaning) ↔
      Headers.IsText s ∧ read s = .ok meaning := by
  simp only [givenText_bytesOf_iff value notEmpty]
  constructor
  · rintro ⟨_, ⟨plain, rfl⟩, found⟩
    exact ⟨plain, found⟩
  · rintro ⟨plain, found⟩
    exact ⟨s, ⟨plain, rfl⟩, found⟩

/-- What is put down as covered means what it reads as, if it is text. -/
theorem Seal.exists_input_iff {made : Seal} {digest signature : String} {params p : Params}
    (parts : Seal.mk digest params.header signature = made) (h : Headers) :
    (∃ text, givenText (made.headers h) inputName = .ok text ∧ Params.read text = .ok p) ↔
      Headers.IsText params.header ∧ Params.read params.header = .ok p := by
  have notEmpty : made.signatureInput ≠ "" := by
    rw [← parts]
    exact header_ne_empty params
  rw [exists_given_iff (get?_headers_input h) notEmpty, ← parts]

/-- What a signer puts down says what it is made of, but for what is covered: that has to read. -/
theorem Seal.in_headers_iff {made : Seal} {said : Carried} {body bytes : Bytes} {params : Params}
    (parts : Seal.mk (Labelled.ofBody body).render params.header
      (Labelled.ofSignature bytes).render = made) (h : Headers) :
    said.In (made.headers h) ↔
      (said.digest = Labelled.ofBody body ∧ said.signature = Labelled.ofSignature bytes) ∧
        Headers.IsText params.header ∧ Params.read params.header = .ok said.params := by
  have labelled (l : Labelled) (plain : '=' ∉ l.label.toList) (text : Headers.IsText l.label)
      (meaning : Labelled) :
      (Headers.IsText l.render ∧ Labelled.read l.render = .ok meaning) ↔ meaning = l := by
    rw [Labelled.read_render plain, Except.ok.injEq, eq_comm]
    exact and_iff_right (Labelled.isText_render text)
  have digest : (∃ text, givenText (made.headers h) contentDigestName = .ok text ∧
      Labelled.read text = .ok said.digest) ↔ said.digest = Labelled.ofBody body := by
    rw [exists_given_iff (get?_headers_digest h) (by rw [← parts]; exact render_ne_empty _), ← parts]
    exact labelled _ (Labelled.label_ofBody body) (show Headers.IsText "sha-256" by decide) _
  have signature : (∃ text, givenText (made.headers h) signatureName = .ok text ∧
      Labelled.read text = .ok said.signature) ↔ said.signature = Labelled.ofSignature bytes := by
    rw [exists_given_iff (get?_headers_signature h) (by rw [← parts]; exact render_ne_empty _),
      ← parts]
    exact labelled _ (show '=' ∉ "iam".toList by decide) (show Headers.IsText "iam" by decide) _
  have input := Seal.exists_input_iff parts h (p := said.params)
  constructor
  · rintro ⟨d, s, p⟩
    exact ⟨⟨digest.1 d, signature.1 s⟩, input.1 p⟩
  · rintro ⟨⟨d, s⟩, p⟩
    exact ⟨digest.2 d, signature.2 s, input.2 p⟩

/-- The values of the seal fit into headers if the names that are covered do. -/
theorem Seal.apply_eq_ok_iff {made : Seal} {body bytes : Bytes} {params : Params}
    (parts : Seal.mk (Labelled.ofBody body).render params.header
      (Labelled.ofSignature bytes).render = made) {h h' : Headers} :
    made.apply h = (.ok (), h') ↔ Headers.IsValue params.header ∧ h' = made.headers h := by
  have digest : Headers.IsValue (Labelled.ofBody body).render :=
    (Labelled.isText_render (show Headers.IsText "sha-256" by decide)).isValue
  have signature : Headers.IsValue (Labelled.ofSignature bytes).render :=
    (Labelled.isText_render (show Headers.IsText "iam" by decide)).isValue
  rw [Seal.apply, place_eq_ok_iff, ← parts]
  simp [Seal.headers, digest, signature]

theorem sign_eq_ok_iff_apply {signer : Signer} {created : Int} {extra : List String}
    {r signed : Request} :
    sign signer created extra r = (.ok (), signed) ↔
      ∃ made headers, Seal.make signer created extra r = .ok made ∧
        made.apply r.headers = (.ok (), headers) ∧ signed = { r with headers } := by
  unfold sign
  cases Seal.make signer created extra r with
  | error fault => simp
  | ok made =>
    cases applied : made.apply r.headers
    constructor
    · intro done
      simp only [applied, Prod.mk.injEq] at done
      obtain ⟨rfl, rfl⟩ := done
      exact ⟨made, _, rfl, applied, rfl⟩
    · rintro ⟨_, _, sealed, fits, rfl⟩
      cases sealed
      simp only [fits]

/-- Signing succeeds if there is a text to sign and the names fit into a header. -/
theorem sign_eq_ok_iff {signer : Signer} {created : Int} {extra : List String} {r signed : Request} :
    sign signer created extra r = (.ok (), signed) ↔
      ∃ text made, base (Params.new created extra) r (Labelled.ofBody r.body) = .ok text ∧
        Seal.mk (Labelled.ofBody r.body).render (Params.new created extra).header
          (Labelled.ofSignature (signer.sign (bytesOf text))).render = made ∧
        Headers.IsValue (Params.new created extra).header ∧
        signed = { r with headers := made.headers r.headers } := by
  rw [sign_eq_ok_iff_apply]
  constructor
  · rintro ⟨made, headers, sealed, fits, rfl⟩
    obtain ⟨text, signedText, parts⟩ := Seal.make_eq_ok_iff.1 sealed
    obtain ⟨value, rfl⟩ := (Seal.apply_eq_ok_iff parts).1 fits
    exact ⟨text, made, signedText, parts, value, rfl⟩
  · rintro ⟨text, made, signedText, parts, value, rfl⟩
    exact ⟨made, _, Seal.make_eq_ok_iff.2 ⟨text, signedText, parts⟩,
      (Seal.apply_eq_ok_iff parts).2 ⟨value, rfl⟩, rfl⟩

/-- Keys that know the signer accept what says what it is made of, from its own text. -/
theorem verify_of_carried {signer : Signer} {created : Int} {extra : List String} {r : Request}
    {text : String} {verifiers : List Verifier} {required : List String}
    (inside : Carried.In ⟨Labelled.ofBody r.body, Labelled.ofSignature (signer.sign (bytesOf text)),
      Params.new created extra⟩ r.headers)
    (signed : base (Params.new created extra) r (Labelled.ofBody r.body) = .ok text)
    (known : ∃ v ∈ verifiers, ∀ m, v.accepts m (signer.sign m) = true)
    (covered : ∀ name ∈ required, name ∈ (Params.new created extra).components) :
    verify verifiers required r = .ok (Params.new created extra) := by
  obtain ⟨v, listed, accepts⟩ := known
  refine verify_eq_ok_iff.2 ⟨_, inside, Carried.judge_eq_ok_iff.2 ⟨rfl, ?_, rfl, text, signed, ?_⟩⟩
  · intro name demanded
    rcases List.mem_append.1 demanded with part | required
    · exact Params.mem_new.2 (.inl (List.mem_append_left _ part))
    · exact covered name required
  · exact List.any_eq_true.2 ⟨v, listed, accepts _⟩

/-- The seal leaves what is covered as it was, but for the headers that it goes into. -/
theorem Seal.shownValue_headers_of_ne {created : Int} {extra : List String} {r : Request}
    {made : Seal} {digest : Labelled} {name : String}
    (declared : name ∈ (Params.new created extra).components) (notInput : name ≠ inputName)
    (notSignature : name ≠ signatureName) :
    shownValue { r with headers := made.headers r.headers } digest name =
      shownValue r digest name := by
  by_cases isDigest : name = contentDigestName
  · rw [isDigest, shownValue_digest, shownValue_digest]
  have lowered := Params.lower_of_mem_new declared
  have kept : (made.headers r.headers).get? name = r.headers.get? name :=
    get?_headers_of_ne (by rwa [lowered]) (by rwa [lowered]) (by rwa [lowered])
  simp only [shownValue, componentValue, Headers.text?, kept]

/-- Names of headers that a signer may cover: the headers of the seal itself are not among them. -/
structure Coverable (name : String) : Prop where
  token : Headers.isToken name = true
  notSignature : name ≠ signatureName
  notInput : name ≠ inputName

/-- What is covered is neither the list of what is covered nor the signature. -/
theorem apart_of_coverable {created : Int} {extra : List String}
    (coverable : ∀ e ∈ extra, Coverable (Params.componentName e)) {name : String}
    (declared : name ∈ (Params.new created extra).components) :
    name ≠ inputName ∧ name ≠ signatureName := by
  refine Params.forall_mem_new (P := fun n => n ≠ inputName ∧ n ≠ signatureName) (by decide) ?_
    name declared
  exact fun e listed => ⟨(coverable e listed).notInput, (coverable e listed).notSignature⟩

namespace Seal

variable {signer : Signer} {created : Int} {extra : List String} {r : Request} {made : Seal}
  (coverable : ∀ e ∈ extra, Coverable (Params.componentName e))
include coverable

/-- The seal leaves what it covers as it was. -/
theorem shownValue_headers {digest : Labelled} {name : String}
    (declared : name ∈ (Params.new created extra).components) :
    shownValue { r with headers := made.headers r.headers } digest name =
      shownValue r digest name := by
  obtain ⟨notInput, notSignature⟩ := apart_of_coverable coverable declared
  exact shownValue_headers_of_ne declared notInput notSignature

/-- The seal of a request is made, fits into its headers, and says there what was signed. -/
theorem exists_carried (signer : Signer) (created : Int) (r : Request) :
    ∃ made text, make signer created extra r = .ok made ∧
      made.apply r.headers = (.ok (), made.headers r.headers) ∧
      Carried.In ⟨Labelled.ofBody r.body, Labelled.ofSignature (signer.sign (bytesOf text)),
        Params.new created extra⟩ (made.headers r.headers) ∧
      base (Params.new created extra) { r with headers := made.headers r.headers }
        (Labelled.ofBody r.body) = .ok text := by
  have tokens : ∀ e ∈ extra, Headers.isToken (Params.componentName e) = true :=
    fun e listed => (coverable e listed).token
  have input : Headers.IsText (Params.new created extra).header :=
    Params.isText_header_new_iff.2 fun e listed => Params.isText_of_isToken (tokens e listed)
  have wellFormed : (Params.new created extra).WellFormed :=
    Params.wellFormed_new (Params.listed_new tokens)
  obtain ⟨made, sealed⟩ := exists_seal signer created r tokens
  obtain ⟨text, signed, parts⟩ := make_eq_ok_iff.1 sealed
  refine ⟨made, text, sealed, (apply_eq_ok_iff parts).2 ⟨input.isValue, rfl⟩,
    (in_headers_iff parts _).2 ⟨⟨rfl, rfl⟩, input, Params.read_header wellFormed⟩, ?_⟩
  exact base_congr (fun c declared => shownValue_headers coverable declared) signed

/-- A sealed request verifies under every list of keys that knows its signer, if no more is demanded
than what the seal covers. -/
theorem verify_headers {signer : Signer} {r : Request} {made : Seal}
    (sealed : make signer created extra r = .ok made) {verifiers : List Verifier}
    {required : List String} (known : ∃ v ∈ verifiers, ∀ m, v.accepts m (signer.sign m) = true)
    (covered : ∀ name ∈ required, name ∈ (Params.new created extra).components) :
    verify verifiers required { r with headers := made.headers r.headers } =
      .ok (Params.new created extra) := by
  obtain ⟨made', text, sealed', _, inside, signed⟩ := exists_carried coverable signer created r
  rw [sealed, Except.ok.injEq] at sealed'
  subst sealed'
  exact verify_of_carried inside signed known covered

end Seal

/-- Signing puts the seal into the headers. -/
theorem exists_sign (signer : Signer) (created : Int) {extra : List String}
    (coverable : ∀ e ∈ extra, Coverable (Params.componentName e)) (r : Request) :
    ∃ made, Seal.make signer created extra r = .ok made ∧
      sign signer created extra r = (.ok (), { r with headers := made.headers r.headers }) := by
  obtain ⟨made, _, sealed, fits, _, _⟩ := Seal.exists_carried coverable signer created r
  refine ⟨made, sealed, ?_⟩
  rw [sign, sealed]
  dsimp only
  rw [fits]

/-- What is signed verifies. Whatever the headers were, the seal is made and fits, and the request
that carries it is accepted by all who know the signer and demand nothing that is not covered. -/
theorem verify_sealed (signer : Signer) {created : Int} {extra : List String} (r : Request)
    (low : Text.int64Min ≤ created) (high : created ≤ Text.int64Max)
    (coverable : ∀ e ∈ extra, Coverable (Params.componentName e)) :
    ∃ made headers, Seal.make signer created extra r = .ok made ∧
      made.apply r.headers = (.ok (), headers) ∧
      (Params.new created extra).created? = some created ∧
      ∀ verifiers required,
        (∃ v ∈ verifiers, ∀ m, v.accepts m (signer.sign m) = true) →
        (∀ name ∈ required, name ∈ (Params.new created extra).components) →
        verify verifiers required { r with headers } = .ok (Params.new created extra) := by
  obtain ⟨made, _, sealed, fits, _, _⟩ := Seal.exists_carried coverable signer created r
  refine ⟨made, _, sealed, fits, Params.created?_new extra low high, ?_⟩
  intro verifiers required known covered
  exact Seal.verify_headers coverable sealed known covered

/-- A verifier that takes just what the signer makes of a message. -/
def knowing (signer : Signer) : Verifier := ⟨fun m bytes => bytes == signer.sign m⟩

def someKey : SigningKey := ⟨List.replicate 32 7, by decide⟩

/-- A request that was signed before, with a sub-account that is no text. -/
def stale : Request where
  method := "POST"
  path := "/v1/exchanges/okx/account-transfer"
  query := "a=1&b="
  headers := (((Headers.empty.insert signatureName (bytesOf "iam=:x:")).append signatureName
    []).append subAccountName [0xff]).append contentDigestName []
  body := bytesOf "[]"

/-- The earliest time there is, and a name that has to be tidied first. -/
theorem verify_sealed_stale :
    ∃ made headers, Seal.make someKey.signer Text.int64Min [" Sub-Account"] stale = .ok made ∧
      made.apply stale.headers = (.ok (), headers) ∧
      verify [knowing someKey.signer] ["sub-account"] { stale with headers } =
        .ok (Params.new Text.int64Min [" Sub-Account"]) := by
  have coverable : ∀ e ∈ [" Sub-Account"], Coverable (Params.componentName e) := by
    intro e listed
    obtain rfl := List.mem_singleton.1 listed
    exact ⟨by decide, by decide, by decide⟩
  have low : Text.int64Min ≤ Text.int64Min := by decide
  have high : Text.int64Min ≤ Text.int64Max := by decide
  obtain ⟨made, headers, sealed, fits, _, accepted⟩ :=
    verify_sealed someKey.signer stale low high coverable
  refine ⟨made, headers, sealed, fits, accepted _ _ ⟨_, List.mem_singleton_self _, ?_⟩ (by decide)⟩
  intro m
  exact beq_self_eq_true _

end Signature

end Countersign
